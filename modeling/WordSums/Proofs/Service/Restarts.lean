import Mathlib.Data.List.Dedup
import Mathlib.Data.List.Perm.Subperm
import WordSums.Proofs.Ledger.Binary
import WordSums.Proofs.Ledger.Clients
import WordSums.Proofs.Ledger.Written
import WordSums.Proofs.Service.Accounting

/-!
# Restarts

A service can be stopped at any time and started again from a snapshot of its ledger, kept as text or as
bytes. As long as the clock does not run backwards between calls, every snapshot of a ledger that was empty at
first is consistent, and the ledger of such a snapshot is the ledger it was taken of. So a restart changes
nothing, and no caller can tell whether there was one.
-/

namespace WordSums

open WordSums.Time

namespace Call

/-- Calls in the order of their readings of the clock. -/
def Ordered (calls : List Call) : Prop :=
  calls.Pairwise fun earlier later => earlier.time ≤ later.time

/-- The questions of calls take up no more than 64 bits can count, like everything that is held in memory. -/
structure Addressable (calls : List Call) : Prop where
  questions : (calls.map Call.question).dedup.length < 2 ^ 64
  sizes : ∀ call ∈ calls, call.question.utf8ByteSize < 2 ^ 64

end Call

namespace Interpreter

variable {interpreter : Interpreter} {calls : List Call}

theorem question_mem_of_failure {failure : Failure} (hfailure : failure ∈ interpreter.failures calls) :
    failure.expression ∈ calls.map Call.question := by
  obtain ⟨call, hcall, hfails⟩ := List.mem_filterMap.1 hfailure
  obtain ⟨_, _, _, rfl⟩ := failure?_eq_some_iff.1 hfails
  exact List.mem_map_of_mem hcall

theorem failures_ordered (interpreter : Interpreter) (hordered : Call.Ordered calls) :
    (interpreter.failures calls).Pairwise fun earlier later => earlier.time ≤ later.time := by
  refine hordered.filterMap _ ?_
  intro earlier later hle first hfirst second hsecond
  obtain ⟨_, _, _, rfl⟩ := failure?_eq_some_iff.1 hfirst
  obtain ⟨_, _, _, rfl⟩ := failure?_eq_some_iff.1 hsecond
  exact hle

end Interpreter

namespace Service

/-- How a snapshot is kept while the service is down. -/
inductive Form where
  | text
  | bytes
deriving DecidableEq

def Form.reread : Form → Snapshot → Except SnapshotFault Snapshot
  | text, snapshot => Snapshot.ofJson snapshot.toJson
  | bytes, snapshot => Snapshot.ofBytes snapshot.toBytes

/-- The service started again from what is read of a snapshot of its ledger. -/
def restart (service : Service) (form : Form) (id : SnapshotId) (now : Timestamp) : Except SnapshotFault Service :=
  (form.reread (service.ledger.snapshot id now)).map fun snapshot => service.withLedger (.ofSnapshot snapshot)

inductive Event where
  | call (made : Call)
  | restart (form : Form) (id : SnapshotId) (now : Timestamp)

/-- The calls among events, which are all there is of them without restarts. -/
def Event.calls (events : List Event) : List Call :=
  events.filterMap fun
    | .call made => some made
    | .restart _ _ _ => none

/-- What calls are told and what becomes of the service, if every snapshot is accepted. -/
def run (service : Service) : List Event → Except SnapshotFault (List (Except ServiceFault (Option Int)) × Service)
  | [] => .ok ([], service)
  | .call made :: events =>
    ((service.serve made).2.run events).map fun rest => ((service.serve made).1 :: rest.1, rest.2)
  | .restart form id now :: events => (service.restart form id now).bind fun restarted => restarted.run events

variable {interpreter : Interpreter} {before all : List Call}

theorem check_snapshot_serveAll (interpreter : Interpreter) (hordered : Call.Ordered before) (id : SnapshotId)
    (now : Timestamp) :
    (((fresh interpreter).serveAll before).ledger.snapshot id now).check =
      .ok (((fresh interpreter).serveAll before).ledger.snapshot id now) := by
  have hseen := Ledger.seenForward_empty (interpreter.failures_ordered hordered)
  rw [serveAll_fresh]
  exact Ledger.check_snapshot_of_seenForward .empty hseen id now

theorem expression_mem_of_listed {record : FailureRecord}
    (hrecord : record ∈ ((fresh interpreter).serveAll before).ledger.records) :
    record.expression ∈ before.map Call.question := by
  obtain ⟨failure, hfailure, hsame⟩ := exists_listed_iff.1 ⟨record, hrecord, rfl⟩
  rw [← hsame]
  exact Interpreter.question_mem_of_failure hfailure

theorem addressable_snapshot (hbefore : before ⊆ all) (haddressable : Call.Addressable all) (id : SnapshotId)
    (now : Timestamp) : (((fresh interpreter).serveAll before).ledger.snapshot id now).Addressable := by
  have hquestion {record : FailureRecord} (hrecord : record ∈ ((fresh interpreter).serveAll before).ledger.records) :
      record.expression ∈ all.map Call.question :=
    List.map_subset _ hbefore (expression_mem_of_listed hrecord)
  apply Snapshot.Addressable.mk
  case records =>
    -- each question has one record, so there are no more records than questions
    have hdistinct := (inOrder_serveAll interpreter before).nodup
    have hsubset : ((fresh interpreter).serveAll before).ledger.records.map FailureRecord.expression ⊆
        (all.map Call.question).dedup := by
      intro expression hexpression
      obtain ⟨record, hrecord, rfl⟩ := List.mem_map.1 hexpression
      exact List.mem_dedup.2 (hquestion hrecord)
    have hfewer := (hdistinct.subperm hsubset).length_le
    rw [List.length_map] at hfewer
    exact Nat.lt_of_le_of_lt hfewer haddressable.questions
  case expressions =>
    intro record hrecord
    obtain ⟨call, hcall, hsame⟩ := List.mem_map.1 (hquestion hrecord)
    rw [← hsame]
    exact haddressable.sizes call hcall

/-- A restart gives the same service again. -/
theorem restart_serveAll (interpreter : Interpreter) (hordered : Call.Ordered before) (hbefore : before ⊆ all)
    {form : Form} (haddressable : form = .bytes → Call.Addressable all) (id : SnapshotId) (now : Timestamp) :
    ((fresh interpreter).serveAll before).restart form id now = .ok ((fresh interpreter).serveAll before) := by
  have hcheck := check_snapshot_serveAll interpreter hordered id now
  have hreread : form.reread (((fresh interpreter).serveAll before).ledger.snapshot id now) =
      .ok (((fresh interpreter).serveAll before).ledger.snapshot id now) := by
    cases form with
    | text => rw [Form.reread, Snapshot.ofJson_toJson, hcheck]
    | bytes => rw [Form.reread, (addressable_snapshot hbefore (haddressable rfl) id now).ofBytes_toBytes, hcheck]
  have hledger := Ledger.ofSnapshot_snapshot (inOrder_serveAll interpreter before) id now
  rw [restart, hreread]
  change Except.ok (Service.withLedger _ (Ledger.ofSnapshot _)) = _
  rw [hledger]
  rfl

/-- What comes after some calls is the same with restarts and without. -/
theorem run_serveAll (interpreter : Interpreter) (before : List Call) {events : List Event}
    (hordered : Call.Ordered (before ++ Event.calls events))
    (haddressable : ∀ id now, .restart .bytes id now ∈ events → Call.Addressable (before ++ Event.calls events)) :
    ((fresh interpreter).serveAll before).run events =
      .ok (((fresh interpreter).serveAll before).answers (Event.calls events),
        (fresh interpreter).serveAll (before ++ Event.calls events)) := by
  induction events generalizing before with
  | nil =>
    have hnone : Event.calls [] = [] := rfl
    rw [hnone, List.append_nil]
    rfl
  | cons event events ih =>
    have hlater {id : SnapshotId} {now : Timestamp} (hmem : Event.restart .bytes id now ∈ events) :=
      haddressable id now (List.mem_cons_of_mem _ hmem)
    cases event with
    | call made =>
      have hcalls : Event.calls (.call made :: events) = made :: Event.calls events := rfl
      rw [hcalls, List.append_cons] at hordered hlater ⊢
      have hrest := ih (before ++ [made]) hordered fun id now => hlater
      rw [run, answers, ← serveAll_concat, hrest]
      rfl
    | restart form id now =>
      have hcalls : Event.calls (.restart form id now :: events) = Event.calls events := rfl
      rw [hcalls] at hordered haddressable hlater ⊢
      have hearlier : Call.Ordered before := (List.pairwise_append.1 hordered).1
      have hbytes (hform : form = .bytes) : Call.Addressable (before ++ Event.calls events) :=
        haddressable id now (hform ▸ List.mem_cons_self)
      have hrestart := restart_serveAll interpreter hearlier (List.subset_append_left before _) hbytes id now
      rw [run, hrestart]
      exact ih before hordered fun id now => hlater

/-- However often a service is restarted between calls, every snapshot of it is accepted, the calls are told what
they are told without restarts, and the same is listed in the end. -/
theorem restarts_unnoticed (interpreter : Interpreter) (events : List Event)
    (hordered : Call.Ordered (Event.calls events))
    (haddressable : ∀ id now, .restart .bytes id now ∈ events → Call.Addressable (Event.calls events)) :
    (fresh interpreter).run events =
      .ok ((fresh interpreter).answers (Event.calls events), (fresh interpreter).serveAll (Event.calls events)) :=
  run_serveAll interpreter [] hordered haddressable

theorem restarts_unnoticed_reticent :
    let events : List Event := [.call ⟨.evaluate, "Who?", .epoch⟩, .restart .bytes exhausted.id .epoch,
      .call ⟨.validate, "Who?", .epoch⟩, .restart .text exhausted.id .epoch, .call ⟨.evaluate, "Who?", .epoch⟩]
    Call.Ordered (Event.calls events) ∧ Call.Addressable (Event.calls events) ∧
      (fresh reticent).run events =
        .ok ((fresh reticent).answers (Event.calls events), (fresh reticent).serveAll (Event.calls events)) := by
  intro events
  have hordered : Call.Ordered (Event.calls events) := by
    unfold Call.Ordered
    decide
  have haddressable : Call.Addressable (Event.calls events) := ⟨by decide, by decide⟩
  exact ⟨hordered, haddressable, restarts_unnoticed reticent events hordered fun _ _ _ => haddressable⟩

end Service

end WordSums
