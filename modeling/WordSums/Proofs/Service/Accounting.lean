import WordSums.Service
import WordSums.Proofs.Ledger.Consistency
import WordSums.Proofs.Ledger.Counting
import WordSums.Proofs.Text.ByteOrder

/-!
# The account of failures

While a service records, a call does one of two things to the ledger: a failure that is about the question is
counted, and anything else leaves the ledger alone. So the ledger after any calls is the first one with the
failures among the calls counted in it, and what it lists is known from these failures question by question.
Calls stand in the order in which they take effect. Where they come from several clients the readings of the
clock need not follow that order, and nothing here supposes that they do.
-/

namespace WordSums

open WordSums.Time

/-- A call: how a question is asked, the question, and the reading of the clock for a failure. -/
structure Call where
  method : Method
  question : String
  time : Timestamp

namespace Interpreter

/-- What an interpreter says to a call; a question found well formed is not answered. -/
def judge (interpreter : Interpreter) (call : Call) : Except Fault (Option Int) :=
  match call.method with
  | .validate => (interpreter.validate call.question).value.map fun _ => none
  | .evaluate => (interpreter.evaluate call.question).value.map some

/-- The failure of a call, if it fails and the fault is not internal. -/
def failure? (interpreter : Interpreter) (call : Call) : Option Failure :=
  match interpreter.judge call with
  | .ok _ => none
  | .error fault =>
    if fault.kind = .internal then none else some ⟨call.question, call.method, fault.kind, call.time⟩

def failures (interpreter : Interpreter) (calls : List Call) : List Failure :=
  calls.filterMap interpreter.failure?

variable {interpreter : Interpreter} {call : Call} {failure : Failure}

theorem failure?_eq_none_iff :
    interpreter.failure? call = none ↔
      (∃ answer, interpreter.judge call = .ok answer) ∨
        ∃ fault, interpreter.judge call = .error fault ∧ fault.kind = .internal := by
  unfold failure?
  cases interpreter.judge call with
  | ok answer => simp
  | error fault => simp

theorem failure?_eq_some_iff :
    interpreter.failure? call = some failure ↔
      ∃ fault, interpreter.judge call = .error fault ∧ fault.kind ≠ .internal ∧
        failure = ⟨call.question, call.method, fault.kind, call.time⟩ := by
  unfold failure?
  cases interpreter.judge call with
  | ok answer => simp
  | error fault => simp [eq_comm]

end Interpreter

namespace Service

/-! ### One call -/

/-- A call and what it comes to: the answer and the service afterwards. -/
def serve (service : Service) (call : Call) : Except ServiceFault (Option Int) × Service :=
  match call.method with
  | .validate => (service.validate call.time call.question).value.map (Except.map fun _ => none) id
  | .evaluate => (service.evaluate call.time call.question).value.map (Except.map some) id

variable {service : Service} {method : Method} {question : String} {now : Timestamp} {fault : Fault}

theorem settle_ok {α : Type} (value : α) :
    (service.settle method question now (.ok value)).value = (.ok value, service) := rfl

theorem settle_internal {α : Type} (hinternal : fault.kind = .internal) :
    (service.settle (α := α) method question now (.error fault)).value =
      (.error (.unsupportedInterpreter fault), service) := by
  simp [settle, FaultKind.isUserFacing, hinternal]

theorem settle_unrecorded {α : Type} (hkind : fault.kind ≠ .internal) (hrecording : service.recording = false) :
    (service.settle (α := α) method question now (.error fault)).value = (.error (.expression fault), service) := by
  simp [settle, FaultKind.isUserFacing, hkind, hrecording]

theorem settle_counted {α : Type} (hkind : fault.kind ≠ .internal) (hrecording : service.recording = true) :
    (service.settle (α := α) method question now (.error fault)).value =
      let failure : Failure := ⟨question, method, fault.kind, now⟩
      (if (service.ledger.recordOf failure).frequency.toNat < greatestFrequency then .error (.expression fault)
        else .error (.ledger ⟨question⟩), service.withLedger (service.ledger.count failure)) := by
  have hincrement := Ledger.increment_eq service.ledger ⟨question, method, fault.kind, now⟩
  dsimp only at hincrement ⊢
  rw [Ledger.count]
  unfold settle
  simp only [FaultKind.isUserFacing, hkind, hrecording, ne_eq, not_false_eq_true, decide_true, Bool.not_true,
    Bool.false_eq_true, if_false, Traced.value_bind]
  rw [hincrement]
  by_cases hroom : (service.ledger.recordOf ⟨question, method, fault.kind, now⟩).frequency.toNat < greatestFrequency
  · rw [if_pos hroom, if_pos hroom]
    rfl
  · rw [if_neg hroom, if_neg hroom]
    rfl

theorem settle_map {α β : Type} (change : α → β) (judgement : Except Fault α) :
    (service.settle method question now (judgement.map change)).value =
      (service.settle method question now judgement).value.map (Except.map change) id := by
  cases judgement with
  | ok value => rfl
  | error fault =>
    have hmap : (Except.error fault : Except Fault α).map change = .error fault := rfl
    rw [hmap]
    by_cases hkind : fault.kind = .internal
    · rw [settle_internal hkind, settle_internal hkind]
      rfl
    · cases hrecording : service.recording with
      | false =>
        rw [settle_unrecorded hkind hrecording, settle_unrecorded hkind hrecording]
        rfl
      | true =>
        rw [settle_counted hkind hrecording, settle_counted hkind hrecording]
        dsimp only
        split <;> rfl

theorem serve_eq (service : Service) (call : Call) :
    service.serve call =
      (service.settle call.method call.question call.time (service.interpreter.judge call)).value := by
  unfold serve Interpreter.judge
  cases call.method with
  | validate => exact (settle_map _ _).symm
  | evaluate => exact (settle_map _ _).symm

variable {call : Call} {failure : Failure}

theorem serve_of_uncounted (huncounted : service.interpreter.failure? call = none ∨ service.recording = false) :
    (service.serve call).2 = service := by
  rw [serve_eq]
  cases hjudge : service.interpreter.judge call with
  | ok answer => rw [settle_ok]
  | error fault =>
    by_cases hkind : fault.kind = .internal
    · rw [settle_internal hkind]
    · have hrecording : service.recording = false := by
        rcases huncounted with hnone | hoff
        · rw [Interpreter.failure?, hjudge] at hnone
          exact absurd hnone (by simp [hkind])
        · exact hoff
      rw [settle_unrecorded hkind hrecording]

theorem serve_of_failure (hrecording : service.recording = true)
    (hfailure : service.interpreter.failure? call = some failure) :
    (service.serve call).2 = service.withLedger (service.ledger.count failure) := by
  obtain ⟨fault, hjudge, hkind, rfl⟩ := Interpreter.failure?_eq_some_iff.1 hfailure
  rw [serve_eq, hjudge, settle_counted hkind hrecording]

theorem serve_of_full (hrecording : service.recording = true)
    (hfailure : service.interpreter.failure? call = some failure)
    (hfull : ¬ (service.ledger.recordOf failure).frequency.toNat < greatestFrequency) :
    service.serve call = (.error (.ledger ⟨call.question⟩), service) := by
  obtain ⟨fault, hjudge, hkind, rfl⟩ := Interpreter.failure?_eq_some_iff.1 hfailure
  rw [serve_eq, hjudge, settle_counted hkind hrecording]
  dsimp only
  rw [if_neg hfull, Ledger.count_of_full hfull]
  rfl

/-! ### Calls one after the other -/

/-- The service after calls, in the order in which they take effect. -/
def serveAll (service : Service) (calls : List Call) : Service :=
  calls.foldl (fun service call => (service.serve call).2) service

/-- What calls are told, in their order. -/
def answers (service : Service) : List Call → List (Except ServiceFault (Option Int))
  | [] => []
  | call :: calls => (service.serve call).1 :: answers (service.serve call).2 calls

theorem serveAll_concat (service : Service) (calls : List Call) (call : Call) :
    service.serveAll (calls ++ [call]) = ((service.serveAll calls).serve call).2 :=
  List.foldl_append

theorem serveAll_of_unrecorded (hrecording : service.recording = false) (calls : List Call) :
    service.serveAll calls = service := by
  induction calls with
  | nil => rfl
  | cons call calls ih =>
    rw [serveAll, List.foldl_cons, serve_of_uncounted (.inr hrecording)]
    exact ih

theorem serveAll_eq (hrecording : service.recording = true) (calls : List Call) :
    service.serveAll calls =
      service.withLedger (service.ledger.countAll (service.interpreter.failures calls)) := by
  induction calls generalizing service with
  | nil => rfl
  | cons call calls ih =>
    have hrest : service.serveAll (call :: calls) = (service.serve call).2.serveAll calls := rfl
    rw [hrest, Interpreter.failures]
    cases hfailure : service.interpreter.failure? call with
    | none =>
      rw [serve_of_uncounted (.inl hfailure), List.filterMap_cons_none hfailure]
      exact ih hrecording
    | some failure =>
      rw [serve_of_failure hrecording hfailure, List.filterMap_cons_some hfailure]
      exact ih hrecording

/-- A service that records and has counted nothing yet. -/
def fresh (interpreter : Interpreter) : Service :=
  ⟨interpreter, true, .empty⟩

theorem serveAll_fresh (interpreter : Interpreter) (calls : List Call) :
    (fresh interpreter).serveAll calls = ⟨interpreter, true, Ledger.empty.countAll (interpreter.failures calls)⟩ :=
  serveAll_eq rfl calls

theorem inOrder_serveAll (interpreter : Interpreter) (calls : List Call) :
    Ledger.InOrder ((fresh interpreter).serveAll calls).ledger.records := by
  rw [serveAll_fresh]
  exact Ledger.inOrder_countAll Ledger.Opens.empty.inOrder _

theorem exists_listed_iff {interpreter : Interpreter} {calls : List Call} {expression : String} :
    (∃ record ∈ ((fresh interpreter).serveAll calls).failures, record.expression = expression) ↔
      ∃ failure ∈ interpreter.failures calls, failure.expression = expression := by
  have hlisted := Ledger.isSome_get?_countAll .empty (interpreter.failures calls) expression
  have hnone : ¬ (Ledger.empty.get? expression).isSome := Bool.false_ne_true
  rw [or_iff_right hnone, Ledger.isSome_get?_iff] at hlisted
  rw [serveAll_fresh]
  exact hlisted

/-- What a recording service lists after failures were counted, given the records that its ledger began with,
and which calls leave it as it is. -/
structure Accounts (service : Service) (begun : List FailureRecord) (failures : List Failure) : Prop where
  ordered : service.failures.Pairwise fun left right => Text.bytes left.expression < Text.bytes right.expression
  listed (expression : String) :
    (∃ record ∈ service.failures, record.expression = expression) ↔
      (∃ first ∈ begun, first.expression = expression) ∨ ∃ failure ∈ failures, failure.expression = expression
  kept : ∀ record ∈ service.failures, ∀ first ∈ begun, first.expression = record.expression →
    record.method = first.method ∧ record.kind = first.kind ∧ record.firstSeen = first.firstSeen ∧
      record.frequency.toNat =
        min (first.frequency.toNat + (Failure.ofExpression failures record.expression).length) greatestFrequency
  opened : ∀ record ∈ service.failures, (∀ first ∈ begun, first.expression ≠ record.expression) →
    ∃ first later, Failure.ofExpression failures record.expression = first :: later ∧
      record.method = first.method ∧ record.kind = first.kind ∧ record.firstSeen = first.time ∧
        record.frequency.toNat = min (1 + later.length) greatestFrequency
  unchanged (call : Call) :
    ((∃ answer, service.interpreter.judge call = .ok answer) ∨
      ∃ fault, service.interpreter.judge call = .error fault ∧ fault.kind = .internal) →
    (service.serve call).2 = service
  full (call : Call) (failure : Failure) : service.interpreter.failure? call = some failure →
    ∀ record ∈ service.failures, record.expression = call.question → record.frequency.toNat = greatestFrequency →
      service.serve call = (.error (.ledger ⟨call.question⟩), service)

/-- The service's ledger accounts for exactly the failures of the calls that were made, however these were
interleaved; and a service that does not record never touches its ledger. -/
theorem serveAll_accounts (interpreter : Interpreter) {start : Ledger} {begun : List FailureRecord}
    (hopens : start.Opens begun) (calls : List Call) :
    Accounts ((Service.mk interpreter true start).serveAll calls) begun (interpreter.failures calls) ∧
      ∀ ledger, (Service.mk interpreter false ledger).serveAll calls = ⟨interpreter, false, ledger⟩ := by
  refine ⟨?_, fun ledger => serveAll_of_unrecorded rfl calls⟩
  rw [serveAll_eq rfl]
  change Accounts ⟨interpreter, true, start.countAll (interpreter.failures calls)⟩ begun _
  have hinOrder := Ledger.inOrder_countAll hopens.inOrder (interpreter.failures calls)
  -- whatever is listed is the record of its question, so what counting does to a question says what it is
  have hget {record : FailureRecord} (hrecord : record ∈ (start.countAll (interpreter.failures calls)).records) :=
    (Ledger.get?_eq_some_iff hinOrder).2 ⟨hrecord, rfl⟩
  apply Accounts.mk
  case ordered => exact List.Pairwise.imp Text.bytes_lt_bytes hinOrder
  case listed =>
    intro expression
    rw [← hopens.isSome_get?_iff, ← Ledger.isSome_get?_countAll, Ledger.isSome_get?_iff]
    rfl
  case kept =>
    intro record hrecord first hfirst hsame
    have hknown := hopens.get?_eq_some_iff.2 ⟨hfirst, hsame⟩
    have hcontinues := Ledger.continues_of_known hknown (hget hrecord)
    refine ⟨hcontinues.method, hcontinues.kind, hcontinues.firstSeen, ?_⟩
    rw [hcontinues.frequency, List.length_map]
  case opened =>
    intro record hrecord hnew
    obtain ⟨first, later, hfailures, hcontinues⟩ :=
      Ledger.continues_of_unknown (hopens.get?_eq_none hnew) (hget hrecord)
    refine ⟨first, later, hfailures, hcontinues.method, hcontinues.kind, hcontinues.firstSeen, ?_⟩
    rw [hcontinues.frequency, List.length_map, List.length_cons, Nat.add_comm 1]
    exact congrArg (min · greatestFrequency) (Nat.zero_add _)
  case unchanged =>
    intro call huncounted
    exact serve_of_uncounted (.inl (Interpreter.failure?_eq_none_iff.2 huncounted))
  case full =>
    intro call failure hfailure record hrecord hsame hfull
    obtain ⟨fault, _, _, hcounted⟩ := Interpreter.failure?_eq_some_iff.1 hfailure
    have hknown : (start.countAll (interpreter.failures calls)).get? failure.expression = some record := by
      rw [hcounted, ← hsame]
      exact hget hrecord
    refine serve_of_full rfl hfailure ?_
    rw [Ledger.recordOf, hknown, Option.getD_some, hfull]
    exact Nat.lt_irrefl _

/-- An interpreter that answers no question: the empty one is beyond it, every other one too long for it. -/
def reticent : Interpreter where
  validate _ := pure (.ok ())
  evaluate question :=
    pure (.error (if question = "" then .transition ⟨"Start", "End"⟩ else .inputTooLong question.utf8ByteSize 0))

/-- A snapshot in which one question has failed as often as can be counted. -/
def exhausted : Snapshot :=
  ⟨Snapshot.supportedVersion, ⟨List.replicate 16 1, rfl⟩, .epoch,
    [⟨"Who?", .validate, .invalidSyntax, 18446744073709551615, .epoch, .epoch⟩]⟩

theorem serveAll_accounts_reticent :
    let calls : List Call := [⟨.evaluate, "Who?", .epoch⟩, ⟨.evaluate, "What?", .epoch⟩, ⟨.validate, "What?", .epoch⟩,
      ⟨.evaluate, "", .epoch⟩, ⟨.evaluate, "What?", .epoch⟩]
    (Ledger.ofSnapshot exhausted).Opens exhausted.records ∧
      Accounts ((Service.mk reticent true (.ofSnapshot exhausted)).serveAll calls) exhausted.records
        (reticent.failures calls) ∧
      ∀ ledger, (Service.mk reticent false ledger).serveAll calls = ⟨reticent, false, ledger⟩ := by
  have haccepted : exhausted.check = .ok exhausted := rfl
  have hopens := Ledger.Opens.restored haccepted
  exact ⟨hopens, serveAll_accounts reticent hopens _⟩

end Service

end WordSums
