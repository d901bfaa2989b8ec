import WordSums.Program
import WordSums.Proofs.Ledger.Binary
import WordSums.Proofs.Ledger.Clients
import WordSums.Proofs.Ledger.Written
import WordSums.Proofs.Session.Conversation
import WordSums.Proofs.Statement.Value

/-!
# What becomes of the ledger's file

A run that keeps its ledger in a file asks no server, so it begins with a service of its own or not at all.
Whatever it is asked then comes to calls on that service, and its ledger in the end is the one loaded with the
failures counted in it. That ledger is written, whether the command has succeeded or not, and what was written
is the ledger again when it is read, as long as no record says that it was last seen before it was first seen.
A conversation that breaks off is the exception: the run ends there and then, and what it has counted is lost.
-/

namespace WordSums

open WordSums.Time

namespace Invocation

variable {given options : GivenOptions} {task : Task} {word : String} {arguments : List String}

theorem conflict_of_ofTask (hread : ofTask given word arguments = .ok (.run options task)) :
    options.conflict = false := by
  unfold ofTask at hread
  split at hread
  · cases hread
  · cases hread
  · split at hread
    · cases hread
    · next hagree =>
      cases hread
      exact Bool.eq_false_iff.2 hagree

theorem conflict_of_readAfter (hread : readAfter given arguments = .ok (.run options task)) :
    options.conflict = false := by
  fun_induction readAfter given arguments
  case case2 => exact conflict_of_ofTask hread
  -- an option with its value: what follows is read with one more option given
  case case4 ih | case5 ih | case13 ih | case16 ih | case17 ih =>
    obtain ⟨more, _, hrest⟩ := bind_eq_ok_iff.1 hread
    exact ih more hrest
  all_goals cases hread

/-- Whoever names a file for the ledger names no server. -/
theorem server_eq_none (hread : read arguments = .ok (.run options task)) {file : String}
    (hstore : options.store = some file) : options.server = none := by
  have hagree := conflict_of_readAfter hread
  rw [GivenOptions.conflict, hstore, Option.isSome_some, Bool.or_true, Bool.and_true] at hagree
  exact Option.isSome_eq_false_iff.1 hagree |> Option.isNone_iff_eq_none.1

end Invocation

namespace Task

/-- The calls that a task makes on a service of the program's own. -/
def calls (around : Surroundings) : Task → List Call
  | .command asked => (asked.call? around.now).toList
  | .converse => Conversation.calls around.input
  | .serve _ => []

/-- The task is a conversation, and that breaks off. -/
def BreaksOff (around : Surroundings) : Task → Prop
  | .converse => Conversation.BreaksOff around.input
  | .command _ | .serve _ => False

end Task

namespace Service

def counted (service : Service) (calls : List Call) : List Failure :=
  if service.recording then service.interpreter.failures calls else []

/-- The ledger after calls, with every failure among them counted in it. -/
def ledgerAfter (service : Service) (calls : List Call) : Ledger :=
  service.ledger.countAll (service.counted calls)

theorem ledger_serveAll (service : Service) (calls : List Call) :
    (service.serveAll calls).ledger = service.ledgerAfter calls := by
  unfold ledgerAfter counted
  cases hrecording : service.recording with
  | true => exact congrArg Service.ledger (serveAll_eq hrecording calls)
  | false =>
    rw [serveAll_of_unrecorded hrecording, if_neg Bool.false_ne_true]
    rfl

end Service

namespace Program

/-! ### Loading -/

/-- The records that a file brings: those of the snapshot in it, or none if there is no such file. A file that
cannot be read brings nothing. -/
inductive Brings (files : String → FileContent) (file : String) : List FailureRecord → Prop
  | absent (habsent : files file = .absent) : Brings files file []
  | present {bytes : List UInt8} {text : String} {accepted : Snapshot} (hbytes : files file = .bytes bytes)
      (htext : String.fromUTF8? ⟨bytes.toArray⟩ = some text) (hread : Snapshot.ofJson text = .ok accepted) :
      Brings files file accepted.records

variable {files : String → FileContent} {file : String} {ledger : Ledger}

theorem exists_brings (hload : loadLedger files (some file) = .ok ledger) :
    ∃ begun, Brings files file begun ∧ ledger.Opens begun := by
  unfold loadLedger at hload
  dsimp only at hload
  cases hcontent : files file with
  | absent =>
    rw [hcontent, if_pos rfl] at hload
    obtain rfl := Except.ok.inj hload
    exact ⟨[], .absent hcontent, .empty⟩
  | unreadable =>
    rw [hcontent] at hload
    cases hload
  | bytes bytes =>
    rw [hcontent, if_neg nofun] at hload
    split at hload
    · cases hload
    · next text htext =>
      split at hload
      · cases hload
      · next accepted hread =>
        obtain rfl := Except.ok.inj hload
        exact ⟨accepted.records, .present hcontent htext hread, .of_ofJson hread⟩

theorem ledger_of_load {options : GivenOptions} {service : Service} (hload : load files options = .ok service) :
    loadLedger files options.store = .ok service.ledger := by
  obtain ⟨settings, _, hrest⟩ := bind_eq_ok_iff.1 hload
  obtain ⟨ledger, hledger, hservice⟩ := bind_eq_ok_iff.1 hrest
  obtain rfl := Except.ok.inj hservice
  exact hledger

/-- Of a snapshot that was written, the records are loaded if it is accepted. -/
theorem loadLedger_toJson {snapshot : Snapshot} (hcontent : files file = .bytes snapshot.toJson.toUTF8.toList) :
    loadLedger files (some file) = (snapshot.check.map Ledger.ofSnapshot).mapError .store := by
  rw [loadLedger, hcontent, if_neg nofun, FileContent.text?, Text.fromUTF8?_toUTF8]
  dsimp only
  rw [Snapshot.ofJson_toJson]
  cases snapshot.check <;> rfl

/-- What was written for a ledger is that ledger when it is read, unless it is refused for its times. -/
theorem loadLedger_saved_iff {start : Ledger} {begun : List FailureRecord} {failures : List Failure}
    (hopens : start.Opens begun) (id : SnapshotId) (now : Timestamp)
    (hcontent : files file = .bytes ((start.countAll failures).snapshot id now).toJson.toUTF8.toList) :
    loadLedger files (some file) = .ok (start.countAll failures) ↔
      ∀ record ∈ (start.countAll failures).records, record.firstSeen ≤ record.lastSeen := by
  rw [← Ledger.check_snapshot_eq_ok_iff hopens id now, loadLedger_toJson hcontent]
  cases hcheck : ((start.countAll failures).snapshot id now).check with
  | error fault => exact ⟨nofun, nofun⟩
  | ok accepted =>
    obtain ⟨rfl, _⟩ := Snapshot.check_eq_ok_iff.1 hcheck
    have hinOrder := Ledger.inOrder_countAll hopens.inOrder failures
    exact ⟨fun _ => rfl, fun _ => congrArg Except.ok (Ledger.ofSnapshot_snapshot hinOrder id now)⟩

/-! ### Whole runs -/

variable {around : Surroundings} {arguments : List String} {options : GivenOptions} {task : Task} {service : Service}

theorem run_eq_of_load (hread : Invocation.read arguments = .ok (.run options task))
    (hstore : options.store = some file) :
    run around arguments =
      match load around.files options with
      | .error _ => refused 1
      | .ok service => perform around options service task := by
  rw [run, World.run, hread]
  dsimp only
  rw [World.performUnder, Invocation.server_eq_none hread hstore]
  change Id.run (match load around.files options with
    | .error fault => around.world.refuse 1 fault.message
    | .ok service => around.world.perform options service task) = _
  cases load around.files options <;> rfl

theorem perform_converse (around : Surroundings) (options : GivenOptions) (service : Service) :
    perform around options service .converse =
      conversed (Conversation.hold Service.obey service around.input)
        (saved around options (Conversation.hold Service.obey service around.input).state.ledger) := rfl

theorem written_perform (hstore : options.store = some file) (hlocal : ∀ address, task ≠ .serve address)
    (hends : ¬ task.BreaksOff around) :
    (perform around options service task).written = some (file,
      ((service.ledgerAfter (task.calls around)).snapshot around.snapshotId around.closing).toJson) := by
  have hsaved : (perform around options service task).written =
      saved around options (service.serveAll (task.calls around)).ledger := by
    cases task with
    | serve address => exact absurd rfl (hlocal address)
    | command asked =>
      rw [Task.calls, ← service.execute_eq_serveAll]
      rfl
    | converse =>
      have hended := (Conversation.hold_ended_iff Service.obey service around.input).2 hends
      rw [Task.calls, ← service.hold_obey_state, perform_converse, conversed, if_pos hended]
  rw [hsaved, saved, savedAs, hstore, Service.ledger_serveAll]
  rfl

/-- A conversation that breaks off takes the run with it. -/
theorem perform_of_breaksOff (hbreaks : task.BreaksOff around) :
    (perform around options service task).written = none ∧ (perform around options service task).status = 1 := by
  cases task with
  | serve address => cases hbreaks
  | command command => cases hbreaks
  | converse =>
    have hbroken : ¬ (Conversation.hold Service.obey service around.input).ended = true :=
      fun hended => (Conversation.hold_ended_iff Service.obey service around.input).1 hended hbreaks
    rw [perform_converse, conversed, if_neg hbroken]
    exact ⟨rfl, rfl⟩

/-- What a run with a service does to the file of its ledger, given the records that the file has brought. -/
structure Keeps (around : Surroundings) (file : String) (task : Task) (service : Service)
    (begun : List FailureRecord) (outcome : Outcome) : Prop where
  brought : Brings around.files file begun
  opened : service.ledger.Opens begun
  written : ¬ task.BreaksOff around → outcome.written = some (file,
    ((service.ledgerAfter (task.calls around)).snapshot around.snapshotId around.closing).toJson)
  lost : task.BreaksOff around → outcome.written = none ∧ outcome.status = 1
  reread : ∀ files text, outcome.written = some (file, text) → files file = .bytes text.toUTF8.toList →
    (loadLedger files (some file) = .ok (service.ledgerAfter (task.calls around)) ↔
      ∀ record ∈ (service.ledgerAfter (task.calls around)).records, record.firstSeen ≤ record.lastSeen)

/-- A run that keeps its ledger in a file leaves the file alone and does nothing if it cannot begin. If it
begins, the file in the end has the records that it brought with every failure counted in them, except
where a conversation has broken off. -/
theorem run_keeps (hread : Invocation.read arguments = .ok (.run options task)) (hstore : options.store = some file)
    (hlocal : ∀ address, task ≠ .serve address) :
    (∀ fault, load around.files options = .error fault → run around arguments = refused 1) ∧
      ∀ service, load around.files options = .ok service →
        ∃ begun, Keeps around file task service begun (run around arguments) := by
  rw [run_eq_of_load hread hstore]
  constructor
  · intro fault hload
    rw [hload]
  · intro service hload
    have hledger := ledger_of_load hload
    rw [hstore] at hledger
    obtain ⟨begun, hbrings, hopens⟩ := exists_brings hledger
    rw [hload]
    refine ⟨begun, hbrings, hopens, written_perform hstore hlocal, perform_of_breaksOff, ?_⟩
    intro content text hwritten hcontent
    by_cases hbreaks : task.BreaksOff around
    · rw [(perform_of_breaksOff hbreaks).1] at hwritten
      cases hwritten
    · rw [written_perform hstore hlocal hbreaks] at hwritten
      obtain ⟨_, rfl⟩ := Prod.mk.inj (Option.some.inj hwritten)
      exact loadLedger_saved_iff hopens around.snapshotId around.closing hcontent

/-- A conversation about one question, with or without a line behind it that cannot be read. -/
def asking (further : List (Timestamp × InputLine)) : Surroundings where
  files _ := .absent
  input := (.epoch, .text "evaluate Who?".toList) :: further
  now := .epoch
  closing := .epoch
  snapshotId := Clients.foretold.id
  server _ _ _ := .failed .unreachable

/-- A file with a record from the future. -/
def foretold : Surroundings where
  files _ := .bytes Clients.foretold.toJson.toUTF8.toList
  input := []
  now := .epoch
  closing := .epoch
  snapshotId := Clients.foretold.id
  server _ _ _ := .failed .unreachable

/-- What is saved after the question of that record has failed once more. -/
def disproved : Snapshot :=
  ⟨Snapshot.supportedVersion, Clients.foretold.id, .epoch,
    [⟨"Who?", .evaluate, .invalidSyntax, 2, Clients.ahead, .epoch⟩]⟩

def interrupted : Surroundings :=
  asking [(.epoch, .unreadable)]

/-- A failure that was counted is lost when the conversation breaks off after it, and so are all of them when
the file that is written is refused. -/
theorem run_loses_failures :
    ((∃ service, load interrupted.files { store := some "counts.json" } = .ok service ∧
        service.counted (Task.converse.calls interrupted) = [⟨"Who?", .evaluate, .nonMathQuestion, .epoch⟩]) ∧
      run interrupted ["--store", "counts.json", "repl"] = ⟨1, "> error: non-math question\n> ", none⟩) ∧
    (run foretold ["--store", "counts.json", "evaluate", "Who?"]).written = some ("counts.json", disproved.toJson) ∧
      Snapshot.ofJson disproved.toJson = .error (.inconsistent (.seenBackwards "Who?")) := by
  refine ⟨⟨⟨.standard {} .empty, rfl, by decide +kernel⟩, by decide +kernel⟩, ?_, ?_⟩
  · let options : GivenOptions := { store := some "counts.json" }
    have hread : Invocation.read ["--store", "counts.json", "evaluate", "Who?"] =
        .ok (.run options (.command (.ask .evaluate "Who?"))) := by decide +kernel
    have hledger : loadLedger foretold.files (some "counts.json") = .ok (.ofSnapshot Clients.foretold) := by
      have hcontent : foretold.files "counts.json" = .bytes Clients.foretold.toJson.toUTF8.toList := rfl
      rw [loadLedger_toJson hcontent]
      rfl
    have hload : load foretold.files options = .ok (.standard {} (.ofSnapshot Clients.foretold)) :=
      bind_eq_ok_iff.2 ⟨{}, rfl, bind_eq_ok_iff.2 ⟨_, hledger, rfl⟩⟩
    have hlocal : ∀ address, Task.command (.ask .evaluate "Who?") ≠ .serve address := nofun
    have hafter : (Service.standard {} (.ofSnapshot Clients.foretold)).ledgerAfter
        (Task.calls foretold (.command (.ask .evaluate "Who?"))) = ⟨disproved.records⟩ := by decide +kernel
    rw [run_eq_of_load hread rfl, hload]
    dsimp only
    rw [written_perform rfl hlocal id, hafter]
    rfl
  · rw [Snapshot.ofJson_toJson]
    decide

theorem run_keeps_asking :
    let options : GivenOptions := { store := some "counts.json" }
    let arguments := ["--store", "counts.json", "repl"]
    Invocation.read arguments = .ok (.run options .converse) ∧ (∀ address, Task.converse ≠ .serve address) ∧
      ∃ service begun, load (asking []).files options = .ok service ∧
        Keeps (asking []) "counts.json" .converse service begun (run (asking []) arguments) := by
  intro options arguments
  have hread : Invocation.read arguments = .ok (.run options .converse) := by decide +kernel
  have hlocal : ∀ address, Task.converse ≠ .serve address := nofun
  have hload : load (asking []).files options = .ok (.standard {} .empty) := rfl
  obtain ⟨begun, hkeeps⟩ := (run_keeps hread rfl hlocal).2 _ hload
  exact ⟨hread, hlocal, _, begun, hload, hkeeps⟩

end Program

end WordSums
