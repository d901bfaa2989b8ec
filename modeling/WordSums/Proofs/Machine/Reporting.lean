import Mathlib.Data.List.Forall2
import WordSums.Proofs.Machine.Recording
import WordSums.Token.Lexer

/-!
# What a machine reports

A dispatch that fires a rule is reported as a step, with the names that the history keeps of it. One that fails
is reported as a failure, whether no rule applied or an action failed. The exception is a guard that fails: the
search for a rule ends there and then, and nothing is reported of the dispatch. So the reports of steps in a run
are its history, and the reports of failures are its failed dispatches without those.
-/

namespace WordSums

open WordSums.Time

variable {State Event Context Fault : Type}

def Step.entry [Named State] (step : Step State) : Entry :=
  ⟨.trace, machineTopic, "Transition fired",
    [("from", nameOf step.source), ("to", nameOf step.target), ("event", step.event)]⟩

structure Entry.TellsFailure [Named State] [Named Event] (entry : Entry) (state : State) (event : Event) : Prop where
  severity : entry.severity = .debug
  topic : entry.topic = machineTopic
  fields : entry.fields = [("state", nameOf state), ("event", nameOf event)]

theorem tellsFailure_actionFailedEntry [Named State] [Named Event] (state : State) (event : Event) :
    (actionFailedEntry state event).TellsFailure state event :=
  ⟨rfl, rfl, rfl⟩

theorem tellsFailure_unmatchedEntry [Named State] [Named Event] (state : State) (event : Event) :
    (unmatchedEntry state event).TellsFailure state event :=
  ⟨rfl, rfl, rfl⟩

namespace Machine

variable [DecidableEq State] [DecidableEq Event]

/-- The search for a rule comes to one whose guard fails. -/
def GuardFails (machine : Machine State Event Context Fault) (event : Event) : Prop :=
  ∃ (rule : Rule State Event Context Fault) (fault : Fault),
    rule.ReachedIn machine.context (machine.table.rulesFor machine.state event) ∧
      rule.admits machine.context = .error fault

theorem guardFails_iff {machine : Machine State Event Context Fault} {event : Event} :
    machine.GuardFails event ↔
      ∃ fault, selectRule machine.state event machine.context machine.table.rules = .error fault := by
  constructor
  · rintro ⟨rule, fault, hreached, hguard⟩
    exact ⟨fault, selectRule_of_fails hreached hguard⟩
  · rintro ⟨fault, hselect⟩
    by_cases hdeclined : ∀ rule ∈ machine.table.rulesFor machine.state event, rule.Declines machine.context
    · rw [selectRule_of_declined hdeclined] at hselect
      cases hselect
    · obtain ⟨rule, hreached, hstands⟩ := Rule.exists_reachedIn hdeclined
      refine ⟨rule, fault, hreached, ?_⟩
      cases hguard : rule.admits machine.context with
      | error other =>
        rw [selectRule_of_fails hreached hguard] at hselect
        rw [Except.error.inj hselect]
      | ok admitted =>
        cases admitted with
        | false => exact absurd hguard hstands
        | true =>
          rw [selectRule_of_admits hreached hguard] at hselect
          cases hselect

instance (machine : Machine State Event Context Fault) (event : Event) : Decidable (machine.GuardFails event) :=
  match hselect : selectRule machine.state event machine.context machine.table.rules with
  | .error fault => isTrue (guardFails_iff.2 ⟨fault, hselect⟩)
  | .ok _ => isFalse fun hfails => by
    obtain ⟨fault, hfault⟩ := guardFails_iff.1 hfails
    cases hselect.symm.trans hfault

variable [Named State] [Named Event]

/-- What is reported of a dispatch, by its answer and by whether a guard failed. -/
structure Reports (machine : Machine State Event Context Fault) (now : Timestamp) (event : Event)
    (answer : Except Fault State) (entries : List Entry) : Prop where
  fired : ∀ target, answer = .ok target →
    ¬ machine.GuardFails event ∧ entries = [Step.entry ⟨machine.state, target, nameOf event, now⟩]
  failed : ∀ fault, answer = .error fault → ¬ machine.GuardFails event →
    ∃ entry, entries = [entry] ∧ entry.TellsFailure machine.state event
  silent : machine.GuardFails event → (∃ fault, answer = .error fault) ∧ entries = []

/-- What a run reports, given the dispatches that fail in it, the steps it takes and the number of its
dispatches. -/
structure RunReports (failed : List (Machine State Event Context Fault × Event)) (steps : List (Step State))
    (dispatches : Nat) (entries : List Entry) : Prop where
  steps : entries.filter (·.severity = .trace) = steps.map Step.entry
  failures : List.Forall₂ (fun failure entry => Entry.TellsFailure entry failure.1.state failure.2)
    (failed.filter fun failure => ¬ failure.1.GuardFails failure.2) (entries.filter (·.severity = .debug))
  length : entries.length + (failed.countP fun failure => failure.1.GuardFails failure.2) = dispatches

section RunReports

variable {machine : Machine State Event Context Fault} {now : Timestamp} {event : Event}
  {failed : List (Machine State Event Context Fault × Event)} {steps : List (Step State)} {dispatches : Nat}
  {entries : List Entry}

theorem RunReports.fires (hrest : RunReports failed steps dispatches entries) (step : Step State) :
    RunReports failed (step :: steps) (dispatches + 1) (step.entry :: entries) := by
  apply RunReports.mk
  case steps => rw [List.filter_cons_of_pos (by rfl), hrest.steps, List.map_cons]
  case failures =>
    rw [List.filter_cons_of_neg (by simp [Step.entry])]
    exact hrest.failures
  case length =>
    have hlength := hrest.length
    rw [List.length_cons]
    omega

theorem RunReports.fails (hrest : RunReports failed steps dispatches entries) {fault : Fault} {reported : List Entry}
    (hreports : machine.Reports now event (.error fault) reported) :
    RunReports ((machine, event) :: failed) steps (dispatches + 1) (reported ++ entries) := by
  have hlength := hrest.length
  by_cases hguard : machine.GuardFails event
  · obtain ⟨-, rfl⟩ := hreports.silent hguard
    rw [List.nil_append]
    apply RunReports.mk
    case steps => exact hrest.steps
    case failures =>
      rw [List.filter_cons_of_neg (by simpa using hguard)]
      exact hrest.failures
    case length =>
      rw [List.countP_cons_of_pos (by simpa using hguard)]
      omega
  · obtain ⟨entry, rfl, htells⟩ := hreports.failed fault rfl hguard
    rw [List.singleton_append]
    apply RunReports.mk
    case steps =>
      rw [List.filter_cons_of_neg (by simp [htells.severity])]
      exact hrest.steps
    case failures =>
      rw [List.filter_cons_of_pos (by simpa using hguard), List.filter_cons_of_pos (by simpa using htells.severity)]
      exact .cons htells hrest.failures
    case length =>
      rw [List.countP_cons_of_neg (by simpa using hguard), List.length_cons]
      omega

end RunReports

/-! ### Dispatches and runs -/

variable [OfNoTransition Fault] (machine : Machine State Event Context Fault)

theorem exec_reports (now : Timestamp) (event : Event) :
    machine.Reports now event (machine.exec now event).value.1 (machine.exec now event).entries := by
  have hguard : machine.GuardFails event ↔ _ := guardFails_iff
  unfold exec
  cases hselect : selectRule machine.state event machine.context machine.table.rules with
  | error fault =>
    have hfails : machine.GuardFails event := hguard.2 ⟨fault, hselect⟩
    exact ⟨nofun, fun _ _ hnot => absurd hfails hnot, fun _ => ⟨⟨fault, rfl⟩, rfl⟩⟩
  | ok selected =>
    have hholds : ¬ machine.GuardFails event := by
      rw [hguard, hselect]
      rintro ⟨_, ⟨⟩⟩
    cases selected with
    | none =>
      exact ⟨nofun, fun _ _ _ => ⟨_, rfl, tellsFailure_unmatchedEntry _ _⟩, fun hfails => absurd hfails hholds⟩
    | some rule =>
      obtain ⟨hsource, -⟩ := Rule.concerns_eq_true_iff.1 (mem_of_selectRule hselect).2
      dsimp only
      split
      · exact ⟨nofun, fun _ _ _ => ⟨_, rfl, tellsFailure_actionFailedEntry _ _⟩, fun hfails => absurd hfails hholds⟩
      · refine ⟨?_, nofun, fun hfails => absurd hfails hholds⟩
        rintro _ ⟨⟩
        rw [hsource]
        exact ⟨hholds, rfl⟩

/-- The dispatches of a run that fail, each with the machine that its event comes to. -/
def failures (machine : Machine State Event Context Fault) :
    List (Timestamp × Event) → List (Machine State Event Context Fault × Event)
  | [] => []
  | (now, event) :: calls =>
    match (machine.exec now event).value with
    | (.ok _, moved) => moved.failures calls
    | (.error _, moved) => (machine, event) :: moved.failures calls

theorem execAll_cons_entries (now : Timestamp) (event : Event) (calls : List (Timestamp × Event)) :
    (machine.execAll ((now, event) :: calls)).entries =
      (machine.exec now event).entries ++ ((machine.exec now event).value.2.execAll calls).entries := by
  rw [execAll, Traced.entries_bind, Traced.entries_bind, Traced.entries_pure, List.append_nil]

/-- Every dispatch is reported once, as what it was, unless a guard failed: then nothing is reported of it. So of
the reports of a run those of steps are the steps that a history of it records, and those of failures its failed
dispatches except for the ones in which a guard failed. -/
theorem execAll_reports (machine : Machine State Event Context Fault) (calls : List (Timestamp × Event)) :
    (∀ now event, machine.Reports now event (machine.exec now event).value.1 (machine.exec now event).entries) ∧
      ∃ steps, RunReports (machine.failures calls) steps calls.length (machine.execAll calls).entries ∧
        (machine.execAll calls).value.2.history = machine.history.map fun history => ⟨history.steps ++ steps⟩ := by
  refine ⟨machine.exec_reports, ?_⟩
  induction calls generalizing machine with
  | nil => exact ⟨[], ⟨rfl, .nil, rfl⟩, by cases hhistory : machine.history <;> simp [execAll, hhistory]⟩
  | cons call calls ih =>
    obtain ⟨now, event⟩ := call
    obtain ⟨steps, hrest, hhistory⟩ := ih (machine.exec now event).value.2
    have hfirst := machine.exec_reports now event
    have hfinal : (machine.execAll ((now, event) :: calls)).value.2 =
        ((machine.exec now event).value.2.execAll calls).value.2 := rfl
    rw [execAll_cons_entries, failures, List.length_cons, hfinal, hhistory]
    obtain ⟨rule, context, -, -, hexec⟩ | ⟨fault, moved, hexec, -, hkept⟩ := machine.exec_cases now event
    · rw [hexec] at hfirst hrest ⊢
      obtain ⟨-, hentries⟩ := hfirst.fired rule.target rfl
      refine ⟨⟨machine.state, rule.target, nameOf event, now⟩ :: steps, ?_, ?_⟩
      · rw [hentries]
        exact hrest.fires _
      · cases hhistory : machine.history <;> simp [fired, hhistory]
    · rw [hexec] at hfirst hrest ⊢
      refine ⟨steps, hrest.fails hfirst, ?_⟩
      rw [hkept]

/-- A dispatch that fails in a guard leaves no report. -/
theorem not_reported_of_guardFails :
    let guarded : Rule LexerState LexerEvent Unit WordSums.Fault :=
      ⟨⟨.tokenizing, .endOfInput, .done⟩, some ⟨fun _ => .error (.nonMathQuestion "Who?")⟩, none⟩
    let machine := start ⟨.tokenizing, [guarded]⟩ ()
    let calls := [(Timestamp.epoch, LexerEvent.endOfInput)]
    (machine.execAll calls).value.1 = [.error (.nonMathQuestion "Who?")] ∧
      (machine.execAll calls).entries = [] ∧
      ¬ List.Forall₂ (fun failure entry => Entry.TellsFailure entry failure.1.state failure.2)
        (machine.failures calls) ((machine.execAll calls).entries.filter (·.severity = .debug)) := by
  intro guarded machine calls
  refine ⟨rfl, rfl, fun htold => ?_⟩
  have hlength := htold.length_eq
  exact absurd hlength (by decide)

end Machine

end WordSums
