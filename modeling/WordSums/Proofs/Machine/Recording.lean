import Mathlib.Data.List.Chain
import WordSums.Proofs.Machine.Dispatch

/-!
# What a history keeps

A dispatch never reads the history and touches it only when a rule fires, after everything else has been
settled. So a run is the same with and without one: forgetting the history afterwards gives the run that
never kept any.

What a run leaves in the history is known from the plain run alone. `Takes` goes through the dispatches of
a machine that keeps nothing and notes a step for each that fires; from the first request on the history
holds these steps and no others, and asking again changes nothing. A step begins where the machine stood,
a dispatch that fails leaves it there, and the next step begins where the last one ended.
-/

namespace WordSums

open WordSums.Time

namespace Machine

/-- What a running machine is given: an event to dispatch at a moment, or the wish that it keep a history. -/
inductive Input (Event : Type) where
  | dispatch (now : Timestamp) (event : Event)
  | keepHistory

namespace Input

variable {Event : Type}

def dispatch? : Input Event → Option (Timestamp × Event)
  | dispatch now event => some (now, event)
  | keepHistory => none

def dispatches (inputs : List (Input Event)) : List (Timestamp × Event) :=
  inputs.filterMap dispatch?

theorem dispatches_dispatch (now : Timestamp) (event : Event) (inputs : List (Input Event)) :
    dispatches (dispatch now event :: inputs) = (now, event) :: dispatches inputs := rfl

end Input

open Input

variable {State Event Context Fault : Type}

/-- The machine without what it has kept. -/
def forget (machine : Machine State Event Context Fault) : Machine State Event Context Fault :=
  { machine with history := none }

theorem forget_withHistory (machine : Machine State Event Context Fault) :
    machine.withHistory.forget = machine.forget := rfl

theorem forget_of_history_none {machine : Machine State Event Context Fault} (hnone : machine.history = none) :
    machine.forget = machine := by
  cases machine
  cases hnone
  rfl

variable [DecidableEq State] [DecidableEq Event] [Named State] [Named Event] [OfNoTransition Fault]

/-- Takes the inputs one after the other, going on after failures. The answers are those to the dispatches. -/
def follow (machine : Machine State Event Context Fault) :
    List (Input Event) → Traced (List (Except Fault State) × Machine State Event Context Fault)
  | [] => pure ([], machine)
  | .dispatch now event :: rest => do
    let (answer, moved) ← machine.exec now event
    let (answers, final) ← moved.follow rest
    pure (answer :: answers, final)
  | .keepHistory :: rest => machine.withHistory.follow rest

theorem follow_dispatch_value (machine : Machine State Event Context Fault) (now : Timestamp) (event : Event)
    (inputs : List (Input Event)) :
    (machine.follow (.dispatch now event :: inputs)).value =
      let first := (machine.exec now event).value
      let rest := (first.2.follow inputs).value
      (first.1 :: rest.1, rest.2) := rfl

/-! ### Forgetting the history -/

theorem exec_forget (machine : Machine State Event Context Fault) (now : Timestamp) (event : Event) :
    machine.forget.exec now event = (fun (answer, after) => (answer, after.forget)) <$> machine.exec now event := by
  unfold exec forget
  dsimp only
  rcases selectRule machine.state event machine.context machine.table.rules with fault | _ | rule
  · rfl
  · rfl
  · dsimp only
    obtain ⟨result, context⟩ := rule.apply machine.context
    cases result <;> rfl

theorem execAll_forget (machine : Machine State Event Context Fault) (inputs : List (Input Event)) :
    machine.forget.execAll (dispatches inputs) =
      (fun (answers, final) => (answers, final.forget)) <$> machine.follow inputs := by
  induction inputs generalizing machine with
  | nil => rfl
  | cons input inputs ih =>
    cases input with
    | keepHistory => exact ih machine.withHistory
    | dispatch now event =>
      rw [dispatches_dispatch, execAll, follow, exec_forget, bind_map_left, map_bind]
      refine bind_congr fun (answer, moved) => ?_
      dsimp only
      rw [ih, bind_map_left, map_bind]
      rfl

/-! ### The steps that a run takes -/

/-- The answers to dispatches on a machine that keeps no history, the steps of those that fire, and the
machine at the end. -/
inductive Takes : Machine State Event Context Fault → List (Timestamp × Event) → List (Except Fault State) →
    List (Step State) → Machine State Event Context Fault → Prop
  | nil {machine : Machine State Event Context Fault} : Takes machine [] [] [] machine
  | fires {machine final : Machine State Event Context Fault} {now : Timestamp} {event : Event}
      {rule : Rule State Event Context Fault} {context : Context} {calls : List (Timestamp × Event)}
      {answers : List (Except Fault State)} {steps : List (Step State)}
      (hselect : selectRule machine.state event machine.context machine.table.rules = .ok (some rule))
      (haction : rule.apply machine.context = (.ok (), context))
      (hrest : Takes { machine with state := rule.target, context := context } calls answers steps final) :
      Takes machine ((now, event) :: calls) (.ok rule.target :: answers)
        (⟨machine.state, rule.target, nameOf event, now⟩ :: steps) final
  | fails {machine moved final : Machine State Event Context Fault} {now : Timestamp} {event : Event} {fault : Fault}
      {calls : List (Timestamp × Event)} {answers : List (Except Fault State)} {steps : List (Step State)}
      (hfails : (machine.exec now event).value = (.error fault, moved))
      (hrest : Takes moved calls answers steps final) :
      Takes machine ((now, event) :: calls) (.error fault :: answers) steps final

/-- A dispatch fires a rule, or it fails and leaves state and history as they are. -/
theorem exec_cases (machine : Machine State Event Context Fault) (now : Timestamp) (event : Event) :
    (∃ rule context, selectRule machine.state event machine.context machine.table.rules = .ok (some rule) ∧
        rule.apply machine.context = (.ok (), context) ∧
        (machine.exec now event).value = (.ok rule.target, machine.fired now event rule context)) ∨
      ∃ fault moved, (machine.exec now event).value = (.error fault, moved) ∧
        moved.state = machine.state ∧ moved.history = machine.history := by
  obtain ⟨answer, moved, hdispatches⟩ := exists_dispatches machine now event
  have hexec := hdispatches.exec_eq
  cases hdispatches with
  | guardFails | unmatched | actionFails => exact .inr ⟨_, _, hexec, rfl, rfl⟩
  | fires hreached hguard haction => exact .inl ⟨_, _, selectRule_of_admits hreached hguard, haction, hexec⟩

theorem state_of_exec_fails {machine moved : Machine State Event Context Fault} {now : Timestamp} {event : Event}
    {fault : Fault} (hfails : (machine.exec now event).value = (.error fault, moved)) :
    moved.state = machine.state := by
  cases exec_eq_iff.1 hfails with
  | guardFails | unmatched | actionFails => rfl

namespace Takes

variable {machine final : Machine State Event Context Fault} {calls : List (Timestamp × Event)}
  {answers : List (Except Fault State)} {steps : List (Step State)}

/-- The answers that are no failures are the states that the steps lead to. -/
theorem targets (htakes : Takes machine calls answers steps final) :
    steps.map Step.target = answers.filterMap Except.toOption := by
  induction htakes with
  | nil => rfl
  | fires _ _ _ ih => rw [List.map_cons, ih]; rfl
  | fails _ _ ih => rw [ih]; rfl

theorem first_source (htakes : Takes machine calls answers steps final) :
    ∀ first ∈ steps.head?, first.source = machine.state := by
  induction htakes with
  | nil => exact fun _ hfirst => nomatch hfirst
  | fires _ _ _ _ =>
    rintro _ ⟨⟩
    rfl
  | fails hfails _ ih => exact fun first hfirst => (ih first hfirst).trans (state_of_exec_fails hfails)

/-- Each step begins where the one before it ended. -/
theorem chain (htakes : Takes machine calls answers steps final) :
    steps.IsChain fun step next => step.target = next.source := by
  induction htakes with
  | nil => exact .nil
  | fires _ _ hrest ih =>
    exact List.isChain_cons.2 ⟨fun next hnext => (hrest.first_source next hnext).symm, ih⟩
  | fails _ _ ih => exact ih

/-- The machine stands where the last step ended, or where it stood if there was none. -/
theorem last_target (htakes : Takes machine calls answers steps final) :
    (steps.map Step.target).getLastD machine.state = final.state := by
  induction htakes with
  | nil => rfl
  | fires _ _ _ ih => rw [List.map_cons, List.getLastD_cons, ih]
  | fails hfails _ ih => rw [← ih, state_of_exec_fails hfails]

end Takes

/-! ### What a machine that keeps a history has recorded -/

/-- A machine that keeps a history adds to it the steps that it would take without. -/
theorem exists_takes {machine : Machine State Event Context Fault} {history : History State}
    (hkept : machine.history = some history) (inputs : List (Input Event)) :
    ∃ steps, (machine.follow inputs).value.2.history = some ⟨history.steps ++ steps⟩ ∧
      Takes machine.forget (dispatches inputs) (machine.follow inputs).value.1 steps
        (machine.follow inputs).value.2.forget := by
  induction inputs generalizing machine history with
  | nil =>
    refine ⟨[], ?_, .nil⟩
    rw [List.append_nil]
    exact hkept
  | cons input inputs ih =>
    cases input with
    | keepHistory =>
      -- Asked again, the machine goes on with the history it has.
      have hsame : machine.withHistory.history = some history := by
        rw [withHistory, hkept]
        rfl
      exact ih hsame
    | dispatch now event =>
      rw [follow_dispatch_value, dispatches_dispatch]
      obtain ⟨rule, context, hselect, haction, hexec⟩ | ⟨fault, moved, hexec, -, hhistory⟩ :=
        machine.exec_cases now event
      · have hrecorded : (machine.fired now event rule context).history =
            some (history.record ⟨machine.state, rule.target, nameOf event, now⟩) := by
          rw [fired, hkept]
          rfl
        obtain ⟨steps, hsteps, htakes⟩ := ih hrecorded
        rw [hexec]
        refine ⟨⟨machine.state, rule.target, nameOf event, now⟩ :: steps, ?_, .fires hselect haction htakes⟩
        rw [hsteps, History.steps_record, List.append_assoc, List.singleton_append]
      · obtain ⟨steps, hsteps, htakes⟩ := ih (hhistory.trans hkept)
        have hforgotten : (machine.forget.exec now event).value = (.error fault, moved.forget) := by
          rw [exec_forget]
          exact congrArg (fun pair => (pair.1, pair.2.forget)) hexec
        rw [hexec]
        exact ⟨steps, hsteps, .fails hforgotten htakes⟩

theorem history_of_not_asked {machine : Machine State Event Context Fault} {inputs : List (Input Event)}
    (hnone : machine.history = none) (hasked : .keepHistory ∉ inputs) :
    (machine.follow inputs).value.2.history = none := by
  induction inputs generalizing machine with
  | nil => exact hnone
  | cons input inputs ih =>
    obtain ⟨hinput, hinputs⟩ := not_or.1 fun hmem => hasked (List.mem_cons.2 hmem)
    cases input with
    | keepHistory => exact absurd rfl hinput
    | dispatch now event =>
      rw [follow_dispatch_value]
      refine ih ?_ hinputs
      obtain ⟨rule, context, -, -, hexec⟩ | ⟨fault, moved, hexec, -, hhistory⟩ := machine.exec_cases now event
      · rw [hexec, fired, hnone]
        rfl
      · rw [hexec]
        exact hhistory.trans hnone

theorem follow_append_value (machine : Machine State Event Context Fault) (before after : List (Input Event)) :
    (machine.follow (before ++ after)).value =
      let first := (machine.follow before).value
      let rest := (first.2.follow after).value
      (first.1 ++ rest.1, rest.2) := by
  induction before generalizing machine with
  | nil => rfl
  | cons input before ih =>
    cases input with
    | keepHistory => exact ih machine.withHistory
    | dispatch now event =>
      rw [List.cons_append, follow_dispatch_value, follow_dispatch_value]
      dsimp only
      rw [ih]
      rfl

/-- The history that a machine has kept over inputs, and the answers to them, when it had just been asked to
keep one. -/
structure Recounts (opened : Machine State Event Context Fault) (inputs : List (Input Event))
    (answers : List (Except Fault State)) (history : History State) (final : Machine State Event Context Fault) :
    Prop where
  takes : Takes opened (dispatches inputs) answers history.steps final.forget
  targets : history.steps.map Step.target = answers.filterMap Except.toOption
  chain : history.steps.IsChain fun step next => step.target = next.source
  first_source : ∀ first ∈ history.steps.head?, first.source = opened.state
  last_target : (history.steps.map Step.target).getLastD opened.state = final.state
  path : history.path = if history.steps = [] then [] else opened.state :: answers.filterMap Except.toOption
  length_path : history.path.length = if history.steps = [] then 0 else history.steps.length + 1

theorem Takes.recounts {opened final : Machine State Event Context Fault} {inputs : List (Input Event)}
    {answers : List (Except Fault State)} {history : History State}
    (htakes : Takes opened (dispatches inputs) answers history.steps final.forget) :
    Recounts opened inputs answers history final where
  takes := htakes
  targets := htakes.targets
  chain := htakes.chain
  first_source := htakes.first_source
  last_target := htakes.last_target
  path := by
    have htargets := htakes.targets
    have hfirst := htakes.first_source
    unfold History.path
    split
    · next hnone => rw [hnone, if_pos rfl]
    · next first rest hsome =>
      rw [hsome] at htargets hfirst
      rw [hsome, if_neg (List.cons_ne_nil first rest), htargets, hfirst first rfl]
  length_path := history.length_path

/-- A history is faithful and passive. Whenever it is asked for, once, again or never, the answers and the
machine are those of the run that keeps none; it holds the steps taken since it was first asked for. -/
theorem follow_recounts (table : Table State Event Context Fault) (context : Context) (inputs : List (Input Event)) :
    let begun := start table context
    let final := (begun.follow inputs).value.2
    begun.execAll (dispatches inputs) =
        (fun (answers, final) => (answers, { final with history := none })) <$> begun.follow inputs ∧
      (.keepHistory ∉ inputs → final.history = none) ∧
      ∀ before after, inputs = before ++ .keepHistory :: after → .keepHistory ∉ before →
        ∃ since history, (begun.follow inputs).value.1 = (begun.follow before).value.1 ++ since ∧
          final.history = some history ∧ Recounts (begun.follow before).value.2 after since history final := by
  intro begun final
  refine ⟨execAll_forget begun inputs, history_of_not_asked rfl, ?_⟩
  rintro before after rfl hbefore
  have hopened : (begun.follow before).value.2.history = none := history_of_not_asked rfl hbefore
  have hkept : (begun.follow before).value.2.withHistory.history = some History.empty := by
    rw [withHistory, hopened]
    rfl
  obtain ⟨steps, hsteps, htakes⟩ := exists_takes hkept after
  rw [forget_withHistory, forget_of_history_none hopened] at htakes
  have hrun := follow_append_value begun before (.keepHistory :: after)
  have hfinal : final = ((begun.follow before).value.2.withHistory.follow after).value.2 :=
    congrArg (fun run => run.2) hrun
  rw [← hfinal] at hsteps htakes
  exact ⟨_, ⟨steps⟩, congrArg Prod.fst hrun, hsteps, htakes.recounts⟩

end Machine

end WordSums
