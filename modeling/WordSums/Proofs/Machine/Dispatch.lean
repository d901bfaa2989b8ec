import WordSums.Proofs.Machine.Selection

/-!
# What a dispatch comes to

A dispatch is decided by the rule that is selected and by what its action does. If the action
succeeds, the machine is at the rule's target with the action's context; if it fails, only the
context can have changed. Whoever runs a machine over a particular table needs to know no more of a
dispatch than this.

`Dispatches` says the same of any table, from the guards and actions of its rules alone. It has one case
for each of the four ways in which a dispatch can end, and exactly one of them applies.
-/

namespace WordSums

open WordSums.Time

namespace Machine

variable {State Event Context Fault : Type} [DecidableEq State] [DecidableEq Event] [Named State] [Named Event]
  [OfNoTransition Fault] {machine : Machine State Event Context Fault} {now : Timestamp} {event : Event}
  {rule : Rule State Event Context Fault} {context : Context}

/-- The machine after a rule has fired and left a context behind. -/
def fired (machine : Machine State Event Context Fault) (now : Timestamp) (event : Event)
    (rule : Rule State Event Context Fault) (context : Context) : Machine State Event Context Fault :=
  { machine with
    state := rule.target
    context := context
    history := machine.history.map (·.record ⟨machine.state, rule.target, nameOf event, now⟩) }

theorem exec_of_applied
    (hselect : selectRule machine.state event machine.context machine.table.rules = .ok (some rule))
    (happly : rule.apply machine.context = (.ok (), context)) :
    (machine.exec now event).value = (.ok rule.target, machine.fired now event rule context) := by
  unfold exec
  rw [hselect]
  dsimp only
  rw [happly]
  rfl

theorem exec_of_failed {fault : Fault}
    (hselect : selectRule machine.state event machine.context machine.table.rules = .ok (some rule))
    (happly : rule.apply machine.context = (.error fault, context)) :
    (machine.exec now event).value = (.error fault, { machine with context := context }) := by
  unfold exec
  rw [hselect]
  dsimp only
  rw [happly]

theorem exec_of_guard_failed {fault : Fault}
    (hselect : selectRule machine.state event machine.context machine.table.rules = .error fault) :
    (machine.exec now event).value = (.error fault, machine) := by
  unfold exec
  rw [hselect]

theorem exec_of_unmatched
    (hselect : selectRule machine.state event machine.context machine.table.rules = .ok none) :
    (machine.exec now event).value = (.error (ofNoTransition ⟨nameOf machine.state, nameOf event⟩), machine) := by
  unfold exec
  rw [hselect]

/-- What an event leads to, given the rules that concern it in the machine's state, in table order. -/
inductive Dispatches (machine : Machine State Event Context Fault) (now : Timestamp) (event : Event) :
    Except Fault State → Machine State Event Context Fault → Prop
  | guardFails {rule : Rule State Event Context Fault} {fault : Fault}
      (hreached : rule.ReachedIn machine.context (machine.table.rulesFor machine.state event))
      (hguard : rule.admits machine.context = .error fault) :
      Dispatches machine now event (.error fault) machine
  | unmatched (hdeclined : ∀ rule ∈ machine.table.rulesFor machine.state event, rule.Declines machine.context) :
      Dispatches machine now event (.error (ofNoTransition ⟨nameOf machine.state, nameOf event⟩)) machine
  | actionFails {rule : Rule State Event Context Fault} {fault : Fault} {context : Context}
      (hreached : rule.ReachedIn machine.context (machine.table.rulesFor machine.state event))
      (hguard : rule.admits machine.context = .ok true)
      (haction : rule.apply machine.context = (.error fault, context)) :
      Dispatches machine now event (.error fault) { machine with context := context }
  | fires {rule : Rule State Event Context Fault} {context : Context}
      (hreached : rule.ReachedIn machine.context (machine.table.rulesFor machine.state event))
      (hguard : rule.admits machine.context = .ok true)
      (haction : rule.apply machine.context = (.ok (), context)) :
      Dispatches machine now event (.ok rule.target) (machine.fired now event rule context)

theorem Dispatches.exec_eq {answer : Except Fault State} {after : Machine State Event Context Fault}
    (hdispatches : machine.Dispatches now event answer after) :
    (machine.exec now event).value = (answer, after) := by
  cases hdispatches with
  | guardFails hreached hguard => exact exec_of_guard_failed (selectRule_of_fails hreached hguard)
  | unmatched hdeclined => exact exec_of_unmatched (selectRule_of_declined hdeclined)
  | actionFails hreached hguard haction =>
    exact exec_of_failed (selectRule_of_admits hreached hguard) haction
  | fires hreached hguard haction => exact exec_of_applied (selectRule_of_admits hreached hguard) haction

theorem exists_dispatches (machine : Machine State Event Context Fault) (now : Timestamp) (event : Event) :
    ∃ answer after, machine.Dispatches now event answer after := by
  by_cases hdeclined : ∀ rule ∈ machine.table.rulesFor machine.state event, rule.Declines machine.context
  · exact ⟨_, _, .unmatched hdeclined⟩
  · obtain ⟨rule, hreached, hstands⟩ := Rule.exists_reachedIn hdeclined
    cases hguard : rule.admits machine.context with
    | error fault => exact ⟨_, _, .guardFails hreached hguard⟩
    | ok admitted =>
      cases admitted with
      | false => exact absurd hguard hstands
      | true =>
        cases haction : rule.apply machine.context with
        | mk result context =>
          cases result with
          | error fault => exact ⟨_, _, .actionFails hreached hguard haction⟩
          | ok _ => exact ⟨_, _, .fires hreached hguard haction⟩

theorem exec_eq_iff {answer : Except Fault State} {after : Machine State Event Context Fault} :
    (machine.exec now event).value = (answer, after) ↔ machine.Dispatches now event answer after := by
  refine ⟨fun hexec => ?_, Dispatches.exec_eq⟩
  obtain ⟨other, moved, hdispatches⟩ := exists_dispatches machine now event
  obtain ⟨rfl, rfl⟩ := Prod.mk.inj (hexec.symm.trans hdispatches.exec_eq)
  exact hdispatches

/-- A dispatch keeps the table, and the machine stays where it was or moves to the target of a rule. -/
theorem Dispatches.table_and_state {answer : Except Fault State} {after : Machine State Event Context Fault}
    (hdispatches : machine.Dispatches now event answer after) :
    after.table = machine.table ∧
      (after.state = machine.state ∨ ∃ rule ∈ machine.table.rules, after.state = rule.target) := by
  cases hdispatches with
  | guardFails | unmatched | actionFails => exact ⟨rfl, .inl rfl⟩
  | @fires rule context hreached =>
    exact ⟨rfl, .inr ⟨rule, (List.mem_filter.1 hreached.mem).1, rfl⟩⟩

end Machine

end WordSums
