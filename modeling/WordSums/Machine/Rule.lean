/-!
# Rules of a machine

A machine goes from state to state as events arrive, and works on a context while it does so. A rule
says where an event leads from one state; its guard, if it has one, looks at the context and decides
whether the rule may fire, and its action, if it has one, changes the context when it does. Guards
and actions may fail. An action that fails has still changed what it had changed by then.
-/

namespace WordSums

/-- States and events go by a name in reports and messages. -/
class Named (α : Type) where
  nameOf : α → String

export Named (nameOf)

/-- A state may be one in which a run ends, and one that stands for a failed run. -/
class MachineState (State : Type) extends Named State where
  isFinal : State → Bool
  isError : State → Bool

/-- No rule applies to an event in a state. -/
structure NoTransition where
  state : String
  event : String
deriving DecidableEq, Repr

def NoTransition.message (missing : NoTransition) : String :=
  s!"No transition from state '{missing.state}' on event '{missing.event}'"

/-- A kind of fault among which the missing rule is one. -/
class OfNoTransition (Fault : Type) where
  ofNoTransition : NoTransition → Fault

export OfNoTransition (ofNoTransition)

/-- A question to the context that may fail. -/
structure Guard (Context Fault : Type) where
  check : Context → Except Fault Bool

namespace Guard

variable {Context Fault : Type}

/-- A guard that cannot fail. -/
def when (holds : Context → Bool) : Guard Context Fault := ⟨fun context => .ok (holds context)⟩

/-- The opposite answer; a failure stays a failure. -/
def negate (guard : Guard Context Fault) : Guard Context Fault :=
  ⟨fun context => (guard.check context).map (! ·)⟩

end Guard

structure Move (State Event : Type) where
  source : State
  event : Event
  target : State
deriving DecidableEq, Repr

/-- What firing a move does to the context, and the failure it ends in, if it does. -/
abbrev Action (State Event Context Fault : Type) : Type :=
  Move State Event → Context → Except Fault Unit × Context

structure Rule (State Event Context Fault : Type) extends Move State Event where
  guard : Option (Guard Context Fault)
  action : Option (Action State Event Context Fault)

namespace Rule

variable {State Event Context Fault : Type} [DecidableEq State] [DecidableEq Event]

def concerns (rule : Rule State Event Context Fault) (state : State) (event : Event) : Bool :=
  rule.source = state ∧ rule.event = event

/-- A rule without a guard may always fire. -/
def admits (rule : Rule State Event Context Fault) (context : Context) : Except Fault Bool :=
  match rule.guard with
  | some guard => guard.check context
  | none => .ok true

/-- A rule without an action leaves the context as it is. -/
def apply (rule : Rule State Event Context Fault) (context : Context) : Except Fault Unit × Context :=
  match rule.action with
  | some action => action rule.toMove context
  | none => (.ok (), context)

/-- A rule is guarded when it has a guard, whatever the guard says. -/
def isGuarded (rule : Rule State Event Context Fault) : Bool :=
  rule.guard.isSome

theorem concerns_eq_true_iff {rule : Rule State Event Context Fault} {state : State} {event : Event} :
    rule.concerns state event = true ↔ rule.source = state ∧ rule.event = event := by
  simp [concerns]

end Rule

end WordSums
