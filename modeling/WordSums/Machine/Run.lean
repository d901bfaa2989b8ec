import WordSums.Journal
import WordSums.Machine.History
import WordSums.Machine.Table

/-!
# Running a machine

A machine takes one event at a time. Of the rules that concern its state and the event, the first
whose guard does not refuse is selected; a guard that fails ends the search with its failure, and if
every guard refuses there is no transition. The selected rule's action then works on the context,
and only if it succeeds does the machine move on and, when it keeps a history, record the step.
Every dispatch that reaches a rule's action or finds no rule is reported once.
-/

namespace WordSums

open WordSums.Time

variable {State Event Context Fault : Type}

structure Machine (State Event Context Fault : Type) where
  table : Table State Event Context Fault
  state : State
  context : Context
  history : Option (History State)

/-- The first rule of a list that concerns the state and the event and whose guard does not refuse.
-/
def selectRule [DecidableEq State] [DecidableEq Event] (state : State) (event : Event) (context : Context) :
    List (Rule State Event Context Fault) → Except Fault (Option (Rule State Event Context Fault))
  | [] => .ok none
  | rule :: rest =>
    if rule.concerns state event then
      match rule.admits context with
      | .error fault => .error fault
      | .ok true => .ok (some rule)
      | .ok false => selectRule state event context rest
    else selectRule state event context rest

def machineTopic : String := "mathq::fsm"

section Entries

variable [Named State] [Named Event]

def firedEntry (source target : State) (event : Event) : Entry :=
  ⟨.trace, machineTopic, "Transition fired",
    [("from", nameOf source), ("to", nameOf target), ("event", nameOf event)]⟩

def actionFailedEntry (state : State) (event : Event) : Entry :=
  ⟨.debug, machineTopic, "Transition action failed", [("state", nameOf state), ("event", nameOf event)]⟩

/-- The report of an event for which there is no rule. -/
def unmatchedEntry (state : State) (event : Event) : Entry :=
  ⟨.debug, machineTopic, "No transition matched", [("state", nameOf state), ("event", nameOf event)]⟩

end Entries

namespace Machine

/-- A machine in its table's initial state, without a history. -/
def start (table : Table State Event Context Fault) (context : Context) : Machine State Event Context Fault :=
  ⟨table, table.initial, context, none⟩

/-- Keeps a history from now on; one already kept goes on. -/
def withHistory (machine : Machine State Event Context Fault) : Machine State Event Context Fault :=
  { machine with history := some (machine.history.getD History.empty) }

/-- Whether the machine is in a state in which runs end. -/
def isFinal [MachineState State] (machine : Machine State Event Context Fault) : Bool :=
  MachineState.isFinal machine.state

variable [DecidableEq State] [DecidableEq Event] [Named State] [Named Event] [OfNoTransition Fault]

/-- Dispatches one event at a moment in time. The answer is the new state or the failure, together
with the machine as it is afterwards. -/
def exec (machine : Machine State Event Context Fault) (now : Timestamp) (event : Event) :
    Traced (Except Fault State × Machine State Event Context Fault) :=
  match selectRule machine.state event machine.context machine.table.rules with
  | .error fault => ⟨(.error fault, machine), []⟩
  | .ok none =>
    ⟨(.error (ofNoTransition ⟨nameOf machine.state, nameOf event⟩), machine),
      [unmatchedEntry machine.state event]⟩
  | .ok (some rule) =>
    match rule.apply machine.context with
    | (.error fault, context) =>
      ⟨(.error fault, { machine with context := context }), [actionFailedEntry machine.state event]⟩
    | (.ok (), context) =>
      let step : Step State := ⟨machine.state, rule.target, nameOf event, now⟩
      ⟨(.ok rule.target,
          { machine with
            state := rule.target
            context := context
            history := machine.history.map (·.record step) }),
        [firedEntry rule.source rule.target event]⟩

/-- Dispatches events one after the other, each at its own moment, going on after failures; the
answers are in order. -/
def execAll (machine : Machine State Event Context Fault) :
    List (Timestamp × Event) → Traced (List (Except Fault State) × Machine State Event Context Fault)
  | [] => pure ([], machine)
  | (now, event) :: rest => do
    let (answer, moved) ← machine.exec now event
    let (answers, final) ← moved.execAll rest
    pure (answer :: answers, final)

end Machine

end WordSums
