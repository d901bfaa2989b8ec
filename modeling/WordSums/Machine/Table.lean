import WordSums.Machine.Rule

/-!
# Transition tables

A table is an initial state and the rules in the order in which they are tried. It is only built
from rules that make sense together: some rule leaves the initial state, and no rule stands behind
an unguarded one for the same state and event, where it could never fire. All such faults are
reported at once, the initial state's first, then the rules' in their order.
-/

namespace WordSums

inductive TableFault where
  | shadowed (state event : String) (index : Nat)
  | deadInitial (state : String)
deriving DecidableEq, Repr

def TableFault.message : TableFault → String
  | .shadowed state event index =>
    s!"rule #{index} for ('{state}', '{event}') is unreachable behind an unguarded rule"
  | .deadInitial state => s!"initial state '{state}' has no outgoing rule"

inductive BuildFault where
  | missingInitial
  | noRules
  | missingSource
  | missingEvent
  | missingTarget
  | inconsistent (faults : List TableFault)
deriving DecidableEq, Repr

def BuildFault.message : BuildFault → String
  | .missingInitial => "Initial state not specified. Call .initial(state) before .build()"
  | .noRules => "No transitions defined. Add at least one transition"
  | .missingSource => "Transition source state not specified. Call .from(state)"
  | .missingEvent => "Transition event not specified. Call .on(event)"
  | .missingTarget => "Transition target state not specified. Call .to(state)"
  | .inconsistent faults =>
    "Transition table is inconsistent: " ++ String.intercalate "; " (faults.map TableFault.message)

variable {State Event Context Fault : Type}

/-- An initial state and the rules, in the order in which they are tried. -/
structure Table (State Event Context Fault : Type) where
  initial : State
  rules : List (Rule State Event Context Fault)

/-- A rule some of whose parts may not be given yet. -/
structure RuleDraft (State Event Context Fault : Type) where
  source : Option State
  event : Option Event
  target : Option State
  guard : Option (Guard Context Fault)
  action : Option (Action State Event Context Fault)

/-- The rule that a draft gives once its source, event and target are there; the first one missing
is reported. -/
def RuleDraft.finish (draft : RuleDraft State Event Context Fault) :
    Except BuildFault (Rule State Event Context Fault) :=
  match draft.source, draft.event, draft.target with
  | none, _, _ => .error .missingSource
  | some _, none, _ => .error .missingEvent
  | some _, some _, none => .error .missingTarget
  | some source, some event, some target => .ok ⟨⟨source, event, target⟩, draft.guard, draft.action⟩

section Faults

variable [DecidableEq State] [DecidableEq Event] [Named State] [Named Event]

/-- The faults of the rules that stand behind others: a rule is shadowed when an earlier one
concerns the same state and event and has no guard. -/
def shadowedFaults (rules : List (Rule State Event Context Fault)) : List TableFault :=
  rules.zipIdx.filterMap fun (rule, index) =>
    if (rules.take index).any fun earlier => earlier.concerns rule.source rule.event && !earlier.isGuarded then
      some (.shadowed (nameOf rule.source) (nameOf rule.event) index)
    else none

/-- All faults of an initial state and a list of rules. -/
def tableFaults (initial : State) (rules : List (Rule State Event Context Fault)) : List TableFault :=
  (if rules.any fun rule => rule.source = initial then [] else [.deadInitial (nameOf initial)]) ++
    shadowedFaults rules

/-- The table of an initial state and rules without fault. -/
def Table.build (initial : Option State) (rules : List (Rule State Event Context Fault)) :
    Except BuildFault (Table State Event Context Fault) :=
  match initial with
  | none => .error .missingInitial
  | some initial =>
    if rules.isEmpty then .error .noRules
    else match tableFaults initial rules with
      | [] => .ok ⟨initial, rules⟩
      | faults => .error (.inconsistent faults)

/-- The table of an initial state and drafts, which are finished in their order before anything else
is looked at. -/
def Table.buildFromDrafts (initial : Option State) (drafts : List (RuleDraft State Event Context Fault)) :
    Except BuildFault (Table State Event Context Fault) := do
  Table.build initial (← drafts.mapM RuleDraft.finish)

end Faults

namespace Table

/-- Every state that the table names, each once: the initial one, then source and target of each
rule. -/
def states [DecidableEq State] (table : Table State Event Context Fault) : List State :=
  (table.initial :: table.rules.flatMap fun rule => [rule.source, rule.target]).foldl
    (fun seen state => if state ∈ seen then seen else seen ++ [state]) []

/-- The rules that concern an event in a state, in table order. -/
def rulesFor [DecidableEq State] [DecidableEq Event] (table : Table State Event Context Fault) (state : State)
    (event : Event) : List (Rule State Event Context Fault) :=
  table.rules.filter fun rule => rule.concerns state event

end Table

end WordSums
