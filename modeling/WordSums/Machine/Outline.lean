import WordSums.Machine.Table

/-!
# Outlines of rules and tables

The one-line form in which rules and tables appear in diagnostics. Guards and actions are functions,
so an outline only says whether they are there.
-/

namespace WordSums

variable {State Event Context Fault : Type} [Named State] [Named Event]

/-- A guard shows nothing of itself. -/
def Guard.outline : Option (Guard Context Fault) → String
  | some _ => "Some(Guard(..))"
  | none => "None"

/-- Source, event and target of a rule, and whether it has a guard and an action. -/
def Rule.outline (rule : Rule State Event Context Fault) : String :=
  "Transition \x7b from: " ++ nameOf rule.source ++ ", event: " ++ nameOf rule.event ++
    ", to: " ++ nameOf rule.target ++ ", guarded: " ++ toString rule.guard.isSome ++ ", has_action: " ++ toString rule.action.isSome ++ " \x7d"

/-- The initial state of a table and the outlines of its rules. -/
def Table.outline (table : Table State Event Context Fault) : String :=
  "TransitionTable \x7b initial: " ++ nameOf table.initial ++ ", rules: [" ++
    String.intercalate ", " (table.rules.map Rule.outline) ++ "] \x7d"

end WordSums
