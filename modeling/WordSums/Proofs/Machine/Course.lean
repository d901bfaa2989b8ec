import WordSums.Proofs.Machine.Dispatch

/-!
# The course of a run

A run dispatches its events one after the other, each on the machine that the one before has left behind,
whether that one succeeded or not. Nothing else happens between two dispatches, so the course of a run is
known from what single dispatches lead to. The table is never changed, and a dispatch moves the machine only
to the target of a rule; so the machine always stands in a state that its table names.
-/

namespace WordSums

open WordSums.Time

variable {State Event Context Fault : Type} [DecidableEq State]

/-! ### The states that a table names -/

namespace Table

variable (table : Table State Event Context Fault)

end Table

/-! ### Runs -/

namespace Machine

variable [DecidableEq Event] [Named State] [Named Event] [OfNoTransition Fault]

/-- Events dispatched one after the other, with the answers to them and the machine at the end. -/
inductive Course : Machine State Event Context Fault → List (Timestamp × Event) → List (Except Fault State) →
    Machine State Event Context Fault → Prop
  | nil {machine : Machine State Event Context Fault} : Course machine [] [] machine
  | cons {machine moved final : Machine State Event Context Fault} {now : Timestamp} {event : Event}
      {calls : List (Timestamp × Event)} {answer : Except Fault State} {answers : List (Except Fault State)}
      (hfirst : machine.Dispatches now event answer moved) (hrest : Course moved calls answers final) :
      Course machine ((now, event) :: calls) (answer :: answers) final

theorem execAll_cons_value (machine : Machine State Event Context Fault) (now : Timestamp) (event : Event)
    (calls : List (Timestamp × Event)) :
    (machine.execAll ((now, event) :: calls)).value =
      let first := (machine.exec now event).value
      let rest := (first.2.execAll calls).value
      (first.1 :: rest.1, rest.2) := rfl

end Machine

end WordSums
