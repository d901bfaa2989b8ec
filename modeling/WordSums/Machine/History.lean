import WordSums.Time.Written

/-!
# The history of a machine

The steps that a machine has taken since it began to keep them, oldest first. The path is the
sequence of states visited, and the duration is the time from the first step to the last.
-/

namespace WordSums

open WordSums.Time

/-- One step taken: from where to where, on which event, and when. -/
structure Step (State : Type) where
  source : State
  target : State
  event : String
  time : Timestamp
deriving DecidableEq

/-- Steps taken, oldest first. -/
structure History (State : Type) where
  steps : List (Step State)
deriving DecidableEq

namespace History

variable {State : Type}

def empty : History State := ⟨[]⟩

def record (history : History State) (step : Step State) : History State :=
  ⟨history.steps ++ [step]⟩

/-- The states visited: where the first step began, then where each step led. -/
def path (history : History State) : List State :=
  match history.steps with
  | [] => []
  | first :: rest => first.source :: (first :: rest).map Step.target

def events (history : History State) : List String :=
  history.steps.map Step.event

/-- Nanoseconds from the first step to the last; none when nothing was recorded or time ran
backwards. -/
def duration? (history : History State) : Option Nat :=
  match history.steps.head?, history.steps.getLast? with
  | some first, some last =>
    let nanos := last.time.nanosSince first.time
    if 0 ≤ nanos then some nanos.toNat else none
  | _, _ => none

@[simp] theorem steps_record (history : History State) (step : Step State) :
    (history.record step).steps = history.steps ++ [step] := rfl

/-- A path has one state more than there are steps, unless nothing happened. -/
theorem length_path (history : History State) :
    history.path.length = if history.steps = [] then 0 else history.steps.length + 1 := by
  unfold path
  split <;> simp_all

end History

end WordSums
