import WordSums.Pattern.Basic

/-!
# Where a pattern stands

A way through a pattern keeps the branches that it has passed, and a branch is known by where it stands. So the
same pattern, standing at another spot and met on another way, is matched in the same way, if none of its own
branches has been passed. Two runs are followed side by side: whatever is passed in the one is passed in the
other, and what goes on from places that look alike ends at the same character.
-/

namespace WordSums

/-- Two places in the same text that look alike from a pattern, which stands at one spot for the first place
and at another for the second. -/
structure Place.Alike (left right : Spot) (place other : Place) : Prop where
  before : place.before = other.before
  rest : place.rest = other.rest
  taken : place.taken = other.taken
  passed : ∀ turns, turns ++ left ∈ place.passed ↔ turns ++ right ∈ other.passed

/-- What goes on from places that look alike ends at the same character. -/
def Follow (left right : Spot) (next other : Place → Option Place) : Prop :=
  ∀ place second, place.Alike left right second → (next place).map Place.taken = (other second).map Place.taken

/-- Whatever follows, the two matchers end at the same character. -/
def Matcher.Parallel (left right : Spot) (matcher other : Matcher) : Prop :=
  ∀ next second, Follow left right next second → Follow left right (matcher next) (other second)

variable {left right : Spot}

theorem Place.Alike.enter {place other : Place} (halike : place.Alike left right other) (turns : List Nat) :
    (place.enter (turns ++ left)).Alike left right (other.enter (turns ++ right)) where
  before := halike.before
  rest := halike.rest
  taken := halike.taken
  passed more := by simp [Place.enter, halike.passed]

theorem Anchor.holds_eq_of_alike {place other : Place} (halike : place.Alike left right other) (anchor : Anchor) :
    anchor.holds place = anchor.holds other := by
  unfold Anchor.holds
  rw [halike.before, halike.rest]

theorem follow_some : Follow left right some some := by
  intro place other halike
  rw [Option.map_some, Option.map_some, halike.taken]

namespace Matcher

theorem follow_branch {first second other another : Place → Option Place} (hfirst : Follow left right first other)
    (hsecond : Follow left right second another) (turns : List Nat) :
    Follow left right (branch (turns ++ left) first second) (branch (turns ++ right) other another) := by
  intro place beside halike
  unfold branch
  by_cases hpassed : turns ++ left ∈ place.passed
  · rw [if_pos hpassed, if_pos ((halike.passed turns).1 hpassed)]
  · rw [if_neg hpassed, if_neg fun hother => hpassed ((halike.passed turns).2 hother)]
    have hone := hfirst _ _ (halike.enter turns)
    have htwo := hsecond _ _ (halike.enter turns)
    revert hone
    cases first (place.enter (turns ++ left)) <;> cases other (beside.enter (turns ++ right)) <;> intro hone
    · exact htwo
    · cases hone
    · cases hone
    · exact hone

theorem follow_prefer {round stop other halt : Place → Option Place} (hround : Follow left right round other)
    (hstop : Follow left right stop halt) (greedy : Bool) (turns : List Nat) :
    Follow left right (prefer greedy (turns ++ left) round stop) (prefer greedy (turns ++ right) other halt) := by
  cases greedy with
  | true => exact follow_branch hround hstop turns
  | false => exact follow_branch hstop hround turns

section Rounds

variable {round other : Matcher} (hround : Parallel left right round other) (turns : List Nat) (greedy : Bool)
include hround

theorem parallel_anyNumber (bound : Nat) :
    Parallel left right (anyNumber round (turns ++ left) greedy bound)
      (anyNumber other (turns ++ right) greedy bound) := by
  induction bound with
  | zero => exact fun next second hnext => follow_prefer (fun _ _ _ => rfl) hnext greedy turns
  | succ bound ih => exact fun next second hnext => follow_prefer (hround _ _ (ih _ _ hnext)) hnext greedy turns

theorem parallel_onceOrMore :
    Parallel left right (onceOrMore round (turns ++ left) greedy) (onceOrMore other (turns ++ right) greedy) := by
  intro next second hnext
  refine hround _ _ fun place beside halike => ?_
  rw [halike.rest]
  exact parallel_anyNumber hround turns greedy beside.rest.length _ _ hnext _ _ halike

end Rounds

section Counted

variable {round other : Nat → Matcher} (hround : ∀ index, Parallel left right (round index) (other index))
  (turns : List Nat)
include hround

theorem parallel_exactly (index count : Nat) :
    Parallel left right (exactly round index count) (exactly other index count) := by
  induction count generalizing index with
  | zero => exact fun _ _ hnext => hnext
  | succ count ih => exact fun next second hnext => hround index _ _ (ih (index + 1) _ _ hnext)

theorem parallel_atMost (greedy : Bool) (index count : Nat) :
    Parallel left right (atMost round (turns ++ left) greedy index count)
      (atMost other (turns ++ right) greedy index count) := by
  induction count generalizing index with
  | zero => exact fun _ _ hnext => hnext
  | succ count ih =>
    exact fun next second hnext =>
      follow_prefer (hround index _ _ (ih (index + 1) _ _ hnext)) hnext greedy ((2 * index + 1) :: turns)

theorem parallel_rounds (hollow : Bool) (least : Nat) (most : Option Nat) (greedy : Bool) :
    Parallel left right (rounds round (turns ++ left) hollow least most greedy)
      (rounds other (turns ++ right) hollow least most greedy) := by
  intro next second hnext
  match most, least with
  | some most, least =>
    exact parallel_exactly hround 0 least _ _ (parallel_atMost hround turns greedy least (most - least) _ _ hnext)
  | none, least + 1 =>
    exact parallel_exactly hround 0 least _ _ (parallel_onceOrMore (hround least) turns greedy _ _ hnext)
  | none, 0 =>
    cases hollow with
    | true =>
      exact follow_prefer (parallel_onceOrMore (hround 0) turns greedy _ _ hnext) hnext greedy (0 :: turns)
    | false =>
      intro place beside halike
      dsimp only [rounds]
      rw [halike.rest]
      exact parallel_anyNumber (hround 0) turns greedy beside.rest.length _ _ hnext _ _ halike

end Counted

end Matcher

namespace Pattern

theorem parallel_run (pattern : Pattern) (turns : List Nat) :
    Matcher.Parallel left right (pattern.run (turns ++ left)) (pattern.run (turns ++ right)) := by
  induction pattern generalizing turns with
  | empty => exact fun _ _ hnext => hnext
  | one set =>
    intro next second hnext place beside halike
    dsimp only [run]
    rw [halike.rest]
    cases beside.rest with
    | nil => rfl
    | cons char rest =>
      dsimp only
      split
      · exact hnext _ _ ⟨rfl, rfl, congrArg (· + 1) halike.taken, fun _ => by simp⟩
      · rfl
  | anchor condition =>
    intro next second hnext place beside halike
    dsimp only [run]
    rw [Anchor.holds_eq_of_alike halike]
    split
    · exact hnext _ _ halike
    · rfl
  | both first second ihfirst ihsecond =>
    exact fun next other hnext => ihfirst (0 :: turns) _ _ (ihsecond (1 :: turns) _ _ hnext)
  | either first second ihfirst ihsecond =>
    exact fun next other hnext =>
      Matcher.follow_branch (ihfirst (0 :: turns) _ _ hnext) (ihsecond (1 :: turns) _ _ hnext) turns
  | times body least most greedy ih =>
    exact Matcher.parallel_rounds (fun index => ih ((2 * index + 2) :: turns)) turns body.isHollow least most greedy

/-- A pattern matches alike wherever it stands, if the way to it has passed none of its branches. -/
theorem taken_run_eq_matchAt? (pattern : Pattern) {spot : Spot} {before : Option Char} {text : List Char}
    {taken : Nat} {passed : List Spot} (hclear : ∀ turns, turns ++ spot ∉ passed) :
    (pattern.run spot some ⟨before, text, taken, passed⟩).map Place.taken = pattern.matchAt? before text taken :=
  pattern.parallel_run [] _ _ follow_some _ _ ⟨rfl, rfl, rfl, fun turns => by simp [hclear turns]⟩

end Pattern

end WordSums
