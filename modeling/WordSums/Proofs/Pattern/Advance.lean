import WordSums.Pattern.Basic

/-!
# Where a match can end

Matching only goes forward. Whatever a pattern hands on to what follows it is a place further on in the same
text, so a match never ends behind the end of the text. Each way of repeating keeps this from one round to any
number of them. The leftmost match begins no earlier than the search and ends no later than the text.
-/

namespace WordSums

/-- A place that is reached by reading on in the same text. -/
def Place.Ahead (place reached : Place) : Prop :=
  ∃ word, place.rest = word ++ reached.rest ∧ reached.taken = place.taken + word.length

theorem Place.Ahead.refl (place : Place) : place.Ahead place :=
  ⟨[], rfl, rfl⟩

theorem Place.ahead_enter (place : Place) (spot : Spot) : place.Ahead (place.enter spot) :=
  ⟨[], rfl, rfl⟩

theorem Place.Ahead.trans {first second third : Place} (hfirst : first.Ahead second) (hsecond : second.Ahead third) :
    first.Ahead third := by
  obtain ⟨word, hrest, htaken⟩ := hfirst
  obtain ⟨more, hmore, hfurther⟩ := hsecond
  refine ⟨word ++ more, by rw [hrest, hmore, List.append_assoc], ?_⟩
  rw [hfurther, htaken, List.length_append, Nat.add_assoc]

namespace Matcher

/-- What follows is only tried at places further on. -/
def Advances (matcher : Matcher) : Prop :=
  ∀ next place final, matcher next place = some final → ∃ reached, place.Ahead reached ∧ next reached = some final

/-- Whoever gets past a branch has gone one of its two ways. -/
theorem eq_some_of_branch {spot : Spot} {first second : Place → Option Place} {place final : Place}
    (hbranch : branch spot first second place = some final) :
    first (place.enter spot) = some final ∨ second (place.enter spot) = some final := by
  rw [branch, Option.ite_none_left_eq_some] at hbranch
  obtain ⟨_, hways⟩ := hbranch
  cases hfirst : first (place.enter spot) with
  | none => exact .inr (by rwa [hfirst] at hways)
  | some reached => exact .inl (by rwa [hfirst] at hways)

theorem eq_some_of_prefer {greedy : Bool} {spot : Spot} {round stop : Place → Option Place} {place final : Place}
    (hprefer : prefer greedy spot round stop place = some final) :
    round (place.enter spot) = some final ∨ stop (place.enter spot) = some final := by
  cases greedy with
  | true => exact eq_some_of_branch hprefer
  | false => exact (eq_some_of_branch hprefer).symm

/-- One part after the other: what the first hands on, the second takes up. -/
theorem Advances.trans {first second : Matcher} (hfirst : Advances first) (hsecond : Advances second) :
    Advances fun next => first (second next) := by
  intro next place final hrun
  obtain ⟨middle, hmiddle, hnext⟩ := hfirst _ _ _ hrun
  obtain ⟨reached, hreached, hfinal⟩ := hsecond _ _ _ hnext
  exact ⟨reached, hmiddle.trans hreached, hfinal⟩

/-- A branch between going on with a part and leaving it out. -/
theorem Advances.prefer {matcher : Matcher} (hmatcher : Advances matcher) (greedy : Bool) (spot : Spot) :
    Advances fun next => prefer greedy spot (matcher next) next := by
  intro next place final hrun
  obtain hround | hstop := eq_some_of_prefer hrun
  · obtain ⟨reached, hreached, hfinal⟩ := hmatcher _ _ _ hround
    exact ⟨reached, (place.ahead_enter spot).trans hreached, hfinal⟩
  · exact ⟨_, place.ahead_enter spot, hstop⟩

section Rounds

variable {round : Matcher} (hround : Advances round) (spot : Spot) (greedy : Bool)
include hround

theorem advances_anyNumber (bound : Nat) : Advances (anyNumber round spot greedy bound) := by
  induction bound with
  | zero =>
    intro next place final hrun
    obtain hnone | hstop := eq_some_of_prefer hrun
    · cases hnone
    · exact ⟨_, place.ahead_enter spot, hstop⟩
  | succ bound ih => exact (hround.trans ih).prefer greedy spot

theorem advances_onceOrMore : Advances (onceOrMore round spot greedy) := by
  intro next place final hrun
  obtain ⟨middle, hmiddle, hnext⟩ := hround _ _ _ hrun
  obtain ⟨reached, hreached, hfinal⟩ := advances_anyNumber hround spot greedy _ _ _ _ hnext
  exact ⟨reached, hmiddle.trans hreached, hfinal⟩

end Rounds

section Counted

variable {round : Nat → Matcher} (hround : ∀ index, Advances (round index)) (spot : Spot)
include hround

theorem advances_exactly (index count : Nat) : Advances (exactly round index count) := by
  induction count generalizing index with
  | zero => exact fun next place final hrun => ⟨place, .refl place, hrun⟩
  | succ count ih => exact (hround index).trans (ih (index + 1))

theorem advances_atMost (greedy : Bool) (index count : Nat) : Advances (atMost round spot greedy index count) := by
  induction count generalizing index with
  | zero => exact fun next place final hrun => ⟨place, .refl place, hrun⟩
  | succ count ih => exact ((hround index).trans (ih (index + 1))).prefer greedy _

theorem advances_rounds (hollow : Bool) (least : Nat) (most : Option Nat) (greedy : Bool) :
    Advances (rounds round spot hollow least most greedy) := by
  match most, least with
  | some most, least =>
    exact (advances_exactly hround 0 least).trans (advances_atMost hround spot greedy least (most - least))
  | none, least + 1 => exact (advances_exactly hround 0 least).trans (advances_onceOrMore (hround least) spot greedy)
  | none, 0 =>
    cases hollow with
    | true => exact (advances_onceOrMore (hround 0) spot greedy).prefer greedy (0 :: spot)
    | false => exact fun next place => advances_anyNumber (hround 0) spot greedy place.rest.length next place

end Counted

end Matcher

namespace Pattern

theorem advances_run (pattern : Pattern) (spot : Spot) : Matcher.Advances (pattern.run spot) := by
  induction pattern generalizing spot with
  | empty => exact fun next place final hrun => ⟨place, .refl place, hrun⟩
  | one set =>
    intro next place final hrun
    obtain ⟨before, rest, taken, passed⟩ := place
    cases rest with
    | nil => cases hrun
    | cons char rest =>
      dsimp only [run] at hrun
      rw [Option.ite_none_right_eq_some] at hrun
      exact ⟨_, ⟨[char], rfl, rfl⟩, hrun.2⟩
  | anchor condition =>
    intro next place final hrun
    rw [run, Option.ite_none_right_eq_some] at hrun
    exact ⟨place, .refl place, hrun.2⟩
  | both first second ihfirst ihsecond => exact (ihfirst _).trans (ihsecond _)
  | either first second ihfirst ihsecond =>
    intro next place final hrun
    obtain hfirst | hsecond := Matcher.eq_some_of_branch hrun
    · obtain ⟨reached, hreached, hfinal⟩ := ihfirst _ _ _ _ hfirst
      exact ⟨reached, (place.ahead_enter spot).trans hreached, hfinal⟩
    · obtain ⟨reached, hreached, hfinal⟩ := ihsecond _ _ _ _ hsecond
      exact ⟨reached, (place.ahead_enter spot).trans hreached, hfinal⟩
  | times body least most greedy ih => exact Matcher.advances_rounds (fun index => ih _) spot _ least most greedy

variable {pattern : Pattern} {before : Option Char} {text : List Char} {taken first last : Nat}

/-- A match ends between the place where it begins and the end of the text. -/
theorem matchAt?_bounds (hmatch : pattern.matchAt? before text taken = some last) :
    taken ≤ last ∧ last ≤ taken + text.length := by
  obtain ⟨final, hrun, rfl⟩ := Option.map_eq_some_iff.1 hmatch
  obtain ⟨reached, ⟨word, hrest, htaken⟩, hreached⟩ := advances_run pattern [] _ _ _ hrun
  obtain rfl := Option.some.inj hreached
  have hlength := congrArg List.length hrest
  rw [List.length_append] at hlength
  dsimp only at hlength htaken
  omega

theorem searchFrom?_bounds (hsearch : pattern.searchFrom? before text taken = some (first, last)) :
    taken ≤ first ∧ first ≤ last ∧ last ≤ taken + text.length := by
  induction text generalizing before taken with
  | nil =>
    obtain ⟨stop, hmatch, hpair⟩ := Option.map_eq_some_iff.1 hsearch
    obtain ⟨rfl, rfl⟩ := Prod.mk.inj hpair
    exact ⟨Nat.le_refl _, matchAt?_bounds hmatch⟩
  | cons char rest ih =>
    rw [searchFrom?] at hsearch
    cases hmatch : pattern.matchAt? before (char :: rest) taken with
    | some stop =>
      rw [hmatch] at hsearch
      obtain ⟨rfl, rfl⟩ := Prod.mk.inj (Option.some.inj hsearch)
      exact ⟨Nat.le_refl _, matchAt?_bounds hmatch⟩
    | none =>
      rw [hmatch] at hsearch
      have hlater := ih hsearch
      rw [List.length_cons]
      omega

theorem search?_bounds (hsearch : pattern.search? text = some (first, last)) : first ≤ last ∧ last ≤ text.length := by
  have hbounds := searchFrom?_bounds hsearch
  omega

end Pattern

end WordSums
