import WordSums.Pattern.Backtracking
import WordSums.Proofs.Pattern.Spots

/-!
# What simple patterns match

A pattern hands the place it has reached to whatever follows it, so each equation here says from
which place the following part goes on. A word spelt out goes on past the word or nowhere, and a
greedy run of characters from one set goes on past all of them. The preferred match of alternatives
at a place is that of the first alternative that has one there, and the leftmost match of them is the
leftmost of the matches that they have by themselves.
-/

namespace WordSums

open WordSums.Text

namespace Place

/-- The place after a word has been read. -/
def pass (place : Place) (word : List Char) : Place :=
  word.foldl (fun place char => ⟨some char, place.rest.tail, place.taken + 1, []⟩) place

@[simp] theorem pass_nil (place : Place) : place.pass [] = place := rfl

@[simp] theorem pass_cons (place : Place) (char : Char) (word : List Char) :
    place.pass (char :: word) = Place.pass ⟨some char, place.rest.tail, place.taken + 1, []⟩ word := rfl

@[simp] theorem taken_pass (place : Place) (word : List Char) :
    (place.pass word).taken = place.taken + word.length := by
  induction word generalizing place with
  | nil => rfl
  | cons char word ih =>
    rw [pass_cons, ih, List.length_cons, Nat.add_right_comm]
    rfl

end Place

namespace Pattern

variable (spot : Spot) (next : Place → Option Place) (place : Place)

theorem run_one_cons {set : CharSet} {before : Option Char} {char : Char} {rest : List Char} {taken : Nat}
    {passed : List Spot} :
    (one set).run spot next ⟨before, char :: rest, taken, passed⟩ =
      if set.contains char then next ⟨some char, rest, taken + 1, []⟩ else none := rfl

theorem run_one_nil {set : CharSet} {before : Option Char} {taken : Nat} {passed : List Spot} :
    (one set).run spot next ⟨before, [], taken, passed⟩ = none := rfl

theorem run_single_cons (char : Char) (word : List Char) :
    (inOrder ((char :: word).map fun char => one (.single char))).run spot next place =
      (one (.single char)).run spot
        ((inOrder (word.map fun char => one (.single char))).run (1 :: spot) next) place := by
  cases word with
  | nil => rfl
  | cons head tail => rfl

/-- A word spelt out goes on past the word, if the word is what comes next. -/
theorem run_spelling (word : List Char) :
    (inOrder (word.map fun char => one (.single char))).run spot next place =
      if word <+: place.rest then next (place.pass word) else none := by
  induction word generalizing spot place with
  | nil => simp [inOrder, run]
  | cons char word ih =>
    rw [run_single_cons]
    obtain ⟨before, rest, taken, passed⟩ := place
    cases rest with
    | nil => simp [run_one_nil]
    | cons head tail =>
      rw [run_one_cons]
      by_cases hhead : head = char
      · subst hhead
        rw [if_pos (CharSet.contains_single.2 rfl), ih]
        simp [List.cons_prefix_cons]
      · rw [if_neg (fun hcontains => hhead (CharSet.contains_single.1 hcontains)), if_neg]
        intro hstarts
        exact hhead (List.cons_prefix_cons.1 hstarts).1.symm

theorem matchAt?_spelling (word text : List Char) (before : Option Char) (taken : Nat) :
    (inOrder (word.map fun char => one (.single char))).matchAt? before text taken =
      if word <+: text then some (taken + word.length) else none := by
  rw [matchAt?, run_spelling]
  by_cases hstarts : word <+: text
  · simp [hstarts]
  · simp [hstarts]

/-! ### Greedy runs

At the end of a pattern nothing can go wrong any more, so a greedy run takes every character it may. -/

theorem taken_anyNumber_one (set : CharSet) (bound : Nat) (hbound : place.rest.length ≤ bound)
    (hspot : spot ∉ place.passed) :
    (Matcher.anyNumber ((one set).run [2]) spot true bound some place).map Place.taken =
      some (place.taken + (place.rest.takeWhile set.contains).length) := by
  induction bound generalizing place with
  | zero =>
    have hnil : place.rest = [] := List.length_eq_zero_iff.1 (by omega)
    rw [Matcher.anyNumber, Matcher.prefer, if_pos rfl, Matcher.branch, if_neg hspot, hnil]
    rfl
  | succ bound ih =>
    obtain ⟨before, rest, taken, passed⟩ := place
    rw [Matcher.anyNumber, Matcher.prefer, if_pos rfl, Matcher.branch, if_neg hspot]
    cases rest with
    | nil => rfl
    | cons char rest =>
      simp only [List.length_cons, Nat.add_le_add_iff_right] at hbound
      dsimp only [Place.enter]
      rw [run_one_cons]
      by_cases hcontains : set.contains char = true
      · have hmore := ih ⟨some char, rest, taken + 1, []⟩ hbound List.not_mem_nil
        obtain ⟨reached, hreached, htaken⟩ := Option.map_eq_some_iff.1 hmore
        rw [if_pos hcontains, hreached, List.takeWhile_cons_of_pos hcontains, List.length_cons]
        dsimp only at htaken
        change some reached.taken = _
        rw [htaken, Nat.add_right_comm, Nat.add_assoc]
      · rw [if_neg hcontains, List.takeWhile_cons_of_neg hcontains]
        rfl

/-- One character of a set or more, as many as there are. -/
theorem matchAt?_oneOrMore (set : CharSet) (before : Option Char) (text : List Char) (taken : Nat) :
    (times (one set) 1 none true).matchAt? before text taken =
      if text.takeWhile set.contains = [] then none else some (taken + (text.takeWhile set.contains).length) := by
  change (Matcher.onceOrMore ((one set).run [2]) [] true some ⟨before, text, taken, []⟩).map Place.taken = _
  rw [Matcher.onceOrMore]
  cases text with
  | nil => rfl
  | cons char rest =>
    rw [run_one_cons]
    by_cases hcontains : set.contains char = true
    · rw [if_pos hcontains, taken_anyNumber_one _ _ _ _ (Nat.le_refl _) List.not_mem_nil,
        List.takeWhile_cons_of_pos hcontains, if_neg (List.cons_ne_nil _ _), List.length_cons, Nat.add_right_comm,
        Nat.add_assoc]
    · rw [if_neg hcontains, List.takeWhile_cons_of_neg hcontains]
      rfl

/-! ### Alternatives -/

section Alternatives

variable (before : Option Char) (text : List Char) (taken : Nat)

theorem matchAt?_either (first second : Pattern) :
    (either first second).matchAt? before text taken =
      (first.matchAt? before text taken).or (second.matchAt? before text taken) := by
  have hclear : ∀ turn turns, turns ++ [turn] ∉ [([] : Spot)] := by simp
  rw [← first.taken_run_eq_matchAt? (hclear 0), ← second.taken_run_eq_matchAt? (hclear 1)]
  rw [matchAt?, run, Matcher.branch, if_neg List.not_mem_nil]
  dsimp only [Place.enter]
  cases first.run [0] some ⟨before, text, taken, [[]]⟩ <;> rfl

/-- Of several alternatives the first that matches decides the match. -/
theorem matchAt?_firstOf (patterns : List Pattern) :
    (firstOf patterns).matchAt? before text taken =
      patterns.findSome? fun pattern => pattern.matchAt? before text taken := by
  induction patterns with
  | nil => cases text <;> rfl
  | cons pattern rest ih =>
    cases rest with
    | nil => cases hmatch : pattern.matchAt? before text taken <;> simp [firstOf, hmatch]
    | cons head tail =>
      rw [firstOf, matchAt?_either, List.findSome?_cons, ← ih]
      · cases pattern.matchAt? before text taken <;> rfl
      · simp

theorem matchStart?_firstOf (patterns : List Pattern) :
    (firstOf patterns).matchStart? text = patterns.findSome? fun pattern => pattern.matchStart? text :=
  matchAt?_firstOf none text 0 patterns

/-- Of two patterns the leftmost match is that of the one further left, or of the first. -/
theorem searchFrom?_either (first second : Pattern) :
    (either first second).searchFrom? before text taken =
      Search.prefer (first.searchFrom? before text taken) (second.searchFrom? before text taken) := by
  induction text generalizing before taken with
  | nil =>
    rw [searchFrom?, searchFrom?, searchFrom?, matchAt?_either]
    cases first.matchAt? before [] taken with
    | none => rfl
    | some last => cases second.matchAt? before [] taken <;> simp [Search.prefer]
  | cons char rest ih =>
    rw [searchFrom?, searchFrom?, searchFrom?, matchAt?_either]
    cases hfirst : first.matchAt? before (char :: rest) taken with
    | some last =>
      -- what the second one finds, there or further on, is not further left
      cases hother : second.matchAt? before (char :: rest) taken with
      | some other => simp [Search.prefer]
      | none =>
        dsimp only [Option.or]
        cases hlater : second.searchFrom? (some char) rest (taken + 1) with
        | none => rfl
        | some found =>
          have hbehind := (searchFrom?_bounds hlater).1
          rw [Search.prefer, if_neg (by omega)]
    | none =>
      cases hother : second.matchAt? before (char :: rest) taken with
      | none => exact ih (some char) (taken + 1)
      | some last =>
        dsimp only [Option.or]
        cases hlater : first.searchFrom? (some char) rest (taken + 1) with
        | none => rfl
        | some found =>
          have hbehind := (searchFrom?_bounds hlater).1
          rw [Search.prefer, if_pos (by omega)]

end Alternatives

theorem searchFrom?_firstOf_nil (before : Option Char) (text : List Char) (taken : Nat) :
    (firstOf []).searchFrom? before text taken = none := by
  induction text generalizing before taken with
  | nil => rfl
  | cons char rest ih => exact ih (some char) (taken + 1)

/-- Alternatives are found leftmost first. -/
theorem search?_firstOf (patterns : List Pattern) (text : List Char) :
    (firstOf patterns).search? text = Search.leftmostFirst (patterns.map search) text := by
  induction patterns with
  | nil => exact searchFrom?_firstOf_nil none text 0
  | cons pattern rest ih =>
    have hunion : (firstOf (pattern :: rest)).search? text =
        Search.prefer (pattern.search? text) ((firstOf rest).search? text) := by
      cases rest with
      | nil =>
        rw [ih, firstOf]
        cases pattern.search? text <;> rfl
      | cons head tail => exact searchFrom?_either none text 0 pattern (firstOf (head :: tail))
    rw [hunion, ih]
    rfl

/-- A search finds a match at the start of a text exactly when there is one. -/
theorem matchStart?_search (pattern : Pattern) (text : List Char) :
    pattern.search.matchStart? text = pattern.matchStart? text := by
  have hfind : pattern.search.find? text = pattern.searchFrom? none text 0 := rfl
  rw [Search.matchStart?, hfind, matchStart?]
  cases text with
  | nil =>
    rw [searchFrom?]
    cases pattern.matchAt? none [] 0 <;> rfl
  | cons char rest =>
    rw [searchFrom?]
    cases pattern.matchAt? none (char :: rest) 0 with
    | some last => rfl
    | none =>
      dsimp only
      cases hlater : pattern.searchFrom? (some char) rest 1 with
      | none => rfl
      | some found =>
        obtain ⟨first, last⟩ := found
        have hbehind := (searchFrom?_bounds hlater).1
        obtain ⟨before, rfl⟩ : ∃ before, first = before + 1 := ⟨first - 1, by omega⟩
        rfl

end Pattern

end WordSums
