import WordSums.Proofs.Pattern.Matching
import WordSums.Proofs.Token.Legal

/-!
# The standard recognizers

Each standard pattern is anchored at the start of the text, so its preferred match there is read off
from the text alone: a word if the text starts with it, the first of the phrases that it starts
with, the digits at its start. That is the one token that can be taken off the start of the text,
and neither the recognizers one by one nor their patterns together take anything else. In
particular they never overlap.
-/

namespace WordSums

open WordSums.Text

namespace Pattern

/-- At the start of a text an anchor there asks nothing. -/
theorem matchStart?_anchored (patterns : List Pattern) (text : List Char) :
    (inOrder (anchor .textStart :: patterns)).matchStart? text = (inOrder patterns).matchStart? text := by
  cases patterns with
  | nil => rfl
  | cons pattern rest => exact (inOrder (pattern :: rest)).taken_run_eq_matchAt? fun _ => List.not_mem_nil

theorem matchStart?_spelling (word text : List Char) :
    (inOrder (word.map fun char => one (.single char))).matchStart? text =
      if word <+: text then some word.length else none := by
  rw [matchStart?, matchAt?_spelling, Nat.zero_add]

end Pattern

theorem CharSet.contains_digits (char : Char) :
    (CharSet.union .nothing (.range '0' '9')).contains char = char.isDigit := by
  rw [Bool.eq_iff_iff, Char.isDigit_iff_toNat]
  simp [CharSet.contains]

/-! ### The preferred match of each standard pattern -/

namespace RecognizerSet

variable (text : List Char)

theorem matchStart?_question :
    (standardSource .question).matchStart? text =
      if "What is".toList <+: text then some "What is".toList.length else none := by
  rw [standardSource, Pattern.matchStart?_anchored, Pattern.matchStart?_spelling]

theorem matchStart?_number :
    (standardSource .number).matchStart? text =
      if text.takeWhile Char.isDigit = [] then none else some (text.takeWhile Char.isDigit).length := by
  rw [standardSource, Pattern.matchStart?_anchored, Pattern.inOrder, Pattern.matchStart?,
    Pattern.matchAt?_oneOrMore, funext CharSet.contains_digits, Nat.zero_add]

theorem matchStart?_operand :
    (standardSource .operand).matchStart? text =
      ["plus", "minus", "multiplied by", "divided by"].findSome? fun phrase =>
        if phrase.toList <+: text then some phrase.toList.length else none := by
  rw [standardSource, Pattern.matchStart?_anchored, Pattern.inOrder, Pattern.matchStart?_firstOf, List.findSome?_map]
  exact congrArg (List.findSome? · _) (funext fun phrase => Pattern.matchStart?_spelling phrase.toList text)

theorem matchStart?_punctuation :
    (standardSource .punctuation).matchStart? text =
      if "?".toList <+: text then some "?".toList.length else none := by
  rw [← Pattern.matchStart?_spelling, ← Pattern.matchStart?_anchored]
  rfl

end RecognizerSet

namespace TokenKind

open RecognizerSet

theorem takes_iff_of_ne_number {kind : TokenKind} {taken text : List Char} (hkind : kind ≠ number) :
    kind.Takes taken text ↔ kind.Legal taken ∧ taken <+: text := by
  constructor
  · intro htakes
    exact ⟨htakes.1, htakes.starts⟩
  · rintro ⟨hlegal, after, rfl⟩
    exact ⟨hlegal, after, rfl, fun h => absurd h hkind⟩

theorem takes_number_takeWhile {text : List Char} (hdigits : text.takeWhile Char.isDigit ≠ []) :
    number.Takes (text.takeWhile Char.isDigit) text := by
  refine ⟨⟨hdigits, fun char hmem => List.mem_takeWhile_imp hmem⟩, text.dropWhile Char.isDigit, ?_, ?_⟩
  · rw [List.takeWhile_append_dropWhile]
  · intro _ char hmem
    have hstop := List.head?_dropWhile_not Char.isDigit text
    rw [Option.mem_def.1 hmem] at hstop
    simpa using hstop

/-- The standard pattern of a kind matches at the start of a text only what the kind takes there. -/
theorem exists_takes_of_matchStart? {kind : TokenKind} {text : List Char} {count : Nat}
    (hmatch : (standardSource kind).matchStart? text = some count) :
    ∃ taken, kind.Takes taken text ∧ taken.length = count := by
  cases kind with
  | question =>
    rw [matchStart?_question, Option.ite_none_right_eq_some] at hmatch
    exact ⟨_, (takes_iff_of_ne_number (by decide)).2 ⟨rfl, hmatch.1⟩, Option.some.inj hmatch.2⟩
  | number =>
    rw [matchStart?_number, Option.ite_none_left_eq_some] at hmatch
    exact ⟨_, takes_number_takeWhile hmatch.1, Option.some.inj hmatch.2⟩
  | operand =>
    rw [matchStart?_operand] at hmatch
    obtain ⟨phrase, hphrase, hmatch⟩ := List.exists_of_findSome?_eq_some hmatch
    rw [Option.ite_none_right_eq_some] at hmatch
    exact ⟨_, (takes_iff_of_ne_number (by decide)).2 ⟨List.mem_map_of_mem hphrase, hmatch.1⟩, Option.some.inj hmatch.2⟩
  | punctuation =>
    rw [matchStart?_punctuation, Option.ite_none_right_eq_some] at hmatch
    exact ⟨_, (takes_iff_of_ne_number (by decide)).2 ⟨rfl, hmatch.1⟩, Option.some.inj hmatch.2⟩

theorem Takes.isSome_matchStart? {kind : TokenKind} {taken text : List Char} (htakes : kind.Takes taken text) :
    ((standardSource kind).matchStart? text).isSome := by
  cases kind with
  | question =>
    rw [matchStart?_question, if_pos (htakes.1 ▸ htakes.starts)]
    rfl
  | number =>
    obtain ⟨⟨hne, hdigits⟩, after, rfl, _⟩ := htakes
    rw [matchStart?_number, List.takeWhile_append_of_pos hdigits, if_neg (by simp [hne])]
    rfl
  | operand =>
    rw [matchStart?_operand, List.findSome?_isSome_iff]
    obtain ⟨phrase, hphrase, hsame⟩ := List.mem_map.1 htakes.1
    exact ⟨phrase, hphrase, by rw [if_pos (hsame ▸ htakes.starts)]; rfl⟩
  | punctuation =>
    rw [matchStart?_punctuation, if_pos (htakes.1 ▸ htakes.starts)]
    rfl

/-- What a kind takes at the start of a text, its standard pattern matches. -/
theorem Takes.matchStart? {kind : TokenKind} {taken text : List Char} (htakes : kind.Takes taken text) :
    (standardSource kind).matchStart? text = some taken.length := by
  obtain ⟨count, hmatch⟩ := Option.isSome_iff_exists.1 htakes.isSome_matchStart?
  obtain ⟨other, hother, rfl⟩ := exists_takes_of_matchStart? hmatch
  rw [hmatch, (htakes.unique hother).2]

/-! ### What the recognizers take -/

@[simp] theorem kind_standardRecognizer (kind : TokenKind) : (standardRecognizer kind).kind = kind := rfl

/-- The standard recognizer of a kind takes what the kind takes. -/
theorem take?_standard_eq_some_iff {kind : TokenKind} {text taken : List Char} :
    (standardRecognizer kind).take? text = some taken ↔ kind.Takes taken text := by
  rw [Recognizer.take?, Search.takes?, standardRecognizer, Pattern.matchStart?_search]
  constructor
  · intro htake
    obtain ⟨count, hcount, rfl⟩ := Option.map_eq_some_iff.1 htake
    obtain ⟨found, hfound, rfl⟩ := exists_takes_of_matchStart? (Option.filter_eq_some_iff.1 hcount).1
    rwa [List.prefix_iff_eq_take.1 hfound.starts] at hfound
  · intro htakes
    rw [htakes.matchStart?, Option.filter_some_pos (by simpa using htakes.length_pos), Option.map_some,
      ← List.prefix_iff_eq_take.1 htakes.starts]

end TokenKind

namespace RecognizerSet

open TokenKind

/-- The standard recognizers take the one token that stands at the start of a text. -/
theorem recognize_standard_of_takes {kind : TokenKind} {taken text : List Char} (htakes : kind.Takes taken text) :
    standard.recognize text = .ok (some (kind, taken)) := by
  have hself : (standardRecognizer kind).take? text = some taken :=
    take?_standard_eq_some_iff.2 htakes
  have hothers : ∀ other, other ≠ kind → (standardRecognizer other).take? text = none := by
    intro other hne
    rw [Option.eq_none_iff_forall_ne_some]
    intro found hfound
    exact hne (Takes.unique (take?_standard_eq_some_iff.1 hfound) htakes).1
  cases kind <;> simp [recognize, standard, TokenKind.all, recognizeWith, hself, hothers]

/-- The standard patterns together match where a token stands, and nowhere else. -/
theorem matchesStart_standard_iff {text : List Char} :
    standard.matchesStart text = true ↔ ∃ kind taken, TokenKind.Takes kind taken text := by
  rw [matchesStart, Search.takes?, standard, Pattern.matchStart?_search, Pattern.matchStart?_firstOf,
    List.findSome?_map]
  constructor
  · intro hsome
    obtain ⟨count, hcount⟩ := Option.isSome_iff_exists.1 hsome
    obtain ⟨kind, _, hmatch⟩ := List.exists_of_findSome?_eq_some (Option.filter_eq_some_iff.1 hcount).1
    obtain ⟨taken, htakes, _⟩ := exists_takes_of_matchStart? hmatch
    exact ⟨kind, taken, htakes⟩
  · rintro ⟨kind, taken, htakes⟩
    have hsome : (TokenKind.all.findSome? fun kind => (standardSource kind).matchStart? text).isSome :=
      List.findSome?_isSome_iff.2 ⟨kind, kind.mem_all, htakes.isSome_matchStart?⟩
    obtain ⟨count, hfirst⟩ := Option.isSome_iff_exists.1 hsome
    obtain ⟨other, _, hmatch⟩ := List.exists_of_findSome?_eq_some hfirst
    obtain ⟨found, hfound, rfl⟩ := exists_takes_of_matchStart? hmatch
    rw [Function.comp_def, hfirst, Option.filter_some_pos (by simpa using hfound.length_pos)]
    rfl

end RecognizerSet

end WordSums
