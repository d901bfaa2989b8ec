import Mathlib.Data.List.TakeWhile
import Mathlib.Tactic.Common
import WordSums.Token.Recognizer

/-!
# The texts of tokens

Which texts can be a token of each kind, said without patterns: the question word, a run of digits,
one of four phrases, the question mark. Their first characters tell the kinds apart, and within a
kind no text starts another except that digits go on. So at most one token can be taken off the
start of a text once a number has to take all its digits, and the standard recognizers take exactly
that token.
-/

namespace WordSums

open WordSums.Text

namespace TokenKind

/-- The texts that can be a token of a kind. -/
def Legal : TokenKind → List Char → Prop
  | question, text => text = "What is".toList
  | number, text => text ≠ [] ∧ ∀ char ∈ text, char.isDigit = true
  | operand, text => text ∈ ["plus", "minus", "multiplied by", "divided by"].map String.toList
  | punctuation, text => text = "?".toList

/-- The kind whose texts start with a character. -/
def ofInitial? (char : Char) : Option TokenKind :=
  if char.isDigit then some number
  else if char = 'W' then some question
  else if char = 'p' ∨ char = 'm' ∨ char = 'd' then some operand
  else if char = '?' then some punctuation
  else none

theorem Legal.exists_initial {kind : TokenKind} {text : List Char} (hlegal : kind.Legal text) :
    ∃ char rest, text = char :: rest ∧ ofInitial? char = some kind := by
  cases kind with
  | question =>
    subst hlegal
    exact ⟨_, _, rfl, by decide⟩
  | number =>
    obtain ⟨hne, hdigits⟩ := hlegal
    obtain ⟨char, rest, rfl⟩ := List.exists_cons_of_ne_nil hne
    exact ⟨char, rest, rfl, if_pos (hdigits char List.mem_cons_self)⟩
  | operand =>
    simp only [Legal, List.map_cons, List.map_nil, List.mem_cons, List.not_mem_nil, or_false] at hlegal
    obtain rfl | rfl | rfl | rfl := hlegal
    all_goals exact ⟨_, _, rfl, by decide⟩
  | punctuation =>
    subst hlegal
    exact ⟨_, _, rfl, by decide⟩

theorem Legal.ne_nil {kind : TokenKind} {text : List Char} (hlegal : kind.Legal text) : text ≠ [] := by
  obtain ⟨char, rest, rfl, _⟩ := hlegal.exists_initial
  simp

theorem isDigit_iff_ofInitial? {char : Char} : char.isDigit = true ↔ ofInitial? char = some number := by
  unfold ofInitial?
  constructor
  · intro hdigit
    rw [if_pos hdigit]
  · intro hinitial
    by_contra hdigit
    rw [if_neg hdigit] at hinitial
    split_ifs at hinitial <;> cases hinitial

theorem isBlank_of_isDigit {char : Char} (hdigit : char.isDigit = true) : isBlank char = false := by
  have hrange := Char.isDigit_iff_toNat.1 hdigit
  have hzero : '0'.toNat = 48 := rfl
  have hnine : '9'.toNat = 57 := rfl
  simp only [isBlank, Bool.or_eq_false_iff, Bool.and_eq_false_iff, decide_eq_false_iff_not, beq_eq_false_iff_ne]
  omega

/-- No token starts with a blank. -/
theorem isBlank_of_ofInitial? {kind : TokenKind} {char : Char} (hinitial : ofInitial? char = some kind) :
    isBlank char = false := by
  unfold ofInitial? at hinitial
  split_ifs at hinitial with hdigit hupper hlower hmark
  · exact isBlank_of_isDigit hdigit
  · subst hupper
    decide
  · obtain rfl | rfl | rfl := hlower
    all_goals decide
  · subst hmark
    decide

/-- A token's text at the start of a text; a number takes all its digits. -/
def Takes (kind : TokenKind) (taken text : List Char) : Prop :=
  kind.Legal taken ∧ ∃ after, text = taken ++ after ∧ (kind = number → ∀ char ∈ after.head?, char.isDigit = false)

theorem Takes.starts {kind : TokenKind} {taken text : List Char} (htakes : kind.Takes taken text) :
    taken <+: text := by
  obtain ⟨_, after, rfl, _⟩ := htakes
  exact List.prefix_append taken after

theorem Takes.ne_nil {kind : TokenKind} {taken text : List Char} (htakes : kind.Takes taken text) : text ≠ [] := by
  intro hnil
  subst hnil
  exact htakes.1.ne_nil (List.prefix_nil.1 htakes.starts)

theorem Takes.length_pos {kind : TokenKind} {taken text : List Char} (htakes : kind.Takes taken text) :
    0 < taken.length :=
  List.length_pos_iff.2 htakes.1.ne_nil

/-- Of two texts of one kind that start the same text, neither goes on where the other ends, unless
both are numbers. -/
theorem Legal.eq_of_starts {kind : TokenKind} {short long : List Char} (hshort : kind.Legal short)
    (hlong : kind.Legal long) (hstarts : short <+: long) (hkind : kind ≠ number) : short = long := by
  cases kind with
  | question => rw [hshort, hlong]
  | number => exact absurd rfl hkind
  | operand =>
    have hphrases : ∀ one ∈ ["plus", "minus", "multiplied by", "divided by"].map String.toList,
        ∀ other ∈ ["plus", "minus", "multiplied by", "divided by"].map String.toList, one <+: other → one = other := by
      decide
    exact hphrases short hshort long hlong hstarts
  | punctuation => rw [hshort, hlong]

theorem Takes.eq_of_starts {kind : TokenKind} {short long text : List Char} (hshort : kind.Takes short text)
    (hlong : kind.Takes long text) (hstarts : short <+: long) : short = long := by
  by_cases hkind : kind = number
  · subst hkind
    obtain ⟨_, after, rfl, hstop⟩ := hshort
    obtain ⟨⟨_, hdigits⟩, rest, hsame, _⟩ := hlong
    obtain ⟨more, rfl⟩ := hstarts
    rw [List.append_assoc, List.append_cancel_left_eq] at hsame
    cases more with
    | nil => simp
    | cons char more =>
      have hdigit := hdigits char (by simp)
      have hstopped := hstop rfl char (by simp [hsame])
      rw [hdigit] at hstopped
      contradiction
  · exact hshort.1.eq_of_starts hlong.1 hstarts hkind

/-- At most one token can be taken off the start of a text. -/
theorem Takes.unique {left right : TokenKind} {leftTaken rightTaken text : List Char}
    (hleft : left.Takes leftTaken text) (hright : right.Takes rightTaken text) :
    left = right ∧ leftTaken = rightTaken := by
  have hkind : left = right := by
    obtain ⟨char, rest, rfl, hinitial⟩ := hleft.1.exists_initial
    obtain ⟨other, others, rfl, hother⟩ := hright.1.exists_initial
    obtain ⟨_, after, rfl, _⟩ := hleft
    obtain ⟨_, after', hsame, _⟩ := hright
    obtain ⟨rfl, _⟩ := List.cons.inj hsame
    exact Option.some.inj (hinitial.symm.trans hother)
  subst hkind
  refine ⟨rfl, ?_⟩
  obtain hstarts | hstarts := List.prefix_or_prefix_of_prefix hleft.starts hright.starts
  · exact hleft.eq_of_starts hright hstarts
  · exact (hright.eq_of_starts hleft hstarts).symm

/-- Where the text of a token stands, a token can be taken. -/
theorem Legal.exists_takes {kind : TokenKind} {taken text : List Char} (hlegal : kind.Legal taken)
    (hstarts : taken <+: text) : ∃ all, kind.Takes all text := by
  obtain ⟨after, rfl⟩ := hstarts
  by_cases hkind : kind = number
  · subst hkind
    refine ⟨taken ++ after.takeWhile Char.isDigit, ⟨by simp [hlegal.1], ?_⟩, after.dropWhile Char.isDigit, ?_, ?_⟩
    · intro char hmem
      obtain hmem | hmem := List.mem_append.1 hmem
      · exact hlegal.2 char hmem
      · exact List.mem_takeWhile_imp hmem
    · rw [List.append_assoc, List.takeWhile_append_dropWhile]
    · intro _ char hmem
      have hstop := List.head?_dropWhile_not Char.isDigit after
      rw [Option.mem_def.1 hmem] at hstop
      simpa using hstop
  · exact ⟨taken, hlegal, after, rfl, fun h => absurd h hkind⟩

end TokenKind

end WordSums
