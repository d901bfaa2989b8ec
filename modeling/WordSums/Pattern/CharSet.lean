import WordSums.Text.Blank
import WordSums.Text.CaseFold
import WordSums.Text.WordCharacter

/-!
# Sets of characters

The sets that a pattern can ask one character to be in. They are built from ranges and the three
named classes by union, intersection and complement; a caseless set holds every character that
equals one of its members but for case.
-/

namespace WordSums

open WordSums.Text

inductive CharSet where
  | nothing
  | range (low high : Char)
  | digit
  | blank
  | word
  | union (left right : CharSet)
  | inter (left right : CharSet)
  | compl (set : CharSet)
  | caseless (set : CharSet)
deriving DecidableEq, Repr

namespace CharSet

def contains : CharSet → Char → Bool
  | nothing, _ => false
  | range low high, char => low.toNat ≤ char.toNat && char.toNat ≤ high.toNat
  | digit, char => isDecimalDigit char
  | blank, char => isBlank char
  | word, char => isWordCharacter char
  | union left right, char => left.contains char || right.contains char
  | inter left right, char => left.contains char && right.contains char
  | compl set, char => !set.contains char
  | caseless set, char => (caseVariants char).any set.contains

def single (char : Char) : CharSet := range char char

/-- The characters of the first set that are not in the second. -/
def diff (left right : CharSet) : CharSet := inter left (compl right)

def symmDiff (left right : CharSet) : CharSet := union (diff left right) (diff right left)

def anyButNewline : CharSet := compl (single '\n')

def anything : CharSet := compl nothing

theorem contains_single {char other : Char} : (single char).contains other = true ↔ other = char := by
  simp only [single, contains, Bool.and_eq_true, decide_eq_true_eq]
  constructor
  · intro hboth
    exact Char.toNat_inj.1 (Nat.le_antisymm hboth.2 hboth.1)
  · rintro rfl
    exact ⟨Nat.le_refl _, Nat.le_refl _⟩

end CharSet

end WordSums
