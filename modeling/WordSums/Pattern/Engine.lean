/-!
# Engines

What is asked of regular expressions. A pattern is compiled from its written form or refused, and what was
compiled searches texts for a match; a match is a stretch of the text that was searched. Who compiles and who
searches is left open, and so is what patterns there are: a recognizer works with any engine.

An engine is expected to search leftmost first. The match it prefers begins at the leftmost place from which
there is one, and alternatives that match from the same place are preferred in their order. Patterns that are
written as one, with bars between groups, are then found where the leftmost of them is found by itself. A
pattern that ends in a remark has to be left out of this, for it is not read as one of the groups: the
parenthesis behind it belongs to the remark.
-/

namespace WordSums

/-- A search for a match. What it finds is given by the number of characters before it and before its end. -/
structure Search where
  find? : List Char → Option (Nat × Nat)
  within : ∀ text first last, find? text = some (first, last) → first ≤ last ∧ last ≤ text.length

namespace Search

/-- How many characters the match takes, if it begins where the text does. -/
def matchStart? (search : Search) (text : List Char) : Option Nat :=
  match search.find? text with
  | some (0, last) => some last
  | _ => none

/-- How many characters the match takes, if it begins where the text does and is not empty. -/
def takes? (search : Search) (text : List Char) : Option Nat :=
  (search.matchStart? text).filter (0 < ·)

/-- Of two matches the one further left, and the first one if they begin at the same place. -/
def prefer : Option (Nat × Nat) → Option (Nat × Nat) → Option (Nat × Nat)
  | none, other => other
  | some found, none => some found
  | some found, some other => if other.1 < found.1 then some other else some found

/-- The leftmost of the matches that several searches find, and the first of those if there are more. -/
def leftmostFirst (searches : List Search) (text : List Char) : Option (Nat × Nat) :=
  searches.foldr (fun search others => prefer (search.find? text) others) none

end Search

structure Engine where
  compile? : String → Option Search

namespace Engine

/-- Patterns written as one, each in a group of its own with bars between the groups. -/
def writtenAsOne (patterns : List String) : String :=
  String.intercalate "|" (patterns.map fun pattern => "(?:" ++ pattern ++ ")")

/-- Whether a pattern ends in a remark, so that a parenthesis may follow. -/
def endsInRemark (engine : Engine) (pattern : String) : Bool :=
  (engine.compile? (pattern ++ ")")).isSome

/-- The patterns are found leftmost first when they are written as one. -/
def LeftmostFirst (engine : Engine) (patterns : List String) : Prop :=
  ∀ searches together, patterns.map engine.compile? = searches.map some →
    (∀ pattern ∈ patterns, engine.endsInRemark pattern = false) →
    engine.compile? (writtenAsOne patterns) = some together →
    ∀ text, together.find? text = Search.leftmostFirst searches text

end Engine

end WordSums
