/-!
# Ranges of code points

A class of characters is given by its code points as a list of closed ranges, lowest first. The
tables of this folder are such lists, and membership is one search through them.
-/

namespace WordSums.Text

/-- A character belongs to a list of closed ranges when one of them holds its code point. -/
def inRanges (ranges : List (Nat × Nat)) (char : Char) : Bool :=
  ranges.any fun range => range.1 ≤ char.toNat && char.toNat ≤ range.2

end WordSums.Text
