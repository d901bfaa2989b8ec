/-!
# Lines

A line feed ends a line. What follows the last one is a line of its own unless it is empty.
-/

namespace WordSums.Text

/-- The lines of a text, without the line feeds. -/
def lines : List Char → List (List Char)
  | [] => []
  | char :: rest =>
    if char = '\n' then [] :: lines rest
    else match lines rest with
      | [] => [[char]]
      | line :: others => (char :: line) :: others

theorem lines_eq_nil_iff {text : List Char} : lines text = [] ↔ text = [] := by
  cases text with
  | nil => simp [lines]
  | cons char rest =>
    rw [lines]
    split
    · simp
    · split <;> simp

/-- Text that ends a line can be read apart from what follows it. -/
theorem lines_lineFeed_append (text rest : List Char) :
    lines (text ++ '\n' :: rest) = lines (text ++ ['\n']) ++ lines rest := by
  induction text with
  | nil => simp [lines]
  | cons char text ih =>
    by_cases hchar : char = '\n'
    · simp [lines, hchar, ih]
    · simp only [List.cons_append, lines, hchar, if_false, ih]
      cases hlines : lines (text ++ ['\n']) with
      | nil => simp [lines_eq_nil_iff] at hlines
      | cons line others => simp

end WordSums.Text
