import WordSums.Text.Lines

/-!
# Lines of texts put together

A text that closes its last line can be read apart from what follows it. So where every piece of a text is closed
by a line feed, the lines of the text are those of its pieces, one for each piece and one more for each line feed
within.
-/

namespace WordSums.Text

/-- The text is empty or ends in a line feed. -/
def ClosesLines (text : List Char) : Prop :=
  ∀ char ∈ text.getLast?, char = '\n'

instance (text : List Char) : Decidable (ClosesLines text) :=
  Option.decidableForallMem text.getLast?

theorem lines_append {text : List Char} (hcloses : ClosesLines text) (rest : List Char) :
    lines (text ++ rest) = lines text ++ lines rest := by
  obtain rfl | ⟨text, last, rfl⟩ := List.eq_nil_or_concat text
  · rfl
  · rw [List.concat_eq_append] at hcloses ⊢
    obtain rfl : last = '\n' := hcloses last List.getLast?_concat
    rw [List.append_assoc, List.singleton_append, lines_lineFeed_append]

theorem lines_flatMap_lineFeed {α : Type} (write : α → List Char) (items : List α) :
    lines (items.flatMap fun item => write item ++ ['\n']) =
      items.flatMap fun item => lines (write item ++ ['\n']) := by
  induction items with
  | nil => rfl
  | cons item items ih =>
    rw [List.flatMap_cons, List.append_assoc, List.singleton_append, lines_lineFeed_append, ih, List.flatMap_cons]

theorem length_lines_lineFeed (text : List Char) : (lines (text ++ ['\n'])).length = text.count '\n' + 1 := by
  induction text with
  | nil => rfl
  | cons char text ih =>
    by_cases hchar : char = '\n'
    · rw [List.cons_append, lines, if_pos hchar, List.length_cons, ih, hchar, List.count_cons_self]
    · rw [List.cons_append, lines, if_neg hchar, List.count_cons_of_ne hchar, ← ih]
      cases hlines : lines (text ++ ['\n']) with
      | nil => simp [lines_eq_nil_iff] at hlines
      | cons line others => rfl

theorem lines_lineFeed_of_notMem {text : List Char} (hmem : '\n' ∉ text) : lines (text ++ ['\n']) = [text] := by
  induction text with
  | nil => rfl
  | cons char text ih =>
    rw [List.mem_cons, not_or] at hmem
    rw [List.cons_append, lines, if_neg (Ne.symm hmem.1), ih hmem.2]

end WordSums.Text
