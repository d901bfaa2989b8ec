/-!
# Width in bytes

Limits and offsets count the bytes of the UTF-8 form, so a text's width is the sum of its
characters' widths. Widths add up under concatenation, which is what lets an offset be the width of
the text already read.
-/

namespace WordSums.Text

/-- The number of bytes of a text's UTF-8 form. -/
def width : List Char → Nat
  | [] => 0
  | char :: rest => char.utf8Size + width rest

@[simp] theorem width_nil : width [] = 0 := rfl

@[simp] theorem width_cons (char : Char) (rest : List Char) : width (char :: rest) = char.utf8Size + width rest := rfl

@[simp] theorem width_append (left right : List Char) : width (left ++ right) = width left + width right := by
  induction left with
  | nil => simp
  | cons char rest ih => simp [ih, Nat.add_assoc]

/-- Every character takes at least one byte. -/
theorem length_le_width (text : List Char) : text.length ≤ width text := by
  induction text with
  | nil => simp
  | cons char rest ih =>
    have hpos := char.utf8Size_pos
    simp only [List.length_cons, width_cons]
    omega

/-- Every character takes at most four bytes. -/
theorem width_le (text : List Char) : width text ≤ 4 * text.length := by
  induction text with
  | nil => simp
  | cons char rest ih =>
    have hchar := char.utf8Size_le_four
    simp only [List.length_cons, width_cons]
    omega

/-- The width of a text is the size of its UTF-8 form. -/
theorem utf8ByteSize_ofList (text : List Char) : (String.ofList text).utf8ByteSize = width text := by
  induction text with
  | nil => rfl
  | cons char rest ih =>
    rw [← List.singleton_append, String.ofList_append, String.utf8ByteSize_append, ih, ← String.singleton_eq_ofList,
      String.utf8ByteSize_singleton, List.singleton_append, width_cons]

theorem width_toList (text : String) : width text.toList = text.utf8ByteSize := by
  rw [← utf8ByteSize_ofList, String.ofList_toList]

end WordSums.Text
