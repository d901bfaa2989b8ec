/-!
# Texts from their bytes

The bytes of a text, listed one by one, are the UTF-8 form from which the text is made again.
-/

namespace WordSums.Text

theorem toList_loop_eq (bytes : ByteArray) (index : Nat) (taken : List UInt8) :
    ByteArray.toList.loop bytes index taken = taken.reverse ++ bytes.data.toList.drop index := by
  induction index, taken using ByteArray.toList.loop.induct bytes with
  | case1 index taken hlt ih =>
    have hbyte : bytes.get! index = bytes.data.toList[index] := by
      rw [Array.getElem_toList]
      exact getElem!_pos bytes.data index hlt
    rw [ByteArray.toList.loop, if_pos hlt, ih, List.drop_eq_getElem_cons hlt, hbyte]
    simp
  | case2 index taken hge =>
    have hend : bytes.data.toList.length ≤ index := Nat.not_lt.1 hge
    rw [ByteArray.toList.loop, if_neg hge, List.drop_of_length_le hend, List.append_nil]

theorem toList_eq (bytes : ByteArray) : bytes.toList = bytes.data.toList := by
  rw [ByteArray.toList, toList_loop_eq]
  rfl

theorem length_toUTF8 (text : String) : text.toUTF8.toList.length = text.utf8ByteSize := by
  rw [toList_eq, Array.length_toList]
  rfl

theorem fromUTF8?_toUTF8 (text : String) : String.fromUTF8? ⟨text.toUTF8.toList.toArray⟩ = some text := by
  rw [toList_eq, Array.toArray_toList]
  exact dif_pos text.isValidUTF8

end WordSums.Text
