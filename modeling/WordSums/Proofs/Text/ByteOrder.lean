import Mathlib.Tactic.SplitIfs
import Mathlib.Algebra.Group.Nat.Defs

/-!
# The order of texts and the order of their bytes

Texts are compared by their characters, and written in UTF-8 by their bytes. Both comparisons agree: the
first byte of a character tells how many follow and grows with the character, the others are the digits of
its number in base 64, and so the first byte in which two characters differ decides as the characters do.
-/

namespace WordSums.Text

/-- The last digits of a number in base 64, the highest first, as the bytes that follow a leading one. -/
def followingBytes : Nat → Nat → List UInt8
  | 0, _ => []
  | count + 1, code => UInt8.ofNat (code / 64 ^ count % 64 + 128) :: followingBytes count code

def followingCount (code : Nat) : Nat :=
  if code ≤ 0x7f then 0 else if code ≤ 0x7ff then 1 else if code ≤ 0xffff then 2 else 3

def leadingByte (code : Nat) : Nat :=
  if code ≤ 0x7f then code
  else if code ≤ 0x7ff then code / 64 + 192
  else if code ≤ 0xffff then code / 4096 + 224
  else code / 262144 + 240

theorem char_toNat_lt (char : Char) : char.toNat < 0x110000 := by
  have hvalid := char.valid
  simp only [UInt32.isValidChar, Nat.isValidChar] at hvalid
  change char.val.toNat < _
  omega

theorem utf8EncodeChar_eq (char : Char) :
    String.utf8EncodeChar char =
      UInt8.ofNat (leadingByte char.toNat) :: followingBytes (followingCount char.toNat) char.toNat := by
  have hvalid : char.val.toNat < 0x110000 := char_toNat_lt char
  unfold String.utf8EncodeChar leadingByte followingCount Char.toNat
  dsimp only
  split_ifs with hone htwo hthree
  · rfl
  · rw [Nat.mod_eq_of_lt (by omega)]
    simp [followingBytes]
  · rw [Nat.mod_eq_of_lt (by omega)]
    simp [followingBytes]
  · rw [Nat.mod_eq_of_lt (by omega)]
    simp [followingBytes]

theorem ofNat_cons_lt {first second : Nat} (hlt : first < second) (hbound : second < 256) (left right : List UInt8) :
    UInt8.ofNat first :: left < UInt8.ofNat second :: right := by
  rw [List.cons_lt_cons_iff, UInt8.lt_iff_toNat_lt, UInt8.toNat_ofNat', UInt8.toNat_ofNat',
    Nat.mod_eq_of_lt (by omega), Nat.mod_eq_of_lt (by omega)]
  exact .inl hlt

theorem cons_lt_cons_of_lt (byte : UInt8) {left right : List UInt8} (hlt : left < right) :
    byte :: left < byte :: right :=
  List.cons_lt_cons_iff.2 (.inr ⟨rfl, hlt⟩)

/-- Of two numbers the one with the smaller last digits has the smaller bytes for them. -/
theorem followingBytes_append_lt {count first second : Nat} (hlt : first % 64 ^ count < second % 64 ^ count)
    (left right : List UInt8) : followingBytes count first ++ left < followingBytes count second ++ right := by
  induction count with
  | zero =>
    rw [Nat.pow_zero, Nat.mod_one, Nat.mod_one] at hlt
    omega
  | succ count ih =>
    rw [Nat.mod_pow_succ, Nat.mod_pow_succ] at hlt
    have hpos : 0 < 64 ^ count := Nat.pow_pos (by omega)
    have hfirst : first % 64 ^ count < 64 ^ count := Nat.mod_lt _ hpos
    have hsecond : second % 64 ^ count < 64 ^ count := Nat.mod_lt _ hpos
    have hbound : second / 64 ^ count % 64 < 64 := Nat.mod_lt _ (by omega)
    rcases Nat.lt_trichotomy (first / 64 ^ count % 64) (second / 64 ^ count % 64) with hdigit | hdigit | hdigit
    · exact ofNat_cons_lt (by omega) (by omega) _ _
    · rw [hdigit] at hlt
      rw [followingBytes, followingBytes, hdigit]
      exact cons_lt_cons_of_lt _ (ih (by omega))
    · have hmore := Nat.mul_le_mul_left (64 ^ count) (Nat.succ_le_of_lt hdigit)
      rw [Nat.mul_succ] at hmore
      omega

/-- Of two characters the smaller one has the smaller bytes, whatever follows them. -/
theorem utf8EncodeChar_append_lt {first second : Char} (hlt : first < second) (left right : List UInt8) :
    String.utf8EncodeChar first ++ left < String.utf8EncodeChar second ++ right := by
  have hcode : first.toNat < second.toNat := hlt
  have hbound := char_toNat_lt second
  rw [utf8EncodeChar_eq, utf8EncodeChar_eq, List.cons_append, List.cons_append]
  have hlead : leadingByte first.toNat < leadingByte second.toNat ∧ leadingByte second.toNat < 256 ∨
      leadingByte first.toNat = leadingByte second.toNat ∧ followingCount first.toNat = followingCount second.toNat ∧
        first.toNat % 64 ^ followingCount second.toNat < second.toNat % 64 ^ followingCount second.toNat := by
    unfold leadingByte followingCount
    split_ifs <;> omega
  rcases hlead with ⟨hsmaller, hbyte⟩ | ⟨hsame, hcount, hdigits⟩
  · exact ofNat_cons_lt hsmaller hbyte _ _
  · rw [hsame, hcount]
    exact cons_lt_cons_of_lt _ (followingBytes_append_lt hdigits left right)

def bytes (text : String) : List UInt8 :=
  text.toUTF8.data.toList

theorem bytes_eq_flatMap (text : String) : bytes text = text.toList.flatMap String.utf8EncodeChar := by
  rw [bytes, String.toUTF8, ← String.utf8Encode_toList, List.utf8Encode, List.data_toByteArray]

theorem flatMap_utf8EncodeChar_lt {left right : List Char} (hlt : left < right) :
    left.flatMap String.utf8EncodeChar < right.flatMap String.utf8EncodeChar := by
  induction left generalizing right with
  | nil =>
    cases right with
    | nil => exact absurd hlt (List.not_lt_nil [])
    | cons char right =>
      rw [List.flatMap_cons, utf8EncodeChar_eq]
      exact List.nil_lt_cons _ _
  | cons first left ih =>
    cases right with
    | nil => exact absurd hlt (List.not_lt_nil _)
    | cons second right =>
      rw [List.flatMap_cons, List.flatMap_cons]
      rcases List.cons_lt_cons_iff.1 hlt with hfirst | ⟨rfl, hrest⟩
      · exact utf8EncodeChar_append_lt hfirst _ _
      · exact List.append_left_lt (ih hrest)

/-- The smaller of two texts has the smaller bytes. -/
theorem bytes_lt_bytes {left right : String} (hlt : left < right) : bytes left < bytes right := by
  rw [bytes_eq_flatMap, bytes_eq_flatMap]
  exact flatMap_utf8EncodeChar_lt hlt

end WordSums.Text
