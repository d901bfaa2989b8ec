import WordSums.Json.Reader
import WordSums.Json.Writer
import Mathlib.Tactic.Common

/-!
# Strings that are read back

Each character of a string is written either as itself or as an escape that stands for it, and no escape
begins with a quote. So the characters are read back one after the other, and the first quote that is not
part of an escape is the one that closes the string.
-/

namespace WordSums.Json

open WordSums.Text

theorem hexValue?_digitChar {digit : Nat} (hdigit : digit < 16) : hexValue? (Nat.digitChar digit) = some digit := by
  have hall : ∀ digit < 16, hexValue? (Nat.digitChar digit) = some digit := by decide
  exact hall digit hdigit

theorem hexValue?_high (byte : UInt8) : hexValue? (Nat.digitChar (byte.toNat / 16)) = some (byte.toNat / 16) :=
  hexValue?_digitChar (by have hbyte := byte.toNat_lt; omega)

theorem hexValue?_low (byte : UInt8) : hexValue? (Nat.digitChar (byte.toNat % 16)) = some (byte.toNat % 16) :=
  hexValue?_digitChar (Nat.mod_lt _ (by decide))

/-- Four digits of which the last two are those of a byte. -/
theorem codeUnit_byteDigits (byte : UInt8) (rest : List Char) :
    codeUnit ('0' :: '0' :: (byteDigits byte ++ rest)) = .ok (byte.toNat, rest) := by
  have htake : ('0' :: '0' :: (byteDigits byte ++ rest)).take 4 = '0' :: '0' :: byteDigits byte := rfl
  have hwide : ¬ width ('0' :: '0' :: byteDigits byte) < 4 := by
    have hlength := length_le_width ('0' :: '0' :: byteDigits byte)
    simp only [byteDigits, List.length_cons, List.length_nil] at hlength ⊢
    omega
  have hzero : hexValue? '0' = some 0 := by decide
  have hnumber : hexNumber? ('0' :: '0' :: byteDigits byte) = some byte.toNat := by
    have hwhole : 16 * (byte.toNat / 16) + byte.toNat % 16 = byte.toNat := by omega
    simp [hexNumber?, byteDigits, List.mapM_cons, hzero, hexValue?_high, hexValue?_low, hwhole]
  rw [codeUnit, htake, if_neg hwide, hnumber]
  rfl

theorem escape_control {char : Char} (hcontrol : char.toNat < 0x20) (rest : List Char) :
    escape ('u' :: '0' :: '0' :: (byteDigits (UInt8.ofNat char.toNat) ++ rest)) = .ok (char, rest) := by
  have hbyte : (UInt8.ofNat char.toNat).toNat = char.toNat :=
    UInt8.toNat_ofNat_of_lt (Nat.lt_trans hcontrol (by decide))
  have htrailing : isTrailing char.toNat = false := by
    rw [isTrailing, Bool.and_eq_false_iff]
    exact .inl (decide_eq_false (by omega))
  have hleading : isLeading char.toNat = false := by
    rw [isLeading, Bool.and_eq_false_iff]
    exact .inl (decide_eq_false (by omega))
  change unicodeEscape _ = _
  unfold unicodeEscape
  rw [codeUnit_byteDigits, hbyte]
  simp [bind, Except.bind, htrailing, hleading]

/-- A character in its written form is taken off as itself. -/
theorem stringBody_escapedChar (bound : Nat) (char : Char) (rest : List Char) :
    stringBody (bound + 1) (escapedChar char ++ rest) = (do
      let (others, rest) ← stringBody bound rest
      .ok (char :: others, rest)) := by
  have hescape {mark meant : Char} {after : List Char} (hmeant : escape (mark :: after) = .ok (meant, rest)) :
      stringBody (bound + 1) ('\\' :: mark :: after) = (do
        let (others, rest) ← stringBody bound rest
        .ok (meant :: others, rest)) := by
    rw [stringBody, if_neg (by decide), if_pos rfl, hmeant]
    rfl
  unfold escapedChar
  split_ifs with hquote hbackslash hbackspace hfeed hline hreturn htab hcontrol
  · subst hquote
    exact hescape rfl
  · subst hbackslash
    exact hescape rfl
  · exact hbackspace ▸ hescape rfl
  · exact hfeed ▸ hescape rfl
  · exact hline ▸ hescape rfl
  · exact hreturn ▸ hescape rfl
  · exact htab ▸ hescape rfl
  · exact hescape (escape_control hcontrol rest)
  · rw [List.singleton_append, stringBody, if_neg hquote, if_neg hbackslash, if_neg hcontrol]

theorem stringBody_flatMap_escapedChar {bound : Nat} {text : List Char} (hbound : text.length < bound)
    (rest : List Char) : stringBody bound (text.flatMap escapedChar ++ '"' :: rest) = .ok (text, rest) := by
  induction text generalizing bound with
  | nil =>
    obtain ⟨fewer, rfl⟩ := Nat.exists_eq_succ_of_ne_zero (Nat.ne_of_gt hbound)
    rw [List.flatMap_nil, List.nil_append, stringBody, if_pos rfl]
  | cons char text ih =>
    obtain ⟨fewer, rfl⟩ := Nat.exists_eq_succ_of_ne_zero (Nat.ne_zero_of_lt hbound)
    have hfewer : text.length < fewer := Nat.lt_of_succ_lt_succ hbound
    rw [List.flatMap_cons, List.append_assoc, stringBody_escapedChar, ih hfewer]
    rfl

theorem length_le_flatMap_escapedChar (text : List Char) : text.length ≤ (text.flatMap escapedChar).length := by
  induction text with
  | nil => simp
  | cons char text ih =>
    have hone : 1 ≤ (escapedChar char).length := by
      unfold escapedChar
      repeat' split
      all_goals exact Nat.le_add_left 1 _
    rw [List.flatMap_cons, List.length_append, List.length_cons]
    omega

/-- A written string is read back up to its closing quote. -/
theorem quotedRest_written (text rest : List Char) :
    quotedRest (text.flatMap escapedChar ++ '"' :: rest) = .ok (text, rest) := by
  have hlength := length_le_flatMap_escapedChar text
  refine stringBody_flatMap_escapedChar ?_ rest
  rw [List.length_append, List.length_cons]
  omega

end WordSums.Json
