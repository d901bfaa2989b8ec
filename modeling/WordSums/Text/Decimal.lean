/-!
# Decimal numerals

Numbers are written in base ten with ASCII digits and no leading zeros, and read with leading zeros
allowed. A signed numeral may carry one sign. The value of a numeral is unbounded; whether it fits a
machine word is asked separately, by `fitsWord`.
-/

namespace WordSums.Text

/-- The decimal digits of a number, most significant first. -/
def decimal (number : Nat) : List Char :=
  Nat.toDigits 10 number

/-- The digits of a number with zeros in front up to the given count. -/
def paddedDecimal (count : Nat) (number : Nat) : List Char :=
  List.replicate (count - (decimal number).length) '0' ++ decimal number

def digitValue (digit : Char) : Nat :=
  digit.toNat - '0'.toNat

/-- The number that a run of digits stands for, read after a number already begun. -/
def digitsValue (begun : Nat) (digits : List Char) : Nat :=
  digits.foldl (fun value digit => 10 * value + digitValue digit) begun

/-- Reads a non-empty text of digits. -/
def readNatural? (text : List Char) : Option Nat :=
  if text ≠ [] ∧ text.all Char.isDigit then some (digitsValue 0 text) else none

/-- Reads digits after at most one sign. -/
def readInteger? : List Char → Option Int
  | '+' :: digits => (readNatural? digits).map fun number => (number : Int)
  | '-' :: digits => (readNatural? digits).map fun number => -(number : Int)
  | digits => (readNatural? digits).map fun number => (number : Int)

def leastWord : Int := -9223372036854775808

def greatestWord : Int := 9223372036854775807

/-- A number fits a signed 64-bit word when it lies in the word's range. -/
abbrev fitsWord (number : Int) : Prop := leastWord ≤ number ∧ number ≤ greatestWord

/-- Reads a signed numeral whose value fits a signed 64-bit word. -/
def readWord? (text : List Char) : Option Int :=
  (readInteger? text).filter fun number => fitsWord number

end WordSums.Text
