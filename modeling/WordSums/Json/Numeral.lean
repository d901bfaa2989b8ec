import WordSums.Text.Decimal

/-!
# Numbers in JSON

A number is kept as an integer when it is written as one and fits 64 bits, and otherwise only as
some other number. It must still be one that a double can hold: the digits that fit 64 bits are
rounded to a double and scaled by a rounded power of ten, and if that overflows, the number is
malformed. Minus zero is no integer.
-/

namespace WordSums.Json

open WordSums.Text

/-- Why a text could not be read: it ends too early, it is no JSON, or it is JSON of another shape.
-/
inductive Flaw where
  | ended
  | malformed
  | mismatched
deriving DecidableEq, Repr

/-- Reads something off the start of a text and leaves the rest. -/
abbrev Reader (α : Type) : Type := List Char → Except Flaw (α × List Char)

/-- A number as far as it is kept. -/
inductive Numeral where
  | natural (number : Nat)
  | negative (number : Int)
  | other
deriving DecidableEq, Repr

namespace Numeral

def greatestUnsigned : Nat := 18446744073709551615

/-- A number rounded to 53 significant bits, a tie going to the even neighbour. -/
def roundToDouble (number : Nat) : Nat :=
  if number < Nat.pow 2 53 then number
  else
    let unit := Nat.pow 2 (number.log2 - 52)
    let quotient := number / unit
    let remainder := number % unit
    let up := unit < 2 * remainder ∨ 2 * remainder = unit ∧ quotient % 2 = 1
    (if up then quotient + 1 else quotient) * unit

/-- Whether digits scaled by a power of ten overflow a double. -/
def overflows (significand : Nat) (exponent : Int) : Bool :=
  if significand = 0 ∨ exponent < 0 then false
  else if 308 < exponent then true
  else Nat.pow 2 1024 - Nat.pow 2 970 ≤ roundToDouble significand * roundToDouble (Nat.pow 10 exponent.toNat)

/-- A number that is no integer, if a double can hold it. -/
def scaled (significand : Nat) (exponent : Int) (rest : List Char) : Except Flaw (Numeral × List Char) :=
  if overflows significand exponent then .error .malformed else .ok (.other, rest)

/-- As many digits as fit 64 bits after those already read, and how many more there are. -/
def fitting (begun : Nat) : List Char → Nat × Nat
  | [] => (begun, 0)
  | digit :: rest =>
    let value := 10 * begun + digitValue digit
    if value ≤ greatestUnsigned then fitting value rest else (begun, rest.length + 1)

/-- The exponent of a number, after its letter. -/
def exponent (significand : Nat) (shift : Int) (text : List Char) : Except Flaw (Numeral × List Char) :=
  let (sign, text) : Int × List Char := match text with
    | '+' :: rest => (1, rest)
    | '-' :: rest => (-1, rest)
    | _ => (1, text)
  let digits := text.takeWhile Char.isDigit
  let rest := text.drop digits.length
  if text = [] then .error .ended
  else if digits = [] then .error .malformed
  else
    let value := digitsValue 0 digits
    if 2147483647 < value then
      if significand ≠ 0 ∧ sign = 1 then .error .malformed else .ok (.other, rest)
    else scaled significand (shift + sign * value) rest

def fraction (significand : Nat) (shift : Int) (text : List Char) : Except Flaw (Numeral × List Char) :=
  let digits := text.takeWhile Char.isDigit
  if text = [] then .error .ended
  else if digits = [] then .error .malformed
  else
    let (significand, left) := fitting significand digits
    let shift := shift - (digits.length - left : Nat)
    match text.drop digits.length with
    | 'e' :: rest | 'E' :: rest => exponent significand shift rest
    | rest => scaled significand shift rest

def signed (positive : Bool) (number : Nat) : Numeral :=
  if positive then .natural number
  else if number = 0 ∨ 9223372036854775808 < number then .other
  else .negative (-number)

/-- A number after its sign. -/
def unsigned (positive : Bool) (text : List Char) : Except Flaw (Numeral × List Char) :=
  let digits := text.takeWhile Char.isDigit
  if text = [] then .error .ended
  else if digits = [] ∨ 1 < digits.length ∧ digits.head? = some '0' then .error .malformed
  else
    let (significand, left) := fitting 0 digits
    match text.drop digits.length with
    | '.' :: rest => fraction significand left rest
    | 'e' :: rest | 'E' :: rest => exponent significand left rest
    | rest => if left = 0 then .ok (signed positive significand, rest) else scaled significand left rest

def read : Reader Numeral
  | '-' :: rest => unsigned false rest
  | text => unsigned true text

end Numeral

end WordSums.Json
