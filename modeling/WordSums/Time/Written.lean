import WordSums.Text.Blank
import WordSums.Time.Timestamp

/-!
# Written timestamps

The written form is a date and a time joined by `T` and closed by `Z`, with as many digits of the
second as are needed: none, three, six or nine. Years outside 0 to 9999 carry their sign. Reading is
lenient: blanks may stand between the parts, the year may be shorter, a space may stand for the `T`,
an offset from universal time may stand for the `Z`, and digits beyond the nanosecond are cut. An
offset is never optional, and a second numbered 60 is kept as a leap second.
-/

namespace WordSums.Time

open WordSums.Text

namespace Date

/-- Years of four digits are written plain, all others with their sign. -/
def writtenYear (year : Int) : List Char :=
  if 0 ≤ year ∧ year ≤ 9999 then paddedDecimal 4 year.toNat
  else (if year < 0 then '-' else '+') :: paddedDecimal 4 year.natAbs

def written (date : Date) : List Char :=
  writtenYear date.year ++ '-' :: paddedDecimal 2 date.month ++ '-' :: paddedDecimal 2 date.day

end Date

namespace Timestamp

/-- The digits of a second's fraction: the fewest of zero, three, six and nine that lose nothing. -/
def writtenFraction (nano : Nat) : List Char :=
  if nano = 0 then []
  else if nano % 1000000 = 0 then '.' :: paddedDecimal 3 (nano / 1000000)
  else if nano % 1000 = 0 then '.' :: paddedDecimal 6 (nano / 1000)
  else '.' :: paddedDecimal 9 nano

def written (time : Timestamp) : List Char :=
  let leap := if nanosPerSecond ≤ time.nano then 1 else 0
  time.date.written ++ 'T' :: paddedDecimal 2 (time.second / 3600) ++
    ':' :: paddedDecimal 2 (time.second / 60 % 60) ++
    ':' :: paddedDecimal 2 (time.second % 60 + leap) ++ writtenFraction (time.nano - leap * nanosPerSecond) ++ ['Z']

def text (time : Timestamp) : String :=
  String.ofList time.written

end Timestamp

namespace Reading

/-- A number of at least one and at most `most` digits, and the text after it. -/
def number? (most : Nat) (text : List Char) : Option (Nat × List Char) :=
  let digits := (text.take most).takeWhile Char.isDigit
  if digits = [] then none else some (digitsValue 0 digits, text.drop digits.length)

/-- A number after any blanks. -/
def field? (most : Nat) (text : List Char) : Option (Nat × List Char) :=
  number? most (trimStart text)

/-- A year after any blanks: four digits at most without a sign, any number of them with one. -/
def year? (text : List Char) : Option (Int × List Char) :=
  match trimStart text with
  | '-' :: rest => (number? rest.length rest).map fun found => (-(found.1 : Int), found.2)
  | '+' :: rest => (number? rest.length rest).map fun found => ((found.1 : Int), found.2)
  | rest => (number? 4 rest).map fun found => ((found.1 : Int), found.2)

/-- A separating mark after any blanks. -/
def mark? (mark : Char) (text : List Char) : Option (List Char) :=
  match trimStart text with
  | char :: rest => if char = mark then some rest else none
  | [] => none

/-- The nanoseconds that a fraction of a second stands for, if one follows. -/
def fraction? : List Char → Option (Nat × List Char)
  | '.' :: rest => (number? 9 rest).map fun found =>
      (found.1 * Nat.pow 10 (9 - (rest.length - found.2.length)), found.2.dropWhile Char.isDigit)
  | rest => some (0, rest)

def twoDigits? : List Char → Option (Nat × List Char)
  | tens :: ones :: rest => if tens.isDigit && ones.isDigit then some (digitsValue 0 [tens, ones], rest) else none
  | _ => none

/-- Hours and minutes from universal time, in seconds; colons and blanks may stand between the two.
-/
def signedOffset? (sign : Int) (text : List Char) : Option (Int × List Char) := do
  let (hours, rest) ← twoDigits? text
  let (minutes, rest) ← twoDigits? (rest.dropWhile fun char => char == ':' || isBlank char)
  if minutes < 60 then some (sign * (hours * 3600 + minutes * 60 : Nat), rest) else none

/-- The offset from universal time, in seconds. -/
def offset? (text : List Char) : Option (Int × List Char) :=
  match text with
  | 'Z' :: rest | 'z' :: rest => some (0, rest)
  | '+' :: rest => signedOffset? 1 rest
  | '-' :: rest | '\u2212' :: rest => signedOffset? (-1) rest
  | first :: second :: third :: rest =>
    if first.toUpper = 'U' ∧ second.toUpper = 'T' ∧ third.toUpper = 'C' then some (0, rest) else none
  | _ => none

def date? (text : List Char) : Option (Date × List Char) := do
  let (year, rest) ← year? text
  let rest ← mark? '-' rest
  let (month, rest) ← field? 2 rest
  let rest ← mark? '-' rest
  let (day, rest) ← field? 2 rest
  let date ← Date.ofParts? year month day
  some (date, rest)

/-- The second of the day and the nanosecond; the second numbered 60 is the second before it, run
on. -/
def clock? (text : List Char) : Option ((Nat × Nat) × List Char) := do
  let (hour, rest) ← field? 2 text
  let rest ← mark? ':' rest
  let (minute, rest) ← field? 2 rest
  let rest ← mark? ':' rest
  let (second, rest) ← field? 2 rest
  let (nano, rest) ← fraction? rest
  if hour < 24 ∧ minute < 60 ∧ second ≤ 60 then
    let leap := if second = 60 then 1 else 0
    some ((hour * 3600 + minute * 60 + (second - leap), nano + leap * nanosPerSecond), rest)
  else none

/-- The moment in universal time that a local date and clock at an offset stand for. -/
def atOffset? (date : Date) (second nano : Nat) (offset : Int) : Option Timestamp :=
  let total : Int := (second : Int) - offset
  if total < 0 then date.previous?.bind fun day => Timestamp.ofParts? day (total + 86400).toNat nano
  else if total < 86400 then Timestamp.ofParts? date total.toNat nano
  else date.next?.bind fun day => Timestamp.ofParts? day (total - 86400).toNat nano

end Reading

/-- Reads a timestamp that fills the whole text but for blanks around it. -/
def Timestamp.read? (text : List Char) : Option Timestamp := do
  let (date, rest) ← Reading.date? text
  let rest ← match rest with
    | 'T' :: rest | 't' :: rest | ' ' :: rest => some rest
    | _ => none
  let ((second, nano), rest) ← Reading.clock? rest
  let (offset, rest) ← Reading.offset? (trimStart rest)
  if trimStart rest = [] ∧ offset.natAbs < 86400 then Reading.atOffset? date second nano offset else none

end WordSums.Time
