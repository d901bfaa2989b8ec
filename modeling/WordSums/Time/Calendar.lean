import WordSums.Text.Decimal

/-!
# Calendar dates

Dates of the proleptic Gregorian calendar, over the years that a timestamp can hold. A date is kept
as year, month and day with the proof that such a day exists, so no date outside the calendar can be
written down. The day number counts days through all of them and gives the order and the distance of
two dates.
-/

namespace WordSums.Time

/-- Every fourth year is a leap year, but of the full centuries only every fourth. -/
def isLeapYear (year : Int) : Bool :=
  year % 4 == 0 && (year % 100 != 0 || year % 400 == 0)

/-- The number of days of a month; a number that names no month has none. -/
def daysInMonth (year : Int) (month : Nat) : Nat :=
  match month with
  | 1 | 3 | 5 | 7 | 8 | 10 | 12 => 31
  | 4 | 6 | 9 | 11 => 30
  | 2 => if isLeapYear year then 29 else 28
  | _ => 0

def firstYear : Int := -262143

def lastYear : Int := 262142

structure Date where
  year : Int
  month : Nat
  day : Nat
  year_mem : firstYear ≤ year ∧ year ≤ lastYear
  day_mem : 1 ≤ day ∧ day ≤ daysInMonth year month
deriving DecidableEq

namespace Date

/-- The date of the given year, month and day, if the calendar has one. -/
def ofParts? (year : Int) (month day : Nat) : Option Date :=
  if hyear : firstYear ≤ year ∧ year ≤ lastYear then
    if hday : 1 ≤ day ∧ day ≤ daysInMonth year month then some ⟨year, month, day, hyear, hday⟩ else none
  else none

@[simp] theorem ofParts?_self (date : Date) : ofParts? date.year date.month date.day = some date := by
  simp [ofParts?, date.year_mem, date.day_mem]

def next? (date : Date) : Option Date :=
  (ofParts? date.year date.month (date.day + 1)) <|> (ofParts? date.year (date.month + 1) 1) <|>
    (ofParts? (date.year + 1) 1 1)

def previous? (date : Date) : Option Date :=
  (ofParts? date.year date.month (date.day - 1)) <|>
    (ofParts? date.year (date.month - 1) (daysInMonth date.year (date.month - 1))) <|>
    (ofParts? (date.year - 1) 12 31)

/-- The number of days of a year that lie before a month. -/
def daysBeforeMonth (year : Int) (month : Nat) : Nat :=
  (List.range month).foldl (fun days earlier => days + daysInMonth year earlier) 0

/-- The number of the day counted from the first of January of the year one, which has number one.
-/
def dayNumber (date : Date) : Int :=
  let past := date.year - 1
  365 * past + past / 4 - past / 100 + past / 400 + daysBeforeMonth date.year date.month + date.day

end Date

end WordSums.Time
