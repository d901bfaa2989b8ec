import WordSums.Time.Calendar

/-!
# Timestamps

A moment in universal time, to the nanosecond. The second of the day runs to 86399; a leap second is
the stretch in which the nanosecond runs on past a full second, which can only happen in the last
second of a minute. Moments are ordered by date, then second, then nanosecond, and `instant` is one
number that puts them in that order.
-/

namespace WordSums.Time

def nanosPerSecond : Nat := 1000000000

structure Timestamp where
  date : Date
  second : Nat
  nano : Nat
  second_lt : second < 86400
  nano_lt : nano < nanosPerSecond ∨ nano < 2 * nanosPerSecond ∧ second % 60 = 59
deriving DecidableEq

namespace Timestamp

/-- The moment of the given date, second of the day and nanosecond, if there is one. -/
def ofParts? (date : Date) (second nano : Nat) : Option Timestamp :=
  if hsecond : second < 86400 then
    if hnano : nano < nanosPerSecond ∨ nano < 2 * nanosPerSecond ∧ second % 60 = 59 then
      some ⟨date, second, nano, hsecond, hnano⟩
    else none
  else none

@[simp] theorem ofParts?_self (time : Timestamp) : ofParts? time.date time.second time.nano = some time := by
  simp only [ofParts?, time.second_lt, time.nano_lt, dif_pos]

/-- The first moment of the year 1970. -/
def epoch : Timestamp :=
  ⟨⟨1970, 1, 1, by decide, by decide⟩, 0, 0, by decide, by decide⟩

/-- A number that grows with time; leap seconds are why a second has room for two. -/
def instant (time : Timestamp) : Int :=
  (time.date.dayNumber * 86400 + time.second) * (2 * nanosPerSecond) + time.nano

instance : LE Timestamp := ⟨fun left right => left.instant ≤ right.instant⟩

instance (left right : Timestamp) : Decidable (left ≤ right) :=
  inferInstanceAs (Decidable (left.instant ≤ right.instant))

theorem le_refl (time : Timestamp) : time ≤ time := Int.le_refl _

theorem le_trans {first second third : Timestamp} (hfirst : first ≤ second)
    (hsecond : second ≤ third) : first ≤ third :=
  Int.le_trans hfirst hsecond

/-- Nanoseconds from one moment to another. A leap second that lies between the two, or that the
distance starts or ends in, is counted. -/
def nanosSince (later earlier : Timestamp) : Int :=
  let days := later.date.dayNumber - earlier.date.dayNumber
  let seconds : Int := (later.second : Int) - earlier.second
  let leap : Int :=
    if earlier.second < later.second ∧ nanosPerSecond ≤ earlier.nano then 1
    else if later.second < earlier.second ∧ nanosPerSecond ≤ later.nano then -1
    else 0
  (days * 86400 + seconds + leap) * nanosPerSecond + ((later.nano : Int) - earlier.nano)

end Timestamp

end WordSums.Time
