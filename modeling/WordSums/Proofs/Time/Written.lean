import WordSums.Text.Width
import WordSums.Time.Written
import WordSums.Proofs.Text.Decimal
import WordSums.Proofs.Token.Legal

/-!
# Timestamps that are read back

The written form of a moment has no blanks, and each of its numbers has as many digits as can be read at its
place or is followed by a mark. So every part is read back as it was written: the year with its sign, the
second numbered 60 as the second before it run on, and the fraction at its number of digits. Behind `Z` no
offset moves the moment, and the calendar has the date because the date was one of its days.
-/

namespace WordSums.Time

open WordSums.Text

theorem Date.month_le (date : Date) : date.month ≤ 12 := by
  have hday := Nat.le_trans date.day_mem.1 date.day_mem.2
  by_contra hlate
  have hnone : daysInMonth date.year date.month = 0 := by
    unfold daysInMonth
    split <;> first | rfl | omega
  omega

theorem Date.day_le (date : Date) : date.day ≤ 31 := by
  have hmonth : daysInMonth date.year date.month ≤ 31 := by
    unfold daysInMonth
    repeat' split
    all_goals decide
  have hday := date.day_mem.2
  omega

namespace Reading

theorem trimStart_cons {char : Char} (hchar : isBlank char = false) (rest : List Char) :
    trimStart (char :: rest) = char :: rest := by
  simp [trimStart, hchar]

theorem trimStart_digits {digits : List Char} (hne : digits ≠ []) (hdigits : ∀ char ∈ digits, char.isDigit = true)
    (rest : List Char) : trimStart (digits ++ rest) = digits ++ rest := by
  obtain ⟨digit, others, rfl⟩ := List.exists_cons_of_ne_nil hne
  have hdigit := TokenKind.isBlank_of_isDigit (hdigits digit List.mem_cons_self)
  exact trimStart_cons hdigit (others ++ rest)

/-- Digits are read as one number if no more can be read or none follows. -/
theorem number?_append {most : Nat} {digits rest : List Char} (hne : digits ≠ [])
    (hdigits : ∀ char ∈ digits, char.isDigit = true) (hlength : digits.length ≤ most)
    (hrest : digits.length = most ∨ ∀ char ∈ rest.head?, char.isDigit = false) :
    number? most (digits ++ rest) = some (digitsValue 0 digits, rest) := by
  have hstop : ∀ char ∈ (rest.take (most - digits.length)).head?, char.isDigit = false := by
    intro char hmem
    rw [List.head?_take] at hmem
    rcases hrest with hfull | hstop
    · simp [hfull] at hmem
    · split at hmem
      · cases hmem
      · exact hstop char hmem
  have htaken : ((digits ++ rest).take most).takeWhile Char.isDigit = digits := by
    rw [List.take_append, List.take_of_length_le hlength]
    exact takeWhile_isDigit_append hdigits hstop
  unfold number?
  rw [htaken, if_neg hne, List.drop_left]

theorem field?_paddedDecimal {count number : Nat} (hpositive : 0 < count) (hbound : number < 10 ^ count)
    (rest : List Char) : field? count (paddedDecimal count number ++ rest) = some (number, rest) := by
  have hne := paddedDecimal_ne_nil count number
  have hdigits : ∀ char ∈ paddedDecimal count number, char.isDigit = true := fun _ => isDigit_of_mem_paddedDecimal
  have hlength := length_paddedDecimal hpositive hbound
  rw [field?, trimStart_digits hne hdigits, number?_append hne hdigits hlength.le (.inl hlength),
    digitsValue_paddedDecimal]

theorem mark?_cons {mark : Char} (hmark : isBlank mark = false) (rest : List Char) :
    mark? mark (mark :: rest) = some rest := by
  rw [mark?, trimStart_cons hmark]
  exact if_pos rfl

/-- The digits of a year's amount, read as far as they go. -/
theorem number?_amount (amount : Nat) {rest : List Char} (hrest : ∀ char ∈ rest.head?, char.isDigit = false) :
    let text := paddedDecimal 4 amount ++ rest
    number? text.length text = some (amount, rest) := by
  have hdigits : ∀ char ∈ paddedDecimal 4 amount, char.isDigit = true := fun _ => isDigit_of_mem_paddedDecimal
  have hlength : (paddedDecimal 4 amount).length ≤ (paddedDecimal 4 amount ++ rest).length := by simp
  dsimp only
  rw [number?_append (paddedDecimal_ne_nil 4 amount) hdigits hlength (.inr hrest), digitsValue_paddedDecimal]

theorem year?_minus (rest : List Char) :
    year? ('-' :: rest) = (number? rest.length rest).map fun found => (-(found.1 : Int), found.2) := rfl

theorem year?_plus (rest : List Char) :
    year? ('+' :: rest) = (number? rest.length rest).map fun found => ((found.1 : Int), found.2) := rfl

theorem year?_writtenYear (year : Int) {rest : List Char} (hrest : ∀ char ∈ rest.head?, char.isDigit = false) :
    year? (Date.writtenYear year ++ rest) = some (year, rest) := by
  unfold Date.writtenYear
  split
  · next hplain =>
    -- a plain year begins with a digit, which is neither of the signs
    have hdigits : ∀ char ∈ paddedDecimal 4 year.toNat, char.isDigit = true := fun _ => isDigit_of_mem_paddedDecimal
    have hne := paddedDecimal_ne_nil 4 year.toNat
    have hlength : (paddedDecimal 4 year.toNat).length = 4 := length_paddedDecimal (by decide) (by omega)
    have hnumber := number?_append hne hdigits hlength.le (.inr hrest)
    rw [digitsValue_paddedDecimal] at hnumber
    unfold year?
    rw [trimStart_digits hne hdigits]
    obtain ⟨digit, others, hsame⟩ := List.exists_cons_of_ne_nil hne
    have hdigit := hdigits digit (hsame ▸ List.mem_cons_self)
    rw [hsame, List.cons_append] at hnumber ⊢
    split
    · next heq =>
      rw [(List.cons.inj heq).1] at hdigit
      exact absurd hdigit (by decide)
    · next heq =>
      rw [(List.cons.inj heq).1] at hdigit
      exact absurd hdigit (by decide)
    · rw [hnumber, Option.map_some, Int.toNat_of_nonneg hplain.1]
  · next hsigned =>
    have hnumber := number?_amount year.natAbs hrest
    dsimp only at hnumber
    by_cases hnegative : year < 0
    · have hyear : -(year.natAbs : Int) = year := by omega
      rw [if_pos hnegative, List.cons_append, year?_minus, hnumber, Option.map_some, hyear]
    · have hyear : (year.natAbs : Int) = year := by omega
      rw [if_neg hnegative, List.cons_append, year?_plus, hnumber, Option.map_some, hyear]

theorem date?_written (date : Date) (rest : List Char) : date? (date.written ++ rest) = some (date, rest) := by
  have hmonth : date.month < 10 ^ 2 := Nat.lt_of_le_of_lt date.month_le (by decide)
  have hday : date.day < 10 ^ 2 := Nat.lt_of_le_of_lt date.day_le (by decide)
  have hhyphen : isBlank '-' = false := by decide
  unfold date? Date.written
  simp only [List.append_assoc, List.cons_append, Option.bind_eq_bind]
  rw [year?_writtenYear date.year (by simp), Option.bind_some]
  dsimp only
  rw [mark?_cons hhyphen, Option.bind_some, field?_paddedDecimal (by decide) hmonth, Option.bind_some]
  dsimp only
  rw [mark?_cons hhyphen, Option.bind_some, field?_paddedDecimal (by decide) hday, Option.bind_some,
    Date.ofParts?_self, Option.bind_some]

theorem fraction?_point (rest : List Char) :
    fraction? ('.' :: rest) = (number? 9 rest).map fun found =>
      (found.1 * Nat.pow 10 (9 - (rest.length - found.2.length)), found.2.dropWhile Char.isDigit) := rfl

/-- Some digits of a fraction stand for the nanoseconds that they leave out the zeros of. -/
theorem fraction?_paddedDecimal {count number : Nat} (hpositive : 0 < count) (hcount : count ≤ 9)
    (hbound : number < 10 ^ count) :
    fraction? ('.' :: (paddedDecimal count number ++ ['Z'])) = some (number * 10 ^ (9 - count), ['Z']) := by
  have hdigits : ∀ char ∈ paddedDecimal count number, char.isDigit = true := fun _ => isDigit_of_mem_paddedDecimal
  have hlength := length_paddedDecimal hpositive hbound
  have hshort : (paddedDecimal count number).length ≤ 9 := by omega
  have htaken : (paddedDecimal count number ++ ['Z']).length - ['Z'].length = count := by simp [hlength]
  rw [fraction?_point, number?_append (paddedDecimal_ne_nil count number) hdigits hshort (.inr (by simp)),
    digitsValue_paddedDecimal, Option.map_some, htaken]
  rfl

theorem fraction?_writtenFraction {nano : Nat} (hnano : nano < nanosPerSecond) :
    fraction? (Timestamp.writtenFraction nano ++ ['Z']) = some (nano, ['Z']) := by
  unfold nanosPerSecond at hnano
  unfold Timestamp.writtenFraction
  split
  · next hzero =>
    rw [hzero]
    rfl
  · split
    · next hmillis =>
      rw [List.cons_append, fraction?_paddedDecimal (by decide) (by decide) (by omega)]
      congr 2
      omega
    · split
      · next hmicros =>
        rw [List.cons_append, fraction?_paddedDecimal (by decide) (by decide) (by omega)]
        congr 2
        omega
      · rw [List.cons_append, fraction?_paddedDecimal (by decide) (by decide) (by omega)]
        congr 2
        omega

end Reading

namespace Timestamp

open Reading

/-- The written form behind the date. -/
def writtenClock (time : Timestamp) : List Char :=
  let leap := if nanosPerSecond ≤ time.nano then 1 else 0
  paddedDecimal 2 (time.second / 3600) ++ ':' :: (paddedDecimal 2 (time.second / 60 % 60) ++
    ':' :: (paddedDecimal 2 (time.second % 60 + leap) ++
      (writtenFraction (time.nano - leap * nanosPerSecond) ++ ['Z'])))

theorem written_eq (time : Timestamp) : time.written = time.date.written ++ 'T' :: time.writtenClock := by
  simp [written, writtenClock]

theorem clock?_writtenClock (time : Timestamp) :
    clock? time.writtenClock = some ((time.second, time.nano), ['Z']) := by
  have hsecond := time.second_lt
  have hcolon : isBlank ':' = false := by decide
  unfold writtenClock
  dsimp only
  generalize hleap : (if nanosPerSecond ≤ time.nano then 1 else 0) = leap
  generalize hfraction : time.nano - leap * nanosPerSecond = fraction
  -- only the last second of a minute can run on, and then it is the one numbered 60
  have hparts : fraction < nanosPerSecond ∧ fraction + leap * nanosPerSecond = time.nano ∧
      time.second % 60 + leap ≤ 60 ∧ (if time.second % 60 + leap = 60 then 1 else 0) = leap := by
    have hnano := time.nano_lt
    split at hleap
    · subst hleap
      rw [Nat.one_mul] at hfraction ⊢
      rw [if_pos (by omega)]
      omega
    · subst hleap
      rw [Nat.zero_mul] at hfraction ⊢
      rw [if_neg (by omega)]
      omega
  obtain ⟨hshort, hnano, hlast, hrunsOn⟩ := hparts
  have hwhole : time.second / 3600 * 3600 + time.second / 60 % 60 * 60 + (time.second % 60 + leap - leap) =
      time.second := by
    omega
  have hhour : time.second / 3600 < 24 := by omega
  have hminute : time.second / 60 % 60 < 60 := by omega
  unfold clock?
  simp only [Option.bind_eq_bind]
  rw [field?_paddedDecimal (by decide) (by omega), Option.bind_some]
  dsimp only
  rw [mark?_cons hcolon, Option.bind_some, field?_paddedDecimal (by decide) (by omega), Option.bind_some]
  dsimp only
  rw [mark?_cons hcolon, Option.bind_some, field?_paddedDecimal (by decide) (by omega), Option.bind_some]
  dsimp only
  rw [fraction?_writtenFraction hshort, Option.bind_some]
  dsimp only
  rw [if_pos ⟨hhour, hminute, hlast⟩, hrunsOn, hwhole, hnano]

theorem atOffset?_zero (time : Timestamp) : atOffset? time.date time.second time.nano 0 = some time := by
  have hsecond := time.second_lt
  unfold atOffset?
  dsimp only
  rw [if_neg (by omega), if_pos (by omega)]
  have htotal : ((time.second : Int) - 0).toNat = time.second := by omega
  rw [htotal, ofParts?_self]

/-- A written moment is read back as it was. -/
theorem read?_written (time : Timestamp) : read? time.written = some time := by
  unfold read?
  simp only [Option.bind_eq_bind]
  rw [written_eq, date?_written, Option.bind_some]
  change ((clock? time.writtenClock).bind _) = _
  rw [clock?_writtenClock, Option.bind_some]
  have htrim : trimStart ['Z'] = ['Z'] := rfl
  have hoffset : offset? ['Z'] = some (0, []) := rfl
  dsimp only
  rw [htrim, hoffset, Option.bind_some]
  dsimp only
  rw [if_pos ⟨rfl, by decide⟩, atOffset?_zero]

theorem read?_text (time : Timestamp) : read? time.text.toList = some time := by
  rw [text, String.toList_ofList, read?_written]

/-! ### How long a written moment is -/

theorem length_writtenFraction_le {nano : Nat} (hnano : nano < nanosPerSecond) :
    (writtenFraction nano).length ≤ 10 := by
  unfold nanosPerSecond at hnano
  have hmillis : (paddedDecimal 3 (nano / 1000000)).length ≤ 9 :=
    length_paddedDecimal_le (by decide) (by decide) (by omega)
  have hmicros : (paddedDecimal 6 (nano / 1000)).length ≤ 9 :=
    length_paddedDecimal_le (by decide) (by decide) (by omega)
  have hnanos : (paddedDecimal 9 nano).length ≤ 9 := length_paddedDecimal_le (by decide) (by decide) (by omega)
  unfold writtenFraction
  split
  · simp
  · split
    · exact Nat.succ_le_succ hmillis
    · split
      · exact Nat.succ_le_succ hmicros
      · exact Nat.succ_le_succ hnanos

theorem length_writtenYear_le (date : Date) : (Date.writtenYear date.year).length ≤ 7 := by
  have hyear := date.year_mem
  unfold firstYear lastYear at hyear
  have hplain : (paddedDecimal 4 date.year.toNat).length ≤ 6 :=
    length_paddedDecimal_le (by decide) (by decide) (by omega)
  have hsigned : (paddedDecimal 4 date.year.natAbs).length ≤ 6 :=
    length_paddedDecimal_le (by decide) (by decide) (by omega)
  unfold Date.writtenYear
  split
  · omega
  · rw [List.length_cons]
    omega

theorem length_written_le (time : Timestamp) : time.written.length ≤ 33 := by
  have hsecond := time.second_lt
  have hyear := length_writtenYear_le time.date
  have hfields : (paddedDecimal 2 time.date.month).length = 2 ∧ (paddedDecimal 2 time.date.day).length = 2 ∧
      (paddedDecimal 2 (time.second / 3600)).length = 2 ∧ (paddedDecimal 2 (time.second / 60 % 60)).length = 2 := by
    have hmonth := time.date.month_le
    have hday := time.date.day_le
    refine ⟨?_, ?_, ?_, ?_⟩ <;> exact length_paddedDecimal (by decide) (by omega)
  obtain ⟨hmonth, hday, hhour, hminute⟩ := hfields
  have hnano := time.nano_lt
  simp only [written, Date.written, List.length_append, List.length_cons, List.length_nil, hmonth, hday, hhour, hminute]
  split
  · have hlast : (paddedDecimal 2 (time.second % 60 + 1)).length = 2 := length_paddedDecimal (by decide) (by omega)
    have hfraction : (writtenFraction (time.nano - 1 * nanosPerSecond)).length ≤ 10 :=
      length_writtenFraction_le (by omega)
    omega
  · have hlast : (paddedDecimal 2 (time.second % 60 + 0)).length = 2 := length_paddedDecimal (by decide) (by omega)
    have hfraction : (writtenFraction (time.nano - 0 * nanosPerSecond)).length ≤ 10 :=
      length_writtenFraction_le (by omega)
    omega

theorem utf8ByteSize_text_le (time : Timestamp) : time.text.utf8ByteSize ≤ 132 := by
  have hlength := time.length_written_le
  have hwidth := width_le time.written
  rw [text, utf8ByteSize_ofList]
  omega

end Timestamp

end WordSums.Time
