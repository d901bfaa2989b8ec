import WordSums.Proofs.Json.Strings
import WordSums.Proofs.Text.Decimal

/-!
# Values that are read back

A reader recovers a value from a document if it takes exactly the document off the start of a text, in any
layout, with spaces before it, and whatever comes behind it that can stand behind a value. The last part
matters to numbers only, whose digits would otherwise go on. A document begins with a character of its own,
so that a list or a record can tell it from its marks.
-/

namespace WordSums.Json

open WordSums.Text

/-- What can stand between tokens. -/
def Spaces (gap : List Char) : Prop :=
  ∀ char ∈ gap, isSpace char = true

/-- What can stand behind a value: spaces, a mark, or nothing. -/
def Behind (rest : List Char) : Prop :=
  ∀ char ∈ rest.head?, isSpace char = true ∨ char = ',' ∨ char = ']' ∨ char = '\x7d'

theorem spaces_nil : Spaces [] :=
  fun _ hmem => absurd hmem List.not_mem_nil

theorem behind_nil : Behind [] :=
  fun _ hmem => by cases hmem

theorem Behind.of_mark {gap rest : List Char} {mark : Char} (hgap : Spaces gap)
    (hmark : mark = ',' ∨ mark = ']' ∨ mark = '\x7d') : Behind (gap ++ mark :: rest) := by
  intro char hchar
  cases gap with
  | nil =>
    obtain rfl : mark = char := Option.some.inj hchar
    exact .inr hmark
  | cons space gap =>
    obtain rfl : space = char := Option.some.inj hchar
    exact .inl (hgap space List.mem_cons_self)

theorem Spaces.skipSpaces_append {gap : List Char} (hgap : Spaces gap) {char : Char} (hchar : isSpace char = false)
    (rest : List Char) : skipSpaces (gap ++ char :: rest) = char :: rest := by
  have hstop : ¬ isSpace char = true := by simp [hchar]
  rw [skipSpaces, List.dropWhile_append_of_pos hgap, List.dropWhile_cons_of_neg hstop]

namespace Layout

theorem spaces_lineBreak (layout : Layout) : Spaces layout.lineBreak := by
  intro char hmem
  cases layout with
  | compact => cases hmem
  | spread depth =>
    rcases List.mem_cons.1 hmem with rfl | hblank
    · rfl
    · rw [List.eq_of_mem_replicate hblank]
      rfl

theorem exists_colon (layout : Layout) : ∃ gap, layout.colon = ':' :: gap ∧ Spaces gap := by
  cases layout with
  | compact => exact ⟨[], rfl, spaces_nil⟩
  | spread depth => exact ⟨[' '], rfl, by simp [Spaces, isSpace]⟩

end Layout

/-- A reader takes a document off the start of a text as a value. -/
structure Recovers {α : Type} (reader : Reader α) (document : Document) (value : α) : Prop where
  opens (layout : Layout) : ∃ char text, document layout = char :: text ∧ isSpace char = false ∧ char ≠ ']' ∧ char ≠ ','
  reads (layout : Layout) {gap rest : List Char} (hgap : Spaces gap) (hbehind : Behind rest) :
    reader (gap ++ (document layout ++ rest)) = .ok (value, rest)

section Whole

variable {α : Type} {reader : Reader α} {document : Document} {value : α}

theorem Recovers.reads_whole (hrecovers : Recovers reader document value) (layout : Layout) :
    reader (String.ofList (document layout)).toList = .ok (value, []) := by
  have hreads := hrecovers.reads layout spaces_nil behind_nil
  rw [List.nil_append, List.append_nil] at hreads
  rw [String.toList_ofList, hreads]

/-- A document that is the whole text. -/
theorem Recovers.readWhole_pretty (hrecovers : Recovers reader document value) :
    readWhole reader document.pretty = .ok value := by
  rw [readWhole, Document.pretty, hrecovers.reads_whole]
  rfl

theorem Recovers.readWhole_compact (hrecovers : Recovers reader document value) :
    readWhole reader document.compact = .ok value := by
  rw [readWhole, Document.compact, hrecovers.reads_whole]
  rfl

theorem Recovers.readFirst_compact (hrecovers : Recovers reader document value) :
    readFirst reader document.compact = .ok value := by
  rw [readFirst, Document.compact, hrecovers.reads_whole]
  rfl

end Whole

/-! ### Strings -/

theorem string_append (text : String) (layout : Layout) (rest : List Char) :
    Document.string text layout ++ rest = '"' :: (text.toList.flatMap escapedChar ++ '"' :: rest) := by
  simp [Document.string, written]

theorem recovers_string (text : String) : Recovers Reader.string (.string text) text := by
  apply Recovers.mk
  case opens =>
    intro layout
    exact ⟨'"', _, rfl, by decide, by decide, by decide⟩
  case reads =>
    intro layout gap rest hgap hbehind
    rw [string_append, Reader.string, hgap.skipSpaces_append (by decide)]
    change (quotedRest _ >>= _) = _
    rw [quotedRest_written]
    change Except.ok (String.ofList text.toList, rest) = _
    rw [String.ofList_toList]

theorem recovers_written {α : Type} {meaning : List Char → Option α} {text : String} {value : α}
    (hmeaning : meaning text.toList = some value) : Recovers (Reader.written meaning) (.string text) value := by
  apply Recovers.mk
  case opens => exact (recovers_string text).opens
  case reads =>
    intro layout gap rest hgap hbehind
    simp only [Reader.written, (recovers_string text).reads layout hgap hbehind, bind, Except.bind, hmeaning]

theorem recovers_label {α : Type} {meaning : String → Option α} {text : String} {value : α}
    (hmeaning : meaning text = some value) : Recovers (Reader.label meaning) (.string text) value := by
  apply Recovers.mk
  case opens => exact (recovers_string text).opens
  case reads =>
    intro layout gap rest hgap hbehind
    have hnamed : meaning (String.ofList text.toList) = some value := by
      rw [String.ofList_toList, hmeaning]
    have hwritten : Recovers (Reader.written fun chars => meaning (String.ofList chars)) (.string text) value :=
      recovers_written hnamed
    have hreads := hwritten.reads layout spaces_nil hbehind
    rw [List.nil_append, string_append] at hreads
    rw [string_append, Reader.label, hgap.skipSpaces_append (by decide)]
    exact hreads

/-- What is written as a string is read back where it might also have been null. -/
theorem recovers_optional {α : Type} {reader : Reader α} {text : String} {value : α}
    (hrecovers : Recovers reader (.string text) value) :
    Recovers (Reader.optional reader) (.string text) (some value) := by
  apply Recovers.mk
  case opens => exact hrecovers.opens
  case reads =>
    intro layout gap rest hgap hbehind
    have hreads := hrecovers.reads layout spaces_nil hbehind
    rw [List.nil_append, string_append] at hreads
    rw [string_append, Reader.optional, hgap.skipSpaces_append (by decide)]
    change (reader _ >>= _) = _
    rw [hreads]
    rfl

theorem recovers_boolean (value : Bool) : Recovers Reader.boolean (.boolean value) value := by
  apply Recovers.mk
  case opens =>
    intro layout
    cases value with
    | false => exact ⟨'f', _, rfl, by decide, by decide, by decide⟩
    | true => exact ⟨'t', _, rfl, by decide, by decide, by decide⟩
  case reads =>
    intro layout gap rest hgap hbehind
    cases value with
    | false =>
      have htext : Document.boolean false layout ++ rest = 'f' :: 'a' :: 'l' :: 's' :: 'e' :: rest := rfl
      rw [htext, Reader.boolean, hgap.skipSpaces_append (by decide)]
      rfl
    | true =>
      have htext : Document.boolean true layout ++ rest = 't' :: 'r' :: 'u' :: 'e' :: rest := rfl
      rw [htext, Reader.boolean, hgap.skipSpaces_append (by decide)]
      rfl

/-! ### Numbers -/

namespace Numeral

theorem le_digitsValue (begun : Nat) (digits : List Char) : begun ≤ digitsValue begun digits := by
  induction digits generalizing begun with
  | nil => exact Nat.le_refl begun
  | cons digit digits ih =>
    have hrest := ih (10 * begun + digitValue digit)
    change begun ≤ digitsValue (10 * begun + digitValue digit) digits
    omega

/-- All digits fit if their value does. -/
theorem fitting_eq {begun : Nat} {digits : List Char} (hfits : digitsValue begun digits ≤ greatestUnsigned) :
    fitting begun digits = (digitsValue begun digits, 0) := by
  induction digits generalizing begun with
  | nil => rfl
  | cons digit digits ih =>
    have hrest : digitsValue (10 * begun + digitValue digit) digits ≤ greatestUnsigned := hfits
    have hfirst := le_digitsValue (10 * begun + digitValue digit) digits
    rw [fitting, if_pos (Nat.le_trans hfirst hrest), ih hrest]
    rfl

theorem not_number_of_behind {rest : List Char} (hbehind : Behind rest) {char : Char} (hchar : char ∈ rest.head?) :
    char.isDigit = false ∧ char ≠ '.' ∧ char ≠ 'e' ∧ char ≠ 'E' := by
  rcases hbehind char hchar with hspace | rfl | rfl | rfl
  · simp only [isSpace, Bool.or_eq_true, beq_iff_eq] at hspace
    rcases hspace with ((rfl | rfl) | rfl) | rfl <;> decide
  all_goals decide

theorem unsigned_decimal {number : Nat} (hbound : number ≤ greatestUnsigned) {rest : List Char}
    (hbehind : Behind rest) (positive : Bool) :
    unsigned positive (decimal number ++ rest) = .ok (signed positive number, rest) := by
  have hstop (char : Char) (hchar : char ∈ rest.head?) := not_number_of_behind hbehind hchar
  have htaken : (decimal number ++ rest).takeWhile Char.isDigit = decimal number :=
    takeWhile_isDigit_append (fun _ => isDigit_of_mem_decimal) fun char hchar => (hstop char hchar).1
  have hfits : fitting 0 (decimal number) = (number, 0) := by
    rw [fitting_eq (by rw [digitsValue_decimal]; exact hbound), digitsValue_decimal]
  have hne : ¬ (decimal number = [] ∨ 1 < (decimal number).length ∧ (decimal number).head? = some '0') := by
    simp only [decimal_ne_nil, false_or]
    exact decimal_no_leading_zero number
  have hsome : ¬ decimal number ++ rest = [] := by simp [decimal_ne_nil]
  unfold unsigned
  rw [htaken]
  dsimp only
  rw [if_neg hsome, if_neg hne, hfits, List.drop_left]
  dsimp only
  -- no fraction and no exponent can follow
  split
  · exact absurd rfl (hstop '.' rfl).2.1
  · exact absurd rfl (hstop 'e' rfl).2.2.1
  · exact absurd rfl (hstop 'E' rfl).2.2.2
  · rfl

end Numeral

theorem exists_digit (number : Nat) : ∃ digit digits, decimal number = digit :: digits ∧ digit.isDigit = true := by
  obtain ⟨digit, digits, hdigits⟩ := List.exists_cons_of_ne_nil (decimal_ne_nil number)
  exact ⟨digit, digits, hdigits, isDigit_of_mem_decimal (hdigits ▸ List.mem_cons_self)⟩

theorem integer_natCast (number : Nat) (layout : Layout) : Document.integer (number : Int) layout = decimal number := by
  simp [Document.integer]

theorem integer_injective {left right : Int} {layout : Layout}
    (hsame : Document.integer left layout = Document.integer right layout) : left = right := by
  have hminus (number : Nat) {digits : List Char} (hdigits : decimal number = '-' :: digits) : False := by
    have hdigit : '-'.isDigit = true := isDigit_of_mem_decimal (hdigits ▸ List.mem_cons_self)
    exact absurd hdigit (by decide)
  unfold Document.integer at hsame
  split at hsame
  · split at hsame
    · have habs := decimal_injective (List.cons.inj hsame).2
      omega
    · exact (hminus _ hsame.symm).elim
  · split at hsame
    · exact (hminus _ hsame).elim
    · have habs := decimal_injective hsame
      omega

theorem not_mark_of_isDigit {char : Char} (hdigit : char.isDigit = true) :
    isSpace char = false ∧ char ≠ ']' ∧ char ≠ ',' ∧ char ≠ '-' := by
  have hrange := Char.isDigit_iff_toNat.1 hdigit
  refine ⟨?_, ?_, ?_, ?_⟩
  · rw [← Bool.not_eq_true]
    intro hspace
    simp only [isSpace, Bool.or_eq_true, beq_iff_eq] at hspace
    rcases hspace with ((rfl | rfl) | rfl) | rfl <;> exact absurd hdigit (by decide)
  all_goals
    rintro rfl
    exact absurd hdigit (by decide)

theorem recovers_number {α : Type} {meaning : Numeral → Option α} {number : Nat} {value : α}
    (hbound : number ≤ Numeral.greatestUnsigned) (hmeaning : meaning (.natural number) = some value) :
    Recovers (Reader.number meaning) (.integer number) value := by
  obtain ⟨digit, digits, hdecimal, hdigit⟩ := exists_digit number
  obtain ⟨hspace, hbracket, hcomma, hminus⟩ := not_mark_of_isDigit hdigit
  apply Recovers.mk
  case opens =>
    intro layout
    exact ⟨digit, digits, by rw [integer_natCast, hdecimal], hspace, hbracket, hcomma⟩
  case reads =>
    intro layout gap rest hgap hbehind
    have hunsigned := Numeral.unsigned_decimal hbound hbehind true
    rw [hdecimal, List.cons_append] at hunsigned
    have hread : Numeral.read (digit :: (digits ++ rest)) = .ok (.natural number, rest) := by
      unfold Numeral.read
      split
      · next heq => exact absurd (List.cons.inj heq).1 hminus
      · exact hunsigned
    have hnumeral : Reader.numeral (gap ++ digit :: (digits ++ rest)) = .ok (.natural number, rest) := by
      rw [Reader.numeral, hgap.skipSpaces_append hspace]
      dsimp only
      rw [if_pos (.inr hdigit), hread]
    rw [integer_natCast, hdecimal, List.cons_append]
    simp only [Reader.number, hnumeral, bind, Except.bind, hmeaning]

theorem recovers_negative {α : Type} {meaning : Numeral → Option α} {number : Nat} {value : α} (hpositive : 0 < number)
    (hbound : number ≤ 9223372036854775808) (hmeaning : meaning (.negative (-number)) = some value) :
    Recovers (Reader.number meaning) (.integer (-number)) value := by
  have hinteger (layout : Layout) : Document.integer (-(number : Int)) layout = '-' :: decimal number := by
    rw [Document.integer, if_pos (by omega), Int.natAbs_neg, Int.natAbs_natCast]
  have hsigned : Numeral.signed false number = .negative (-number) := by
    rw [Numeral.signed, if_neg Bool.false_ne_true, if_neg (by omega)]
  apply Recovers.mk
  case opens =>
    intro layout
    exact ⟨'-', _, hinteger layout, by decide, by decide, by decide⟩
  case reads =>
    intro layout gap rest hgap hbehind
    have hgreatest : number ≤ Numeral.greatestUnsigned := Nat.le_trans hbound (by decide)
    have hread : Numeral.read ('-' :: (decimal number ++ rest)) = .ok (.negative (-number), rest) := by
      rw [Numeral.read, Numeral.unsigned_decimal hgreatest hbehind false, hsigned]
    have hnumeral : Reader.numeral (gap ++ '-' :: (decimal number ++ rest)) = .ok (.negative (-number), rest) := by
      rw [Reader.numeral, hgap.skipSpaces_append (by decide)]
      dsimp only
      rw [if_pos (.inl rfl), hread]
    rw [hinteger, List.cons_append]
    simp only [Reader.number, hnumeral, bind, Except.bind, hmeaning]

/-- A word is read back with its sign. -/
theorem recovers_word {value : Int} (hfits : fitsWord value) : Recovers Reader.word (.integer value) value := by
  unfold fitsWord leastWord greatestWord at hfits
  obtain ⟨number, rfl | rfl⟩ := value.eq_nat_or_neg
  · have hmeaning : (if (number : Int) ≤ greatestWord then some (number : Int) else none) = some (number : Int) :=
      if_pos hfits.2
    exact recovers_number (by unfold Numeral.greatestUnsigned; omega) hmeaning
  · rcases Nat.eq_zero_or_pos number with rfl | hpositive
    · exact recovers_number (Nat.zero_le _) rfl
    · exact recovers_negative hpositive (by omega) rfl

end WordSums.Json
