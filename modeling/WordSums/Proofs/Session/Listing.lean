import Mathlib.Data.List.Forall2
import WordSums.Proofs.Service.Accounting
import WordSums.Proofs.Text.Decimal
import WordSums.Proofs.Text.Lines
import WordSums.Session.Command

/-!
# What a list of failures tells

A failure is listed with its endpoint, its frequency and its kind at the end of the line, each behind a semicolon
and none with a semicolon in it. So a line is read from its end, and what is left at its start is the question, in
its quotation marks. But the question stands there as it was asked: a line feed in it breaks the line, and the
pieces may look like lines of other failures. Only where no question holds a line feed does the list have a line
for every record and tell the records apart.
-/

namespace WordSums

open WordSums.Http WordSums.Text WordSums.Time

namespace Text

/-- A text is told apart from what stands behind the last separator. -/
theorem append_separator_inj {α : Type} {separator : α} {before others after rest : List α}
    (hafter : separator ∉ after) (hrest : separator ∉ rest)
    (hsame : before ++ separator :: after = others ++ separator :: rest) : before = others ∧ after = rest := by
  obtain ⟨between, hothers, htail⟩ | ⟨between, hbefore, htail⟩ := List.append_eq_append_iff.1 hsame
  · cases between with
    | nil => exact ⟨by rw [hothers, List.append_nil], (List.cons.inj htail).2⟩
    | cons first between =>
      rw [(List.cons.inj htail).2] at hafter
      exact absurd (List.mem_append_right between List.mem_cons_self) hafter
  · cases between with
    | nil => exact ⟨by rw [hbefore, List.append_nil], (List.cons.inj htail).2.symm⟩
    | cons first between =>
      rw [(List.cons.inj htail).2] at hrest
      exact absurd (List.mem_append_right between List.mem_cons_self) hrest

end Text

theorem FaultKind.words_injective : Function.Injective FaultKind.words := by
  intro left right hwords
  cases left <;> cases right <;> first | rfl | exact absurd hwords (by decide)

namespace FailureRecord

/-- A question of one line. -/
def HasOneLine (record : FailureRecord) : Prop := '\n' ∉ record.expression.toList

instance (record : FailureRecord) : Decidable record.HasOneLine :=
  inferInstanceAs (Decidable ('\n' ∉ record.expression.toList))

/-- The line on which a record is listed, without the line feed. -/
def listedLine (record : FailureRecord) : List Char :=
  '\t' :: '"' :: record.expression.toList ++ ['"'] ++ ';' :: (" on ".toList ++ record.method.endpoint.toList) ++
    ';' :: (' ' :: decimal record.frequency.toNat ++ " times".toList) ++ ';' :: (' ' :: record.kind.words.toList)

theorem toList_listedLine (record : FailureRecord) :
    (Reply.listedLine (.ofRecord record)).toList = record.listedLine ++ ['\n'] := by
  have hfrequency : toString record.frequency = String.ofList (decimal record.frequency.toNat) := rfl
  simp [Reply.listedLine, ListedFailure.ofRecord, listedLine, hfrequency]

section Parts

variable {char : Char} (hsign : char = ';' ∨ char = '\n')
include hsign

theorem notMem_listedEndpoint (method : Method) : char ∉ " on ".toList ++ method.endpoint.toList := by
  obtain rfl | rfl := hsign <;> cases method <;> decide

theorem notMem_listedFrequency (frequency : Nat) : char ∉ ' ' :: decimal frequency ++ " times".toList := by
  intro hmem
  obtain hmem | hmem := List.mem_append.1 hmem
  · obtain rfl | hdigit := List.mem_cons.1 hmem
    · exact absurd hsign (by decide)
    · have hdigit := isDigit_of_mem_decimal hdigit
      obtain rfl | rfl := hsign <;> exact absurd hdigit (by decide)
  · obtain rfl | rfl := hsign <;> exact absurd hmem (by decide)

theorem notMem_listedKind (kind : FaultKind) : char ∉ ' ' :: kind.words.toList := by
  obtain rfl | rfl := hsign <;> cases kind <;> decide

end Parts

/-- A line tells what is listed of the record, whatever its question is. -/
theorem ofRecord_eq_of_listedLine_eq {left right : FailureRecord} (hlines : left.listedLine = right.listedLine) :
    ListedFailure.ofRecord left = ListedFailure.ofRecord right := by
  obtain ⟨hfront, hkind⟩ :=
    append_separator_inj (notMem_listedKind (.inl rfl) _) (notMem_listedKind (.inl rfl) _) hlines
  obtain ⟨hfront, hfrequency⟩ :=
    append_separator_inj (notMem_listedFrequency (.inl rfl) _) (notMem_listedFrequency (.inl rfl) _) hfront
  obtain ⟨hquestion, hendpoint⟩ :=
    append_separator_inj (notMem_listedEndpoint (.inl rfl) _) (notMem_listedEndpoint (.inl rfl) _) hfront
  have hexpression : left.expression = right.expression := String.toList_injective (by simpa using hquestion)
  have hendpoint := String.toList_injective (List.append_cancel_left hendpoint)
  have hdigits := (List.cons.inj (List.append_cancel_right hfrequency)).2
  have hfrequency := UInt64.toNat_inj.1 (decimal_injective hdigits)
  have hkind := FaultKind.words_injective (String.toList_injective (List.cons.inj hkind).2)
  rw [ListedFailure.ofRecord, ListedFailure.ofRecord, hexpression, hendpoint, hfrequency, hkind]

theorem count_listedLine (record : FailureRecord) :
    record.listedLine.count '\n' = record.expression.toList.count '\n' := by
  have hendpoint := List.count_eq_zero.2 (notMem_listedEndpoint (.inr rfl) record.method)
  have hfrequency := List.count_eq_zero.2 (notMem_listedFrequency (.inr rfl) record.frequency.toNat)
  have hkind := List.count_eq_zero.2 (notMem_listedKind (.inr rfl) record.kind)
  have hquestion : ('\t' :: '"' :: record.expression.toList ++ ['"']).count '\n' =
      record.expression.toList.count '\n' := by simp
  rw [listedLine, List.count_append, List.count_cons_of_ne (by decide), List.count_append,
    List.count_cons_of_ne (by decide), List.count_append, List.count_cons_of_ne (by decide), hquestion, hendpoint,
    hfrequency, hkind, Nat.add_zero]

end FailureRecord

namespace Reply

theorem lines_listing (records : List FailureRecord) :
    lines (listing records).output.toList = records.flatMap fun record => lines (record.listedLine ++ ['\n']) := by
  rw [listing, String.toList_join, List.flatMap_map]
  simp only [FailureRecord.toList_listedLine]
  exact lines_flatMap_lineFeed FailureRecord.listedLine records

/-- Besides the line for every record there is a line for every line feed in a question. -/
theorem length_lines_listing (records : List FailureRecord) :
    (lines (listing records).output.toList).length =
      records.length + (records.flatMap fun record => record.expression.toList).count '\n' := by
  rw [lines_listing]
  induction records with
  | nil => rfl
  | cons record records ih =>
    rw [List.flatMap_cons, List.length_append, ih, length_lines_lineFeed, FailureRecord.count_listedLine,
      List.length_cons, List.flatMap_cons, List.count_append]
    omega

theorem lines_listing_of_hasOneLine {records : List FailureRecord} (hlines : ∀ record ∈ records, record.HasOneLine) :
    lines (listing records).output.toList = records.map FailureRecord.listedLine := by
  rw [lines_listing]
  induction records with
  | nil => rfl
  | cons record records ih =>
    obtain ⟨hrecord, hrecords⟩ := List.forall_mem_cons.1 hlines
    have hline : '\n' ∉ record.listedLine := by
      rw [← List.count_eq_zero, FailureRecord.count_listedLine, List.count_eq_zero]
      exact hrecord
    rw [List.flatMap_cons, lines_lineFeed_of_notMem hline, ih hrecords, List.map_cons, List.singleton_append]

theorem length_lines_listing_eq_iff {records : List FailureRecord} :
    (lines (listing records).output.toList).length = records.length ↔ ∀ record ∈ records, record.HasOneLine := by
  rw [length_lines_listing, Nat.add_eq_left, List.count_eq_zero]
  simp [FailureRecord.HasOneLine]

theorem listing_injOn {records others : List FailureRecord} (hrecords : ∀ record ∈ records, record.HasOneLine)
    (hothers : ∀ record ∈ others, record.HasOneLine) (hsame : (listing records).output = (listing others).output) :
    records.map ListedFailure.ofRecord = others.map ListedFailure.ofRecord := by
  have hlines : records.map FailureRecord.listedLine = others.map FailureRecord.listedLine := by
    rw [← lines_listing_of_hasOneLine hrecords, hsame, lines_listing_of_hasOneLine hothers]
  rw [← List.forall₂_eq_eq_eq, List.forall₂_map_left_iff, List.forall₂_map_right_iff] at hlines ⊢
  exact hlines.imp fun _ _ => FailureRecord.ofRecord_eq_of_listedLine_eq

end Reply

namespace Service

/-- A list has one line for every record just where no question on record holds a line feed, and services of which
this is so have equal lists only if they have the same questions on record, with the same endpoints, frequencies
and kinds. -/
theorem failures_listed (service other : Service) (now : Timestamp) :
    ((lines (service.execute now .failures).1.output.toList).length = service.failures.length ↔
        ∀ record ∈ service.failures, record.HasOneLine) ∧
      ((∀ record ∈ service.failures, record.HasOneLine) → (∀ record ∈ other.failures, record.HasOneLine) →
        (service.execute now .failures).1.output = (other.execute now .failures).1.output →
        service.failures.map ListedFailure.ofRecord = other.failures.map ListedFailure.ofRecord) :=
  ⟨Reply.length_lines_listing_eq_iff, Reply.listing_injOn⟩

theorem failures_listed_two :
    let ask (question : String) : Call := ⟨.evaluate, question, .epoch⟩
    let service := (standard {} .empty).serveAll [ask "a", ask "b\"; on /validate; 7 times; invalid syntax"]
    let other := (standard {} .empty).serveAll [ask "b\"; on /validate; 7 times; invalid syntax", ask "a"]
    (lines (service.execute .epoch .failures).1.output.toList).length = service.failures.length ∧
      service.failures.map ListedFailure.ofRecord = other.failures.map ListedFailure.ofRecord := by
  intro ask service other
  have hservice : ∀ record ∈ service.failures, record.HasOneLine := by decide +kernel
  have hother : ∀ record ∈ other.failures, record.HasOneLine := by decide +kernel
  have hsame : (service.execute .epoch .failures).1.output = (other.execute .epoch .failures).1.output := by
    decide +kernel
  obtain ⟨hlength, hlisted⟩ := failures_listed service other .epoch
  exact ⟨hlength.2 hservice, hlisted hservice hother hsame⟩

/-- One question can be listed as two others are, on a line for each of them. -/
theorem failures_listed_alike :
    let ask (question : String) : Call := ⟨.evaluate, question, .epoch⟩
    let one := (standard {} .empty).serveAll [ask "a\"; on /evaluate; 1 times; non-math question\n\t\"b"]
    let two := (standard {} .empty).serveAll [ask "a", ask "b"]
    (one.execute .epoch .failures).1.output = (two.execute .epoch .failures).1.output ∧
      one.failures.length = 1 ∧ (lines (one.execute .epoch .failures).1.output.toList).length = 2 ∧
      one.failures.map ListedFailure.ofRecord ≠ two.failures.map ListedFailure.ofRecord := by
  decide +kernel

end Service

end WordSums
