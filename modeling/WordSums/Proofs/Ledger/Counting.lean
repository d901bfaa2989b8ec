import WordSums.Proofs.Ledger.Lookup

/-!
# Counting failures

Counting a failure concerns the record of its question only, so what a sequence of failures leaves behind
is known question by question. The record begins as the one that the ledger had, or else as the first
failure opens it; after that only its frequency and the time it was last seen change, by one failure after
the other, until the frequency has reached the greatest number and everything stays as it is.
-/

namespace WordSums

open WordSums.Time

/-- A failure to be counted, with the reading of the clock that was taken for it. -/
structure Failure where
  expression : String
  method : Method
  kind : FaultKind
  time : Timestamp
deriving DecidableEq

/-- The greatest number that a frequency can reach. -/
def greatestFrequency : Nat := UInt64.size - 1

namespace FailureRecord

def countAt (record : FailureRecord) (time : Timestamp) : FailureRecord :=
  if record.frequency.toNat < greatestFrequency then
    { record with frequency := record.frequency + 1, lastSeen := time }
  else record

theorem expression_countAt (record : FailureRecord) (time : Timestamp) :
    (record.countAt time).expression = record.expression := by
  unfold countAt
  split <;> rfl

/-- The last of the readings at which a record can still be counted. -/
def lastCounted? (record : FailureRecord) (times : List Timestamp) : Option Timestamp :=
  (times.take (greatestFrequency - record.frequency.toNat)).getLast?

/-- What a record has become after failures at some readings of the clock: what was fixed at first is as it
was, every failure that could be counted has been, and the last of these says when the question was seen. -/
structure Continues (record : FailureRecord) (times : List Timestamp) (after : FailureRecord) : Prop where
  expression : after.expression = record.expression
  method : after.method = record.method
  kind : after.kind = record.kind
  firstSeen : after.firstSeen = record.firstSeen
  frequency : after.frequency.toNat = min (record.frequency.toNat + times.length) greatestFrequency
  lastSeen : after.lastSeen = (record.lastCounted? times).getD record.lastSeen

theorem frequency_le (record : FailureRecord) : record.frequency.toNat ≤ greatestFrequency := by
  have hbound := record.frequency.toNat_lt_size
  unfold greatestFrequency
  omega

theorem toNat_add_one {frequency : UInt64} (hroom : frequency.toNat < greatestFrequency) :
    (frequency + 1).toNat = frequency.toNat + 1 := by
  have hsize : greatestFrequency + 1 = 2 ^ 64 := rfl
  rw [UInt64.toNat_add, UInt64.toNat_one, Nat.mod_eq_of_lt (by omega)]

theorem continues_foldl (record : FailureRecord) (times : List Timestamp) :
    record.Continues times (times.foldl countAt record) := by
  induction times generalizing record with
  | nil =>
    refine ⟨rfl, rfl, rfl, rfl, ?_, ?_⟩
    · exact (Nat.min_eq_left record.frequency_le).symm
    · rw [lastCounted?, List.take_nil]
      rfl
  | cons time times ih =>
    -- either the first reading is counted, and one less can follow, or none ever will be
    have hrest := ih (record.countAt time)
    rw [List.foldl_cons]
    by_cases hroom : record.frequency.toNat < greatestFrequency
    · have hcounted : record.countAt time = { record with frequency := record.frequency + 1, lastSeen := time } :=
        if_pos hroom
      have hone := toNat_add_one hroom
      have hleft : greatestFrequency - record.frequency.toNat = greatestFrequency - (record.frequency.toNat + 1) + 1 := by
        omega
      rw [hcounted] at hrest ⊢
      refine ⟨hrest.expression, hrest.method, hrest.kind, hrest.firstSeen, ?_, ?_⟩
      · rw [hrest.frequency, hone, List.length_cons]
        omega
      · rw [hrest.lastSeen, lastCounted?, lastCounted?, hone, hleft, List.take_succ_cons, List.getLast?_cons]
        rfl
    · have hfull : record.frequency.toNat = greatestFrequency := Nat.le_antisymm record.frequency_le (Nat.not_lt.1 hroom)
      have hsame : record.countAt time = record := if_neg hroom
      rw [hsame] at hrest ⊢
      refine ⟨hrest.expression, hrest.method, hrest.kind, hrest.firstSeen, ?_, ?_⟩
      · rw [hrest.frequency, List.length_cons]
        omega
      · rw [hrest.lastSeen, lastCounted?, lastCounted?, hfull, Nat.sub_self]
        rfl

end FailureRecord

/-- The record that a failure opens, before it is counted. -/
def Failure.opened (failure : Failure) : FailureRecord :=
  ⟨failure.expression, failure.method, failure.kind, 0, failure.time, failure.time⟩

def Failure.ofExpression (failures : List Failure) (expression : String) : List Failure :=
  failures.filter fun failure => failure.expression = expression

namespace Ledger

def count (ledger : Ledger) (failure : Failure) : Ledger :=
  (ledger.increment failure.expression failure.method failure.kind failure.time).value.2

def countAll (ledger : Ledger) (failures : List Failure) : Ledger :=
  failures.foldl count ledger

/-- The record to which a failure is counted: the one that its question has, or the one that it opens. -/
def recordOf (ledger : Ledger) (failure : Failure) : FailureRecord :=
  (ledger.get? failure.expression).getD failure.opened

variable {ledger : Ledger} {failure : Failure}

theorem expression_recordOf (ledger : Ledger) (failure : Failure) :
    (ledger.recordOf failure).expression = failure.expression := by
  unfold recordOf
  cases hget : ledger.get? failure.expression with
  | none => rfl
  | some record => exact expression_of_get? hget

theorem get?_of_full (hfull : ¬ (ledger.recordOf failure).frequency.toNat < greatestFrequency) :
    ledger.get? failure.expression = some (ledger.recordOf failure) := by
  unfold recordOf at hfull ⊢
  cases hget : ledger.get? failure.expression with
  | none =>
    -- a record that the failure itself opens has room
    rw [hget] at hfull
    exact absurd (Nat.zero_lt_of_ne_zero (by decide)) hfull
  | some record => rfl

theorem increment_eq (ledger : Ledger) (failure : Failure) :
    (ledger.increment failure.expression failure.method failure.kind failure.time).value =
      if (ledger.recordOf failure).frequency.toNat < greatestFrequency then
        (.ok ((ledger.recordOf failure).frequency + 1),
          ledger.insert ((ledger.recordOf failure).countAt failure.time))
      else (.error ⟨failure.expression⟩, ledger) := by
  have hsize : (ledger.recordOf failure).frequency.toNat + 1 < UInt64.size ↔
      (ledger.recordOf failure).frequency.toNat < greatestFrequency := Nat.lt_sub_iff_add_lt.symm
  have hrecord : ledger.recordFor failure.expression failure.method failure.kind failure.time =
      ledger.recordOf failure := rfl
  unfold increment FailureRecord.countAt
  rw [hrecord]
  dsimp only
  by_cases hroom : (ledger.recordOf failure).frequency.toNat < greatestFrequency
  · rw [if_pos (hsize.2 hroom), if_pos hroom, if_pos hroom]
  · rw [if_neg (mt hsize.1 hroom), if_neg hroom]

theorem count_of_room (hroom : (ledger.recordOf failure).frequency.toNat < greatestFrequency) :
    ledger.count failure = ledger.insert ((ledger.recordOf failure).countAt failure.time) := by
  rw [count, increment_eq, if_pos hroom]

theorem count_of_full (hfull : ¬ (ledger.recordOf failure).frequency.toNat < greatestFrequency) :
    ledger.count failure = ledger := by
  rw [count, increment_eq, if_neg hfull]

/-- Counting a failure changes the record of its question and no other. -/
theorem get?_count (ledger : Ledger) (failure : Failure) (expression : String) :
    (ledger.count failure).get? expression =
      if failure.expression = expression then
        some (((ledger.get? expression).getD failure.opened).countAt failure.time)
      else ledger.get? expression := by
  by_cases hroom : (ledger.recordOf failure).frequency.toNat < greatestFrequency
  · rw [count_of_room hroom, get?_insert, FailureRecord.expression_countAt, expression_recordOf]
    by_cases hsame : failure.expression = expression
    · subst hsame
      rfl
    · rw [if_neg hsame, if_neg hsame]
  · rw [count_of_full hroom]
    by_cases hsame : failure.expression = expression
    · subst hsame
      rw [if_pos rfl, get?_of_full hroom, Option.getD_some, FailureRecord.countAt, if_neg hroom]
    · rw [if_neg hsame]

theorem inOrder_count (hinOrder : InOrder ledger.records) : InOrder (ledger.count failure).records := by
  by_cases hroom : (ledger.recordOf failure).frequency.toNat < greatestFrequency
  · rw [count_of_room hroom]
    exact inOrder_insertSorted hinOrder
  · rw [count_of_full hroom]
    exact hinOrder

theorem inOrder_countAll (hinOrder : InOrder ledger.records) (failures : List Failure) :
    InOrder (ledger.countAll failures).records := by
  induction failures generalizing ledger with
  | nil => exact hinOrder
  | cons failure failures ih => exact ih (inOrder_count hinOrder)

/-- The record with which the counting of a question's failures begins, if there is one. -/
def origin? (known : Option FailureRecord) (failures : List Failure) : Option FailureRecord :=
  known.or (failures.head?.map Failure.opened)

theorem get?_countAll (ledger : Ledger) (failures : List Failure) (expression : String) :
    (ledger.countAll failures).get? expression =
      (origin? (ledger.get? expression) (Failure.ofExpression failures expression)).map fun record =>
        ((Failure.ofExpression failures expression).map Failure.time).foldl FailureRecord.countAt record := by
  induction failures generalizing ledger with
  | nil => cases hget : ledger.get? expression <;> simp [countAll, origin?, Failure.ofExpression, hget]
  | cons failure failures ih =>
    have hrest : (ledger.countAll (failure :: failures)).get? expression =
        ((ledger.count failure).countAll failures).get? expression := rfl
    -- a first failure of the question opens the record in which the others are counted
    rw [hrest, ih, get?_count, Failure.ofExpression, Failure.ofExpression, List.filter_cons]
    by_cases hsame : failure.expression = expression
    · rw [if_pos hsame, if_pos (decide_eq_true hsame)]
      cases ledger.get? expression <;> rfl
    · rw [if_neg hsame, if_neg (by simpa using hsame)]

theorem isSome_get?_countAll (ledger : Ledger) (failures : List Failure) (expression : String) :
    ((ledger.countAll failures).get? expression).isSome ↔
      (ledger.get? expression).isSome ∨ ∃ failure ∈ failures, failure.expression = expression := by
  have hcounted : (Failure.ofExpression failures expression).head?.isSome ↔
      ∃ failure ∈ failures, failure.expression = expression := by
    simp [Failure.ofExpression]
  rw [get?_countAll, Option.isSome_map, origin?, Option.isSome_or, Option.isSome_map, Bool.or_eq_true, hcounted]

theorem exists_continues {failures : List Failure} {expression : String} {record : FailureRecord}
    (hrecord : (ledger.countAll failures).get? expression = some record) :
    ∃ origin, origin? (ledger.get? expression) (Failure.ofExpression failures expression) = some origin ∧
      origin.Continues ((Failure.ofExpression failures expression).map Failure.time) record := by
  rw [get?_countAll] at hrecord
  obtain ⟨origin, horigin, rfl⟩ := Option.map_eq_some_iff.1 hrecord
  exact ⟨origin, horigin, origin.continues_foldl _⟩

/-- A question that had a record still has that one, with its failures counted in it. -/
theorem continues_of_known {failures : List Failure} {expression : String} {first record : FailureRecord}
    (hknown : ledger.get? expression = some first)
    (hrecord : (ledger.countAll failures).get? expression = some record) :
    first.Continues ((Failure.ofExpression failures expression).map Failure.time) record := by
  obtain ⟨origin, horigin, hcontinues⟩ := exists_continues hrecord
  rw [hknown] at horigin
  obtain rfl : first = origin := Option.some_inj.1 horigin
  exact hcontinues

/-- A question that had no record has the one that its first failure opened. -/
theorem continues_of_unknown {failures : List Failure} {expression : String} {record : FailureRecord}
    (hunknown : ledger.get? expression = none)
    (hrecord : (ledger.countAll failures).get? expression = some record) :
    ∃ first later, Failure.ofExpression failures expression = first :: later ∧
      first.opened.Continues ((first :: later).map Failure.time) record := by
  obtain ⟨origin, horigin, hcontinues⟩ := exists_continues hrecord
  rw [hunknown] at horigin
  cases hfailures : Failure.ofExpression failures expression with
  | nil =>
    rw [hfailures] at horigin
    exact absurd horigin nofun
  | cons first later =>
    rw [hfailures] at horigin hcontinues
    obtain rfl : first.opened = origin := Option.some_inj.1 horigin
    exact ⟨first, later, rfl, hcontinues⟩

end Ledger

end WordSums
