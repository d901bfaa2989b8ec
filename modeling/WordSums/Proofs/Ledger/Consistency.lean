import WordSums.Ledger.Binary
import WordSums.Ledger.Written
import WordSums.Proofs.Ledger.Lookup

/-!
# Accepted snapshots

A snapshot is accepted when its version is the supported one, no question has two records, and every
record is sound: it counts something and was not last seen before it was first seen. The ledger of an
accepted snapshot has the snapshot's records and no others. A service begins with such a ledger or with one
that has no records.
-/

namespace WordSums

namespace Snapshot

/-- A record that counts something and was not last seen before it was first seen. -/
structure Sound (record : FailureRecord) : Prop where
  counts : record.frequency ≠ 0
  forward : record.firstSeen ≤ record.lastSeen

variable {seen : List String} {record : FailureRecord} {records : List FailureRecord}

theorem recordFault?_cons_eq_none_iff :
    recordFault? seen (record :: records) = none ↔
      (record.expression ∉ seen ∧ Sound record) ∧ recordFault? (record.expression :: seen) records = none := by
  rw [recordFault?]
  by_cases hseen : record.expression ∈ seen
  · simp [hseen]
  · by_cases hzero : record.frequency = 0
    · have hunsound : ¬ Sound record := fun hsound => hsound.counts hzero
      simp [hseen, hzero, hunsound]
    · by_cases hforward : record.firstSeen ≤ record.lastSeen
      · have hsound : Sound record := ⟨hzero, hforward⟩
        simp [hseen, hzero, hforward, hsound]
      · have hunsound : ¬ Sound record := fun hsound => hforward hsound.forward
        simp [hseen, hzero, hforward, hunsound]

theorem recordFault?_eq_none_iff :
    recordFault? seen records = none ↔
      (∀ record ∈ records, record.expression ∉ seen) ∧ (records.map FailureRecord.expression).Nodup ∧
        ∀ record ∈ records, Sound record := by
  induction records generalizing seen with
  | nil => simp [recordFault?]
  | cons record records ih =>
    rw [recordFault?_cons_eq_none_iff, ih, List.forall_mem_cons, List.forall_mem_cons, List.map_cons, List.nodup_cons]
    simp only [List.mem_cons, not_or, List.mem_map]
    grind

theorem recordFault?_nil_eq_none_iff :
    recordFault? [] records = none ↔
      (records.map FailureRecord.expression).Nodup ∧ ∀ record ∈ records, Sound record := by
  rw [recordFault?_eq_none_iff]
  simp

theorem check_eq_ok_iff {snapshot accepted : Snapshot} :
    snapshot.check = .ok accepted ↔
      accepted = snapshot ∧ snapshot.version = supportedVersion ∧
        (snapshot.records.map FailureRecord.expression).Nodup ∧ ∀ record ∈ snapshot.records, Sound record := by
  rw [← recordFault?_nil_eq_none_iff]
  unfold check
  by_cases hversion : snapshot.version = supportedVersion
  · rw [if_neg (not_not_intro hversion)]
    cases hfault : recordFault? [] snapshot.records with
    | none => simp [hversion, eq_comm]
    | some fault => simp
  · rw [if_pos hversion]
    simp [hversion]

end Snapshot

/-! ### Ledgers to begin with -/

namespace Ledger

variable {ledger : Ledger} {expression : String}

theorem inOrder_foldl_insert {records : List FailureRecord} (hinOrder : InOrder ledger.records) :
    InOrder (records.foldl insert ledger).records := by
  induction records generalizing ledger with
  | nil => exact hinOrder
  | cons record records ih => exact ih (inOrder_insertSorted hinOrder)

theorem get?_foldl_insert {records : List FailureRecord} (hdistinct : (records.map FailureRecord.expression).Nodup) :
    (records.foldl insert ledger).get? expression =
      (records.find? fun record => record.expression = expression).or (ledger.get? expression) := by
  induction records generalizing ledger with
  | nil => rfl
  | cons record records ih =>
    rw [List.map_cons, List.nodup_cons] at hdistinct
    rw [List.foldl_cons, ih hdistinct.2, get?_insert, find?_expression_cons]
    by_cases hrecord : record.expression = expression
    · have hnone : (records.find? fun other => other.expression = expression) = none := by
        rw [List.find?_eq_none]
        intro other hother hsame
        exact hdistinct.1 (List.mem_map.2 ⟨other, hother, (of_decide_eq_true hsame).trans hrecord.symm⟩)
      rw [hnone, if_pos hrecord, if_pos hrecord]
      rfl
    · rw [if_neg hrecord, if_neg hrecord]

theorem foldl_insert_of_inOrder {before records : List FailureRecord} (hinOrder : InOrder (before ++ records)) :
    records.foldl insert ⟨before⟩ = ⟨before ++ records⟩ := by
  induction records generalizing before with
  | nil => rw [List.append_nil, List.foldl_nil]
  | cons record records ih =>
    have hlast : ∀ other ∈ before, other.expression < record.expression := by
      intro other hother
      exact (List.pairwise_append.1 hinOrder).2.2 other hother record List.mem_cons_self
    have hinserted : insert ⟨before⟩ record = ⟨before ++ [record]⟩ := congrArg Ledger.mk (insertSorted_of_last hlast)
    rw [List.append_cons] at hinOrder ⊢
    rw [List.foldl_cons, hinserted, ih hinOrder]

/-- The ledger is that of its own snapshot. -/
theorem ofSnapshot_snapshot (hinOrder : InOrder ledger.records) (id : SnapshotId) (now : Time.Timestamp) :
    ofSnapshot (ledger.snapshot id now) = ledger := by
  have hfromEmpty : InOrder ([] ++ ledger.records) := hinOrder
  exact foldl_insert_of_inOrder hfromEmpty

/-- A ledger that a service can begin with, and the records in it: none, or those of an accepted snapshot. -/
inductive Opens : Ledger → List FailureRecord → Prop
  | empty : Opens Ledger.empty []
  | restored {snapshot accepted : Snapshot} (haccepted : snapshot.check = .ok accepted) :
      Opens (ofSnapshot accepted) accepted.records

namespace Opens

variable {records : List FailureRecord}

/-- What a text holds, or what bytes begin with, is checked before a ledger is made of it. -/
theorem of_ofJson {text : String} {accepted : Snapshot} (hread : Snapshot.ofJson text = .ok accepted) :
    Opens (ofSnapshot accepted) accepted.records := by
  unfold Snapshot.ofJson at hread
  split at hread
  · exact .restored hread
  · cases hread

theorem inOrder (hopens : Opens ledger records) : InOrder ledger.records := by
  cases hopens with
  | empty => exact List.Pairwise.nil
  | restored _ => exact inOrder_foldl_insert List.Pairwise.nil

theorem get?_eq (hopens : Opens ledger records) (expression : String) :
    ledger.get? expression = records.find? fun record => record.expression = expression := by
  cases hopens with
  | empty => rfl
  | restored haccepted =>
    obtain ⟨rfl, _, hdistinct, _⟩ := Snapshot.check_eq_ok_iff.1 haccepted
    have hempty : Ledger.empty.get? expression = none := rfl
    rw [ofSnapshot, get?_foldl_insert hdistinct, hempty, Option.or_none]

theorem get?_eq_some_iff (hopens : Opens ledger records) {record : FailureRecord} :
    ledger.get? expression = some record ↔ record ∈ records ∧ record.expression = expression := by
  rw [hopens.get?_eq]
  cases hopens with
  | empty => simp
  | restored haccepted =>
    obtain ⟨rfl, _, hdistinct, _⟩ := Snapshot.check_eq_ok_iff.1 haccepted
    exact find?_expression_eq_some_iff hdistinct

theorem get?_eq_none (hopens : Opens ledger records) (hnew : ∀ record ∈ records, record.expression ≠ expression) :
    ledger.get? expression = none := by
  refine Option.eq_none_iff_forall_ne_some.2 fun record hrecord => ?_
  obtain ⟨hmem, hsame⟩ := hopens.get?_eq_some_iff.1 hrecord
  exact hnew record hmem hsame

theorem isSome_get?_iff (hopens : Opens ledger records) :
    (ledger.get? expression).isSome ↔ ∃ record ∈ records, record.expression = expression := by
  simp [Option.isSome_iff_exists, hopens.get?_eq_some_iff]

theorem sound (hopens : Opens ledger records) {record : FailureRecord} (hrecord : record ∈ records) :
    Snapshot.Sound record := by
  cases hopens with
  | empty => exact absurd hrecord List.not_mem_nil
  | restored haccepted =>
    obtain ⟨rfl, _, _, hsound⟩ := Snapshot.check_eq_ok_iff.1 haccepted
    exact hsound record hrecord

end Opens

end Ledger

end WordSums
