import WordSums.Ledger.Binary
import WordSums.Proofs.Text.Bytes
import WordSums.Proofs.Time.Written

/-!
# Snapshots that are read back as bytes

A reader restores a value from bytes if it takes exactly these bytes off the start of others. Numbers are
restored if they fit their count of bytes, and whatever is written after its length if the length does; all
other parts are put together from these. The lengths of what a snapshot holds fit, because they count things
that are held in memory.
-/

namespace WordSums

open WordSums.Text WordSums.Time

namespace Binary

/-- A reader takes bytes off the start of others as a value. -/
def Restores {α : Type} (reader : Reader α) (bytes : List UInt8) (value : α) : Prop :=
  ∀ rest, reader (bytes ++ rest) = some (value, rest)

theorem restores_number (count : Nat) {value : Nat} (hbound : value < 256 ^ count) :
    Restores (readNumber count) (number count value) value := by
  intro rest
  induction count generalizing value with
  | zero =>
    have hzero : value = 0 := Nat.lt_one_iff.1 hbound
    rw [hzero]
    rfl
  | succ count ih =>
    have hless : value / 256 < 256 ^ count := Nat.div_lt_of_lt_mul (by rwa [Nat.pow_succ'] at hbound)
    have hbyte : (UInt8.ofNat value).toNat + 256 * (value / 256) = value := by
      rw [UInt8.toNat_ofNat']
      omega
    change ((readNumber count (number count (value / 256) ++ rest)).map _) = _
    rw [ih hless, Option.map_some, hbyte]

theorem restores_counted (bytes : List UInt8) (hlength : bytes.length < 2 ^ 64) :
    Restores readCounted (counted bytes) bytes := by
  intro rest
  have hcount := restores_number 8 hlength (bytes ++ rest)
  rw [counted, List.append_assoc, readCounted, hcount]
  change (if bytes.length ≤ (bytes ++ rest).length then
    some ((bytes ++ rest).take bytes.length, (bytes ++ rest).drop bytes.length) else none) = _
  rw [if_pos (by simp), List.take_left, List.drop_left]

theorem restores_place {α : Type} [DecidableEq α] {all : List α} {item : α} (hmem : item ∈ all)
    (hlength : all.length < 2 ^ 32) : Restores (readPlace all) (place all item) item := by
  intro rest
  have hplace : all.idxOf item < all.length := List.idxOf_lt_length_of_mem hmem
  have hnumber := restores_number 4 (Nat.lt_trans hplace hlength) rest
  rw [place, readPlace, hnumber]
  change (all[all.idxOf item]?.bind _) = _
  rw [List.getElem?_eq_getElem hplace, List.getElem_idxOf hplace, Option.bind_some]

theorem restores_many {α : Type} {reader : Reader α} {bytes : α → List UInt8} {all : List α}
    (hall : ∀ one ∈ all, Restores reader (bytes one) one) :
    Restores (readMany reader all.length) (all.flatMap bytes) all := by
  intro rest
  induction all with
  | nil => rfl
  | cons one others ih =>
    have hone := hall one List.mem_cons_self (others.flatMap bytes ++ rest)
    have hothers := ih fun other hother => hall other (List.mem_cons_of_mem _ hother)
    rw [List.flatMap_cons, List.append_assoc]
    change ((reader _).bind _) = _
    rw [hone]
    change ((readMany reader others.length _).bind _) = _
    rw [hothers]
    rfl

/-! ### Texts -/

theorem restores_text {written : String} (hsize : written.utf8ByteSize < 2 ^ 64) :
    Restores readText (text written) written := by
  intro rest
  have hcounted := restores_counted written.toUTF8.toList (by rwa [length_toUTF8]) rest
  rw [text, readText, hcounted]
  change ((String.fromUTF8? ⟨written.toUTF8.toList.toArray⟩).bind _) = _
  rw [fromUTF8?_toUTF8, Option.bind_some]

theorem restores_time (time : Timestamp) : Restores readTime (text time.text) time := by
  intro rest
  have hsize : time.text.utf8ByteSize < 2 ^ 64 := by
    have hbound := time.utf8ByteSize_text_le
    omega
  simp only [readTime, restores_text hsize rest, Option.bind_eq_bind, Option.bind_some, time.read?_text]

end Binary

open Binary

theorem FailureRecord.restores {record : FailureRecord} (hsize : record.expression.utf8ByteSize < 2 ^ 64) :
    Restores readBytes record.toBytes record := by
  intro rest
  have hmethod : Restores (readPlace Method.all) (place Method.all record.method) record.method :=
    restores_place (by cases record.method <;> decide) (by decide)
  have hkind : Restores (readPlace FaultKind.all) (place FaultKind.all record.kind) record.kind :=
    restores_place (by cases record.kind <;> decide) (by decide)
  have hfrequency := restores_number 8 record.frequency.toNat_lt
  simp only [toBytes, readBytes, List.append_assoc, Option.bind_eq_bind, Option.bind_some, restores_text hsize _,
    hmethod _, hkind _, hfrequency _, restores_time _ _, UInt64.ofNat_toNat]

namespace Snapshot

/-- The snapshot's lengths can be counted in 64 bits, like all lengths of what is held in memory. -/
structure Addressable (snapshot : Snapshot) : Prop where
  records : snapshot.records.length < 2 ^ 64
  expressions : ∀ record ∈ snapshot.records, record.expression.utf8ByteSize < 2 ^ 64

theorem Addressable.restores {snapshot : Snapshot} (haddressable : snapshot.Addressable) :
    Restores readBytes snapshot.toBytes snapshot := by
  intro rest
  have hversion := restores_number 4 snapshot.version.toNat_lt
  have hid := restores_counted snapshot.id.bytes (by rw [snapshot.id.length_eq]; decide)
  have hcount := restores_number 8 haddressable.records
  have hrecords := restores_many fun record hrecord =>
    FailureRecord.restores (haddressable.expressions record hrecord)
  simp only [toBytes, readBytes, List.append_assoc, Option.bind_eq_bind, Option.bind_some, hversion _, hid _,
    SnapshotId.ofBytes?_bytes, restores_time _ _, hcount _, hrecords _, UInt32.ofNat_toNat]

/-- Reading the bytes of a snapshot comes to checking it. -/
theorem Addressable.ofBytes_toBytes {snapshot : Snapshot} (haddressable : snapshot.Addressable) :
    ofBytes snapshot.toBytes = snapshot.check := by
  have hread := haddressable.restores []
  rw [List.append_nil] at hread
  rw [ofBytes, hread]

end Snapshot

end WordSums
