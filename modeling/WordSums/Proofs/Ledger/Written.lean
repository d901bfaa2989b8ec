import WordSums.Ledger.Written
import WordSums.Proofs.Json.Containers
import WordSums.Proofs.Time.Written

/-!
# Snapshots that are read back as text

Every member of a record recovers its value: texts and names as strings, the frequency as a number that fits
64 bits, the moments by their written forms. The members stand in the order in which the draft is filled, so
the records and the snapshot around them are recovered whole. Reading a written snapshot therefore comes to
checking it.
-/

namespace WordSums

open WordSums.Json WordSums.Text

/-! ### Names of snapshots -/

namespace SnapshotId

theorem hexBytes?_digits (bytes : List UInt8) : hexBytes? (digits bytes) = some bytes := by
  induction bytes with
  | nil => rfl
  | cons byte bytes ih =>
    have hdigits : digits (byte :: bytes) =
        Nat.digitChar (byte.toNat / 16) :: Nat.digitChar (byte.toNat % 16) :: digits bytes := rfl
    have hwhole : 16 * (byte.toNat / 16) + byte.toNat % 16 = byte.toNat := by omega
    rw [hdigits]
    simp only [hexBytes?, hexValue?_high, hexValue?_low, ih, Option.bind_eq_bind, Option.bind_some]
    rw [hwhole, UInt8.ofNat_toNat]

theorem length_digits (bytes : List UInt8) : (digits bytes).length = 2 * bytes.length := by
  induction bytes with
  | nil => rfl
  | cons byte bytes ih =>
    have hdigits : (digits (byte :: bytes)).length = (digits bytes).length + 2 := rfl
    rw [hdigits, List.length_cons]
    omega

theorem digits_take_append_drop (count : Nat) (bytes : List UInt8) :
    digits (bytes.take count) ++ digits (bytes.drop count) = digits bytes := by
  rw [digits, digits, ← List.flatMap_append, List.take_append_drop, digits]

theorem readGrouped?_groups {first second third fourth fifth : List Char} (hfirst : first.length = 8)
    (hsecond : second.length = 4) (hthird : third.length = 4) (hfourth : fourth.length = 4)
    (hfifth : fifth.length = 12) :
    readGrouped? (first ++ '-' :: second ++ '-' :: third ++ '-' :: fourth ++ '-' :: fifth) =
      readPlain? (first ++ second ++ third ++ fourth ++ fifth) := by
  have hlength : (first ++ '-' :: second ++ '-' :: third ++ '-' :: fourth ++ '-' :: fifth).length = 36 := by
    simp [hfirst, hsecond, hthird, hfourth, hfifth]
  unfold readGrouped?
  dsimp only
  rw [if_pos ⟨hlength, by simp [List.getElem?_append, hfirst, hsecond, hthird, hfourth]⟩]
  simp [List.drop_append, List.drop_eq_nil_of_le, hfirst, hsecond, hthird, hfourth]

theorem read?_text (id : SnapshotId) : read? id.text.toList = some id := by
  have hbytes := id.length_eq
  have hfirst : (digits (id.bytes.take 4)).length = 8 := by simp [length_digits, hbytes]
  have hsecond : (digits ((id.bytes.drop 4).take 2)).length = 4 := by simp [length_digits, hbytes]
  have hthird : (digits ((id.bytes.drop 6).take 2)).length = 4 := by simp [length_digits, hbytes]
  have hfourth : (digits ((id.bytes.drop 8).take 2)).length = 4 := by simp [length_digits, hbytes]
  have hfifth : (digits (id.bytes.drop 10)).length = 12 := by simp [length_digits, hbytes]
  have hdigits : digits (id.bytes.take 4) ++ digits ((id.bytes.drop 4).take 2) ++ digits ((id.bytes.drop 6).take 2) ++
      digits ((id.bytes.drop 8).take 2) ++ digits (id.bytes.drop 10) = digits id.bytes := by
    have hsecond := digits_take_append_drop 2 (id.bytes.drop 4)
    have hthird := digits_take_append_drop 2 (id.bytes.drop 6)
    have hfourth := digits_take_append_drop 2 (id.bytes.drop 8)
    rw [List.drop_drop] at hsecond hthird hfourth
    rw [List.append_assoc, List.append_assoc, List.append_assoc, hfourth, hthird, hsecond, digits_take_append_drop]
  have hlength : id.written.length = 36 := by
    simp [written, length_digits, hbytes]
  rw [text, String.toList_ofList, read?, hlength, if_neg (by decide), if_neg (by simp), if_neg (by simp)]
  rw [written, readGrouped?_groups hfirst hsecond hthird hfourth hfifth, hdigits, readPlain?, hexBytes?_digits,
    Option.bind_some, ofBytes?_bytes]

end SnapshotId

/-! ### Members -/

theorem Time.Timestamp.recovers (time : Timestamp) : Recovers reader time.document time :=
  recovers_written time.read?_text

theorem recovers_unsigned64 (number : UInt64) : Recovers Reader.unsigned64 (.integer number.toNat) number := by
  have hbound : number.toNat ≤ Numeral.greatestUnsigned := Nat.le_pred_of_lt number.toNat_lt
  exact recovers_number hbound (congrArg some number.ofNat_toNat)

theorem recovers_unsigned32 (number : UInt32) : Recovers Reader.unsigned32 (.integer number.toNat) number := by
  have hsize := number.toNat_lt_size
  have hbound : number.toNat ≤ Numeral.greatestUnsigned := Nat.le_trans hsize.le (by decide)
  have hmeaning : (if number.toNat < UInt32.size then some (UInt32.ofNat number.toNat) else none) = some number := by
    rw [if_pos hsize, UInt32.ofNat_toNat]
  exact recovers_number hbound hmeaning

namespace FailureRecord

theorem recovers (record : FailureRecord) : Recovers reader record.document record := by
  have hmethod : Recovers (Reader.label Method.ofLabel?) (.string record.method.label) record.method :=
    recovers_label record.method.ofLabel?_label
  have hkind : Recovers (Reader.label FaultKind.ofLabel?) (.string record.kind.label) record.kind :=
    recovers_label record.kind.ofLabel?_label
  have hfinish : Draft.finish? ⟨some record.expression, some record.method, some record.kind, some record.frequency,
      some record.firstSeen, some record.lastSeen⟩ = some record := rfl
  refine recovers_record ?_ hfinish
  refine .member rfl rfl (recovers_member (recovers_string _) _ _) ?_
  refine .member rfl rfl (recovers_member hmethod _ _) ?_
  refine .member rfl rfl (recovers_member hkind _ _) ?_
  refine .member rfl rfl (recovers_member (recovers_unsigned64 _) _ _) ?_
  refine .member rfl rfl (recovers_member record.firstSeen.recovers _ _) ?_
  refine .member rfl rfl (recovers_member record.lastSeen.recovers _ _) ?_
  exact .done _

end FailureRecord

namespace Snapshot

theorem recovers (snapshot : Snapshot) : Recovers reader snapshot.document snapshot := by
  have hid : Recovers (Reader.written SnapshotId.read?) (.string snapshot.id.text) snapshot.id :=
    recovers_written snapshot.id.read?_text
  have hrecords : Recovers (Reader.list FailureRecord.reader) (.array (snapshot.records.map FailureRecord.document))
      snapshot.records := by
    apply recovers_list
    intro record _
    exact record.recovers
  have hfinish : Draft.finish? ⟨some snapshot.version, some snapshot.id, some snapshot.time, some snapshot.records⟩ =
      some snapshot := rfl
  refine recovers_record ?_ hfinish
  refine .member rfl rfl (recovers_member (recovers_unsigned32 _) _ _) ?_
  refine .member rfl rfl (recovers_member hid _ _) ?_
  refine .member rfl rfl (recovers_member snapshot.time.recovers _ _) ?_
  refine .member rfl rfl (recovers_member hrecords _ _) ?_
  exact .done _

/-- Reading a written snapshot comes to checking it. -/
theorem ofJson_toJson (snapshot : Snapshot) : ofJson snapshot.toJson = snapshot.check := by
  rw [ofJson, toJson, snapshot.recovers.readWhole_pretty]

end Snapshot

end WordSums
