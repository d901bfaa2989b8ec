import WordSums.Proofs.Ledger.Binary
import WordSums.Proofs.Ledger.Consistency
import WordSums.Proofs.Ledger.Written

/-!
# The verdict on a snapshot that was written

A snapshot comes back from its text and from its bytes as it was, so what reading says of it is what the check
says. The check looks at the version first and then goes through the records, each of which is held against
the questions of the records before it; the first record that departs decides.
-/

namespace WordSums

namespace Snapshot

/-- What is wrong with a record that comes after records of some questions. -/
inductive Departs (seen : List String) (record : FailureRecord) : RecordFault → Prop
  | duplicate (hseen : record.expression ∈ seen) : Departs seen record (.duplicate record.expression)
  | zeroFrequency (hnew : record.expression ∉ seen) (hzero : record.frequency = 0) :
      Departs seen record (.zeroFrequency record.expression)
  | seenBackwards (hnew : record.expression ∉ seen) (hcounts : record.frequency ≠ 0)
      (hbackwards : ¬ record.firstSeen ≤ record.lastSeen) : Departs seen record (.seenBackwards record.expression)

/-- What reading a written snapshot comes to. -/
inductive Verdict (snapshot : Snapshot) : Except SnapshotFault Snapshot → Prop
  | accepted (hversion : snapshot.version = supportedVersion)
      (hdistinct : (snapshot.records.map FailureRecord.expression).Nodup)
      (hsound : ∀ record ∈ snapshot.records, Sound record) : Verdict snapshot (.ok snapshot)
  | unsupported (hversion : snapshot.version ≠ supportedVersion) :
      Verdict snapshot (.error (.unsupportedVersion snapshot.version))
  | inconsistent {before after : List FailureRecord} {record : FailureRecord} {fault : RecordFault}
      (hversion : snapshot.version = supportedVersion) (hrecords : snapshot.records = before ++ record :: after)
      (hdistinct : (before.map FailureRecord.expression).Nodup) (hsound : ∀ earlier ∈ before, Sound earlier)
      (hdeparts : Departs (before.map FailureRecord.expression) record fault) :
      Verdict snapshot (.error (.inconsistent fault))

variable {seen : List String} {record : FailureRecord} {records : List FailureRecord} {fault : RecordFault}

theorem Departs.of_mem_iff {others : List String} (hsame : ∀ expression, expression ∈ seen ↔ expression ∈ others)
    (hdeparts : Departs seen record fault) : Departs others record fault := by
  cases hdeparts with
  | duplicate hseen => exact .duplicate ((hsame _).1 hseen)
  | zeroFrequency hnew hzero => exact .zeroFrequency (mt (hsame _).2 hnew) hzero
  | seenBackwards hnew hcounts hbackwards => exact .seenBackwards (mt (hsame _).2 hnew) hcounts hbackwards

/-- The first record departs, or it does not and the others are looked at. -/
theorem recordFault?_cons_eq_some_iff :
    recordFault? seen (record :: records) = some fault ↔
      Departs seen record fault ∨
        (record.expression ∉ seen ∧ Sound record) ∧ recordFault? (record.expression :: seen) records = some fault := by
  rw [recordFault?]
  constructor
  · intro hfault
    split at hfault
    · next hseen =>
      obtain rfl := Option.some.inj hfault
      exact .inl (.duplicate hseen)
    · next hnew =>
      split at hfault
      · next hzero =>
        obtain rfl := Option.some.inj hfault
        exact .inl (.zeroFrequency hnew hzero)
      · next hcounts =>
        split at hfault
        · next hbackwards =>
          obtain rfl := Option.some.inj hfault
          exact .inl (.seenBackwards hnew hcounts hbackwards)
        · next hforward => exact .inr ⟨⟨hnew, hcounts, not_not.1 hforward⟩, hfault⟩
  · rintro (hdeparts | ⟨⟨hnew, hsound⟩, hfault⟩)
    · cases hdeparts with
      | duplicate hseen => rw [if_pos hseen]
      | zeroFrequency hnew hzero => rw [if_neg hnew, if_pos hzero]
      | seenBackwards hnew hcounts hbackwards => rw [if_neg hnew, if_neg hcounts, if_pos hbackwards]
    · rw [if_neg hnew, if_neg hsound.counts, if_neg (not_not_intro hsound.forward), hfault]

/-- The fault is that of the first record that departs. -/
theorem recordFault?_eq_some_iff :
    recordFault? seen records = some fault ↔
      ∃ before record after, records = before ++ record :: after ∧ recordFault? seen before = none ∧
        Departs (before.map FailureRecord.expression ++ seen) record fault := by
  induction records generalizing seen with
  | nil => simp [recordFault?]
  | cons first records ih =>
    have hmoved (before : List FailureRecord) (expression : String) :
        expression ∈ before.map FailureRecord.expression ++ (first.expression :: seen) ↔
          expression ∈ (first :: before).map FailureRecord.expression ++ seen := by
      simp only [List.map_cons, List.cons_append, List.mem_cons, List.mem_append]
      tauto
    rw [recordFault?_cons_eq_some_iff, ih]
    constructor
    · rintro (hdeparts | ⟨hfirst, before, record, after, rfl, hnone, hdeparts⟩)
      · exact ⟨[], first, records, rfl, rfl, hdeparts⟩
      · refine ⟨first :: before, record, after, rfl, ?_, hdeparts.of_mem_iff (hmoved before)⟩
        exact recordFault?_cons_eq_none_iff.2 ⟨hfirst, hnone⟩
    · rintro ⟨before, record, after, hrecords, hnone, hdeparts⟩
      cases before with
      | nil =>
        obtain ⟨rfl, rfl⟩ := List.cons.inj hrecords
        exact .inl hdeparts
      | cons earlier before =>
        obtain ⟨rfl, rfl⟩ := List.cons.inj hrecords
        obtain ⟨hfirst, hrest⟩ := recordFault?_cons_eq_none_iff.1 hnone
        have hback := hdeparts.of_mem_iff fun expression => (hmoved before expression).symm
        exact .inr ⟨hfirst, before, record, after, rfl, hrest, hback⟩

theorem verdict_check (snapshot : Snapshot) : Verdict snapshot snapshot.check := by
  unfold check
  split
  · next hversion => exact .unsupported hversion
  · next hversion =>
    have hsupported := not_not.1 hversion
    cases hfault : recordFault? [] snapshot.records with
    | some fault =>
      obtain ⟨before, record, after, hrecords, hnone, hdeparts⟩ := recordFault?_eq_some_iff.1 hfault
      obtain ⟨hdistinct, hsound⟩ := recordFault?_nil_eq_none_iff.1 hnone
      rw [List.append_nil] at hdeparts
      exact .inconsistent hsupported hrecords hdistinct hsound hdeparts
    | none =>
      obtain ⟨hdistinct, hsound⟩ := recordFault?_nil_eq_none_iff.1 hfault
      exact .accepted hsupported hdistinct hsound

theorem check_eq_iff_verdict {snapshot : Snapshot} {outcome : Except SnapshotFault Snapshot} :
    snapshot.check = outcome ↔ Verdict snapshot outcome := by
  constructor
  · rintro rfl
    exact verdict_check snapshot
  · intro hverdict
    unfold check
    cases hverdict with
    | accepted hversion hdistinct hsound =>
      rw [if_neg (not_not_intro hversion), recordFault?_nil_eq_none_iff.2 ⟨hdistinct, hsound⟩]
    | unsupported hversion => rw [if_pos hversion]
    | @inconsistent before after record fault hversion hrecords hdistinct hsound hdeparts =>
      have hnone := recordFault?_nil_eq_none_iff.2 ⟨hdistinct, hsound⟩
      rw [← List.append_nil (before.map FailureRecord.expression)] at hdeparts
      have hfault := recordFault?_eq_some_iff.2 ⟨before, record, after, hrecords, hnone, hdeparts⟩
      rw [if_neg (not_not_intro hversion), hfault]

/-- A written snapshot is read back from its text and from its bytes alike: as it was if it is consistent, and
else with the first thing that is wrong with it. -/
theorem codecs_agree (snapshot : Snapshot) :
    (snapshot.Addressable → ofBytes snapshot.toBytes = ofJson snapshot.toJson) ∧
      ∀ outcome, ofJson snapshot.toJson = outcome ↔ Verdict snapshot outcome := by
  rw [ofJson_toJson]
  exact ⟨fun haddressable => haddressable.ofBytes_toBytes, fun outcome => check_eq_iff_verdict⟩

/-- A snapshot of a record that counts something and one that counts nothing. -/
def emptyHanded : Snapshot :=
  ⟨supportedVersion, ⟨List.replicate 16 2, rfl⟩, .epoch,
    [⟨"Who?", .validate, .invalidSyntax, 1, .epoch, .epoch⟩, ⟨"What?", .evaluate, .arithmetic, 0, .epoch, .epoch⟩]⟩

theorem codecs_agree_emptyHanded :
    emptyHanded.Addressable ∧ ofBytes emptyHanded.toBytes = ofJson emptyHanded.toJson ∧
      ofJson emptyHanded.toJson = .error (.inconsistent (.zeroFrequency "What?")) := by
  have haddressable : emptyHanded.Addressable := ⟨by decide, by decide⟩
  obtain ⟨hsame, hverdict⟩ := codecs_agree emptyHanded
  refine ⟨haddressable, hsame haddressable, (hverdict _).2 ?_⟩
  exact check_eq_iff_verdict.1 (by decide)

end Snapshot

end WordSums
