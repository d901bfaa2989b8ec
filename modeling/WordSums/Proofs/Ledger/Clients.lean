import Mathlib.Logic.Function.Basic
import WordSums.Proofs.Ledger.Consistency
import WordSums.Proofs.Ledger.Counting

/-!
# Clients of one ledger

A client that counts a failure reads the clock first and changes the ledger afterwards, and between the two
other clients may do either. Time never runs backwards, so the readings grow in the order in which they are
taken; but the changes can come in another order, and each one notes its own reading over what was noted
before. What is saved of the ledger is then consistent in all points but one: a question may have been last
seen before it was first seen. Whether one was is decided by the last reading counted for it. Where one client
works alone on a ledger with no record from the future, none was.
-/

namespace WordSums

open WordSums.Time

/-! ### What is saved -/

theorem FailureRecord.Continues.forward_iff {record after : FailureRecord} {times : List Timestamp}
    (hcontinues : record.Continues times after) (hforward : record.firstSeen ≤ record.lastSeen) :
    after.firstSeen ≤ after.lastSeen ↔ ∀ time, record.lastCounted? times = some time → record.firstSeen ≤ time := by
  rw [hcontinues.firstSeen, hcontinues.lastSeen]
  cases record.lastCounted? times with
  | none => simpa using hforward
  | some time => simp

namespace Ledger

variable {start : Ledger} {begun : List FailureRecord} {failures : List Failure}

/-- For no question the last failure counted was read from the clock before the question was first seen. -/
def SeenForward (start : Ledger) (failures : List Failure) : Prop :=
  ∀ expression origin time, origin? (start.get? expression) (Failure.ofExpression failures expression) = some origin →
    origin.lastCounted? ((Failure.ofExpression failures expression).map Failure.time) = some time →
      origin.firstSeen ≤ time

theorem Opens.origin_forward (hopens : start.Opens begun) {expression : String} {origin : FailureRecord}
    (horigin : origin? (start.get? expression) (Failure.ofExpression failures expression) = some origin) :
    origin.firstSeen ≤ origin.lastSeen := by
  cases hknown : start.get? expression with
  | none =>
    rw [hknown] at horigin
    obtain ⟨first, _, rfl⟩ := Option.map_eq_some_iff.1 horigin
    exact Timestamp.le_refl _
  | some first =>
    rw [hknown] at horigin
    obtain rfl : first = origin := Option.some_inj.1 horigin
    exact (hopens.sound (hopens.get?_eq_some_iff.1 hknown).1).forward

theorem Opens.frequency_ne_zero (hopens : start.Opens begun) {expression : String} {record : FailureRecord}
    (hrecord : (start.countAll failures).get? expression = some record) : record.frequency ≠ 0 := by
  -- the record was there and had counted something, or a failure has opened it
  have hgreatest : 1 ≤ greatestFrequency := by decide
  have hcounts : 1 ≤ record.frequency.toNat := by
    cases hknown : start.get? expression with
    | none =>
      obtain ⟨first, later, _, hcontinues⟩ := continues_of_unknown hknown hrecord
      rw [hcontinues.frequency, List.length_map, List.length_cons]
      omega
    | some first =>
      have hfirst : 1 ≤ first.frequency.toNat := by
        refine Nat.one_le_iff_ne_zero.2 fun hzero => ?_
        exact (hopens.sound (hopens.get?_eq_some_iff.1 hknown).1).counts (UInt64.toNat.inj hzero)
      rw [(continues_of_known hknown hrecord).frequency]
      omega
  intro hzero
  rw [hzero] at hcounts
  exact absurd hcounts (by decide)

theorem forward_iff_seenForward (hopens : start.Opens begun) :
    (∀ record ∈ (start.countAll failures).records, record.firstSeen ≤ record.lastSeen) ↔
      SeenForward start failures := by
  have hinOrder := inOrder_countAll hopens.inOrder failures
  constructor
  · intro hforward expression origin time horigin
    have hrecord := get?_countAll start failures expression
    rw [horigin] at hrecord
    have hcontinues := origin.continues_foldl ((Failure.ofExpression failures expression).map Failure.time)
    have hrecordForward := hforward _ ((get?_eq_some_iff hinOrder).1 hrecord).1
    exact (hcontinues.forward_iff (hopens.origin_forward horigin)).1 hrecordForward time
  · intro hseen record hrecord
    obtain ⟨origin, horigin, hcontinues⟩ := exists_continues ((get?_eq_some_iff hinOrder).2 ⟨hrecord, rfl⟩)
    exact (hcontinues.forward_iff (hopens.origin_forward horigin)).2 fun time => hseen _ origin time horigin

/-- Failures counted in the order of their readings, on a ledger that has no record from after the first one. -/
theorem seenForward_of_ordered (hopens : start.Opens begun) {clock : Timestamp}
    (hpast : ∀ record ∈ begun, record.firstSeen ≤ clock) (hlater : ∀ failure ∈ failures, clock ≤ failure.time)
    (hordered : failures.Pairwise fun earlier later => earlier.time ≤ later.time) : SeenForward start failures := by
  intro expression origin time horigin hlast
  -- the last reading counted is that of some failure, which no earlier one and no record is ahead of
  have hofExpression : (Failure.ofExpression failures expression).Sublist failures := List.filter_sublist
  have htime : time ∈ (Failure.ofExpression failures expression).map Failure.time :=
    List.mem_of_mem_take (List.mem_of_getLast? hlast)
  obtain ⟨failure, hfailure, rfl⟩ := List.mem_map.1 htime
  cases hknown : start.get? expression with
  | some first =>
    rw [hknown] at horigin
    obtain rfl : first = origin := Option.some_inj.1 horigin
    have hfirst := hpast first (hopens.get?_eq_some_iff.1 hknown).1
    exact Timestamp.le_trans hfirst (hlater failure (hofExpression.subset hfailure))
  | none =>
    rw [hknown] at horigin
    obtain ⟨first, hfirst, rfl⟩ := Option.map_eq_some_iff.1 horigin
    obtain ⟨later, hfailures⟩ := List.head?_eq_some_iff.1 hfirst
    have hafter := hordered.sublist hofExpression
    rw [hfailures] at hafter hfailure
    rcases List.mem_cons.1 hfailure with rfl | hin
    · exact Timestamp.le_refl _
    · exact (List.pairwise_cons.1 hafter).1 failure hin

/-- On a ledger that was empty at first the order of the readings is enough. -/
theorem seenForward_empty (hordered : failures.Pairwise fun earlier later => earlier.time ≤ later.time) :
    SeenForward .empty failures := by
  cases failures with
  | nil => exact fun _ _ _ horigin => absurd horigin nofun
  | cons first later =>
    have hlater : ∀ failure ∈ first :: later, first.time ≤ failure.time := by
      intro failure hfailure
      rcases List.mem_cons.1 hfailure with rfl | hin
      · exact Timestamp.le_refl _
      · exact (List.pairwise_cons.1 hordered).1 failure hin
    exact seenForward_of_ordered .empty (fun _ hmem => absurd hmem List.not_mem_nil) hlater hordered

/-- Of what the loader checks in a saved ledger, only the times can be amiss. -/
theorem check_snapshot_eq_ok_iff (hopens : start.Opens begun) (id : SnapshotId) (now : Timestamp) :
    ((start.countAll failures).snapshot id now).check = .ok ((start.countAll failures).snapshot id now) ↔
      ∀ record ∈ (start.countAll failures).records, record.firstSeen ≤ record.lastSeen := by
  have hinOrder := inOrder_countAll hopens.inOrder failures
  rw [Snapshot.check_eq_ok_iff]
  constructor
  · intro haccepted record hrecord
    exact (haccepted.2.2.2 record hrecord).forward
  · intro hforward
    refine ⟨rfl, rfl, hinOrder.nodup, fun record hrecord => ⟨?_, hforward record hrecord⟩⟩
    exact hopens.frequency_ne_zero ((get?_eq_some_iff hinOrder).2 ⟨hrecord, rfl⟩)

theorem check_snapshot_of_seenForward (hopens : start.Opens begun) (hseen : SeenForward start failures)
    (id : SnapshotId) (now : Timestamp) :
    ((start.countAll failures).snapshot id now).check = .ok ((start.countAll failures).snapshot id now) :=
  (check_snapshot_eq_ok_iff hopens id now).2 ((forward_iff_seenForward hopens).2 hseen)

end Ledger

/-! ### Clients -/

/-- A ledger and its clients: the last reading of the clock, and the failures for which a client has read the
clock already but has not changed the ledger yet. -/
structure Clients (Client : Type) where
  ledger : Ledger
  clock : Timestamp
  pending : Client → Option Failure

namespace Clients

def idle {Client : Type} (ledger : Ledger) (clock : Timestamp) : Clients Client :=
  ⟨ledger, clock, fun _ => none⟩

variable {Client : Type} [DecidableEq Client]

/-- A client has read the clock for a failure. -/
def withReading (state : Clients Client) (client : Client) (failure : Failure) : Clients Client :=
  ⟨state.ledger, failure.time, Function.update state.pending client (some failure)⟩

/-- A client has changed the ledger for a failure. -/
def withCount (state : Clients Client) (client : Client) (failure : Failure) : Clients Client :=
  ⟨state.ledger.count failure, state.clock, Function.update state.pending client none⟩

theorem pending_withReading_self (state : Clients Client) (client : Client) (failure : Failure) :
    (state.withReading client failure).pending client = some failure := by
  simp [withReading]

theorem pending_withCount_self (state : Clients Client) (client : Client) (failure : Failure) :
    (state.withCount client failure).pending client = none := by
  simp [withCount]

/-- What clients may have done by some moment, with the failures counted so far in the order of the changes. -/
inductive Course (start : Ledger) (clock : Timestamp) : List Failure → Clients Client → Prop
  | idle : Course start clock [] (idle start clock)
  | reading {counted : List Failure} {state : Clients Client} (client : Client) (failure : Failure)
      (hbefore : Course start clock counted state) (hidle : state.pending client = none)
      (hclock : state.clock ≤ failure.time) : Course start clock counted (state.withReading client failure)
  | counting {counted : List Failure} {state : Clients Client} (client : Client) (failure : Failure)
      (hbefore : Course start clock counted state) (hpending : state.pending client = some failure) :
      Course start clock (counted ++ [failure]) (state.withCount client failure)

variable {start : Ledger} {begun : List FailureRecord} {clock : Timestamp} {counted : List Failure}
  {state : Clients Client}

theorem Course.ledger_eq (hcourse : Course start clock counted state) : state.ledger = start.countAll counted := by
  induction hcourse with
  | idle => rfl
  | reading client failure hbefore hidle hclock ih => exact ih
  | counting client failure hbefore hpending ih =>
    rw [Ledger.countAll, List.foldl_append]
    exact congrArg (Ledger.count · failure) ih

/-- What is saved at any moment has the supported version, one record for a question, and no record that
counts nothing; so it is accepted again exactly if no question was last seen before it was first seen. -/
theorem check_snapshot (hopens : start.Opens begun) (hcourse : Course start clock counted state) (id : SnapshotId)
    (now : Timestamp) :
    let snapshot := state.ledger.snapshot id now
    snapshot.version = Snapshot.supportedVersion ∧ (snapshot.records.map FailureRecord.expression).Nodup ∧
      (∀ record ∈ snapshot.records, record.frequency ≠ 0) ∧
        (snapshot.check = .ok snapshot ↔ Ledger.SeenForward start counted) := by
  dsimp only
  have hinOrder := Ledger.inOrder_countAll hopens.inOrder counted
  have hcounts : ∀ record ∈ (start.countAll counted).records, record.frequency ≠ 0 := by
    intro record hrecord
    exact hopens.frequency_ne_zero ((Ledger.get?_eq_some_iff hinOrder).2 ⟨hrecord, rfl⟩)
  rw [hcourse.ledger_eq]
  refine ⟨rfl, hinOrder.nodup, hcounts, ?_⟩
  rw [← Ledger.forward_iff_seenForward hopens, Snapshot.check_eq_ok_iff]
  constructor
  · rintro ⟨_, _, _, hsound⟩ record hrecord
    exact (hsound record hrecord).forward
  · intro hforward
    exact ⟨rfl, rfl, hinOrder.nodup, fun record hrecord => ⟨hcounts record hrecord, hforward record hrecord⟩⟩

def ahead : Timestamp :=
  ⟨⟨2999, 1, 1, by decide, by decide⟩, 43200, 0, by decide, by decide⟩

/-- A snapshot with a record from the future. -/
def foretold : Snapshot :=
  ⟨Snapshot.supportedVersion, ⟨List.replicate 16 0, rfl⟩, .epoch,
    [⟨"Who?", .evaluate, .invalidSyntax, 1, ahead, ahead⟩]⟩

def whoAt (time : Timestamp) : Failure := ⟨"Who?", .evaluate, .invalidSyntax, time⟩

def surprised : Clients Unit :=
  ((idle (.ofSnapshot foretold) .epoch).withReading () (whoAt .epoch)).withCount () (whoAt .epoch)

/-- Two clients read the clock one after the other, and the second one is the first to change the ledger. -/
def overtaken : Clients Bool :=
  ((((idle .empty .epoch).withReading false (whoAt .epoch)).withReading true (whoAt ahead)).withCount true
    (whoAt ahead)).withCount false (whoAt .epoch)

theorem course_surprised : Course (.ofSnapshot foretold) .epoch [whoAt .epoch] surprised := by
  have hread : Course (.ofSnapshot foretold) .epoch []
      ((idle (.ofSnapshot foretold) .epoch).withReading () (whoAt .epoch)) :=
    .reading () (whoAt .epoch) .idle rfl (Timestamp.le_refl _)
  exact hread.counting () (whoAt .epoch) rfl

theorem course_overtaken : Course .empty .epoch [whoAt ahead, whoAt .epoch] overtaken := by
  have hfirst : Course .empty .epoch [] ((idle .empty .epoch).withReading false (whoAt .epoch)) :=
    .reading false (whoAt .epoch) .idle rfl (Timestamp.le_refl _)
  have hlater : Timestamp.epoch ≤ ahead := by decide
  have hcounted := Course.counting true (whoAt ahead) (hfirst.reading true (whoAt ahead) rfl hlater) rfl
  exact hcounted.counting false (whoAt .epoch) rfl

/-- Neither the ledger of an accepted snapshot nor an empty one is safe from this: what is saved may be refused. -/
theorem check_snapshot_seenBackwards :
    (foretold.check = .ok foretold ∧ Course (.ofSnapshot foretold) .epoch [whoAt .epoch] surprised ∧
      (surprised.ledger.snapshot foretold.id .epoch).check = .error (.inconsistent (.seenBackwards "Who?"))) ∧
    Course .empty .epoch [whoAt ahead, whoAt .epoch] overtaken ∧
      (overtaken.ledger.snapshot foretold.id .epoch).check = .error (.inconsistent (.seenBackwards "Who?")) :=
  ⟨⟨rfl, course_surprised, rfl⟩, course_overtaken, rfl⟩

theorem check_snapshot_overtaken :
    let snapshot := overtaken.ledger.snapshot foretold.id .epoch
    snapshot.version = Snapshot.supportedVersion ∧ (snapshot.records.map FailureRecord.expression).Nodup ∧
      (∀ record ∈ snapshot.records, record.frequency ≠ 0) ∧
        (snapshot.check = .ok snapshot ↔ Ledger.SeenForward .empty [whoAt ahead, whoAt .epoch]) :=
  check_snapshot .empty course_overtaken foretold.id .epoch

/-! ### One client alone -/

/-- One client alone counts its failures in the order in which it has read the clock for them. -/
structure Alone (clock : Timestamp) (counted : List Failure) (state : Clients Client) : Prop where
  begun : clock ≤ state.clock
  ordered : counted.Pairwise fun earlier later => earlier.time ≤ later.time
  within : ∀ failure ∈ counted, clock ≤ failure.time ∧ failure.time ≤ state.clock
  pending : ∀ client failure, state.pending client = some failure → failure.time = state.clock

namespace Alone

variable [Subsingleton Client] {client : Client} {failure : Failure}

theorem withReading (halone : Alone clock counted state) (hclock : state.clock ≤ failure.time) :
    Alone clock counted (state.withReading client failure) := by
  apply Alone.mk
  case begun => exact Timestamp.le_trans halone.begun hclock
  case ordered => exact halone.ordered
  case within =>
    intro earlier hearlier
    have hwithin := halone.within earlier hearlier
    exact ⟨hwithin.1, Timestamp.le_trans hwithin.2 hclock⟩
  case pending =>
    intro other held hheld
    obtain rfl := Subsingleton.elim client other
    rw [pending_withReading_self] at hheld
    obtain rfl := Option.some_inj.1 hheld
    rfl

theorem withCount (halone : Alone clock counted state) (hpending : state.pending client = some failure) :
    Alone clock (counted ++ [failure]) (state.withCount client failure) := by
  -- nobody has read the clock since, so every failure counted before was read earlier
  have hnow : failure.time = state.clock := halone.pending client failure hpending
  apply Alone.mk
  case begun => exact halone.begun
  case ordered =>
    refine List.pairwise_append.2 ⟨halone.ordered, List.pairwise_singleton _ _, ?_⟩
    intro earlier hearlier last hlast
    obtain rfl := List.mem_singleton.1 hlast
    rw [hnow]
    exact (halone.within earlier hearlier).2
  case within =>
    intro other hother
    rcases List.mem_append.1 hother with hearlier | hlast
    · exact halone.within other hearlier
    · obtain rfl := List.mem_singleton.1 hlast
      rw [hnow]
      exact ⟨halone.begun, Timestamp.le_refl _⟩
  case pending =>
    intro other held hheld
    obtain rfl := Subsingleton.elim client other
    rw [pending_withCount_self] at hheld
    exact absurd hheld (Option.some_ne_none _).symm

end Alone

theorem Course.alone [Subsingleton Client] (hcourse : Course start clock counted state) :
    Alone clock counted state := by
  induction hcourse with
  | idle =>
    refine ⟨Timestamp.le_refl clock, List.Pairwise.nil, ?_, ?_⟩
    · exact fun _ hmem => absurd hmem List.not_mem_nil
    · exact fun _ _ hpending => absurd hpending (Option.some_ne_none _).symm
  | reading client failure hbefore hidle hclock ih => exact ih.withReading hclock
  | counting client failure hbefore hpending ih => exact ih.withCount hpending

/-- A client that works alone on a ledger with no record from the future can always load again what it saves. -/
theorem check_snapshot_of_alone [Subsingleton Client] (hopens : start.Opens begun)
    (hpast : ∀ record ∈ begun, record.firstSeen ≤ clock) (hcourse : Course start clock counted state)
    (id : SnapshotId) (now : Timestamp) :
    (state.ledger.snapshot id now).check = .ok (state.ledger.snapshot id now) := by
  have hlater : ∀ failure ∈ counted, clock ≤ failure.time := by
    intro failure hfailure
    exact (hcourse.alone.within failure hfailure).1
  have hseen := Ledger.seenForward_of_ordered hopens hpast hlater hcourse.alone.ordered
  rw [hcourse.ledger_eq]
  exact Ledger.check_snapshot_of_seenForward hopens hseen id now

end Clients

end WordSums
