import Mathlib.Data.List.Forall2
import WordSums.Proofs.Service.Accounting
import WordSums.Session.Command

/-!
# What does not depend on the clock

The readings of the clock are kept in the records and nowhere else, and no decision is taken on them. So ledgers
that differ in nothing but times stay so when a failure is counted in both, at whatever readings, and services
that differ in nothing else reply to a command alike.
-/

namespace WordSums

open WordSums.Time

/-- The records agree but for their times. -/
structure FailureRecord.CountedAlike (left right : FailureRecord) : Prop where
  expression : left.expression = right.expression
  method : left.method = right.method
  kind : left.kind = right.kind
  frequency : left.frequency = right.frequency

def Ledger.CountedAlike (left right : Ledger) : Prop :=
  List.Forall₂ FailureRecord.CountedAlike left.records right.records

structure Service.CountedAlike (left right : Service) : Prop where
  interpreter : left.interpreter = right.interpreter
  recording : left.recording = right.recording
  ledger : left.ledger.CountedAlike right.ledger

theorem FailureRecord.CountedAlike.refl (record : FailureRecord) : record.CountedAlike record :=
  ⟨rfl, rfl, rfl, rfl⟩

theorem FailureRecord.CountedAlike.countAt {left right : FailureRecord} (halike : left.CountedAlike right)
    (now later : Timestamp) : (left.countAt now).CountedAlike (right.countAt later) := by
  unfold FailureRecord.countAt
  rw [halike.frequency]
  split
  · exact ⟨halike.expression, halike.method, halike.kind, rfl⟩
  · exact halike

namespace Ledger

theorem CountedAlike.refl (ledger : Ledger) : ledger.CountedAlike ledger :=
  List.forall₂_same.2 fun record _ => .refl record

variable {left right : Ledger}

theorem forall₂_insertSorted {record other : FailureRecord} {records others : List FailureRecord}
    (halike : record.CountedAlike other) (hrecords : List.Forall₂ FailureRecord.CountedAlike records others) :
    List.Forall₂ FailureRecord.CountedAlike (insertSorted record records) (insertSorted other others) := by
  induction hrecords with
  | nil => exact .cons halike .nil
  | cons hhead hrest ih =>
    rw [insertSorted, insertSorted, halike.expression, hhead.expression]
    split
    · exact .cons halike (.cons hhead hrest)
    · split
      · exact .cons halike hrest
      · exact .cons hhead ih

theorem CountedAlike.get?_cases (halike : left.CountedAlike right) (expression : String) :
    (left.get? expression = none ∧ right.get? expression = none) ∨
      ∃ record other, left.get? expression = some record ∧ right.get? expression = some other ∧
        record.CountedAlike other := by
  obtain ⟨records⟩ := left
  obtain ⟨others⟩ := right
  dsimp only [get?, CountedAlike] at halike ⊢
  induction halike with
  | nil => exact .inl ⟨rfl, rfl⟩
  | cons hhead hrest ih =>
    rw [find?_expression_cons, find?_expression_cons, hhead.expression]
    split
    · exact .inr ⟨_, _, rfl, rfl, hhead⟩
    · exact ih

variable (question : String) (method : Method) (kind : FaultKind) (now later : Timestamp)

theorem CountedAlike.recordOf (halike : left.CountedAlike right) :
    (left.recordOf ⟨question, method, kind, now⟩).CountedAlike (right.recordOf ⟨question, method, kind, later⟩) := by
  unfold Ledger.recordOf
  obtain ⟨hleft, hright⟩ | ⟨record, other, hleft, hright, hrecords⟩ := halike.get?_cases question
  · rw [hleft, hright]
    exact ⟨rfl, rfl, rfl, rfl⟩
  · rw [hleft, hright]
    exact hrecords

theorem CountedAlike.count (halike : left.CountedAlike right) :
    (left.count ⟨question, method, kind, now⟩).CountedAlike (right.count ⟨question, method, kind, later⟩) := by
  have hrecord := halike.recordOf question method kind now later
  by_cases hroom : (left.recordOf ⟨question, method, kind, now⟩).frequency.toNat < greatestFrequency
  · rw [count_of_room hroom, count_of_room (by rwa [← hrecord.frequency])]
    exact forall₂_insertSorted (hrecord.countAt now later) halike
  · rw [count_of_full hroom, count_of_full (by rwa [← hrecord.frequency])]
    exact halike

/-- Ledgers that agree but for times list the same failures. -/
theorem CountedAlike.listed (halike : left.CountedAlike right) :
    left.records.map Http.ListedFailure.ofRecord = right.records.map Http.ListedFailure.ofRecord := by
  rw [← List.forall₂_eq_eq_eq, List.forall₂_map_left_iff, List.forall₂_map_right_iff]
  refine halike.imp fun record other hrecords => ?_
  rw [Http.ListedFailure.ofRecord, Http.ListedFailure.ofRecord, hrecords.expression, hrecords.method, hrecords.kind,
    hrecords.frequency]

end Ledger

namespace Service

theorem CountedAlike.refl (service : Service) : service.CountedAlike service :=
  ⟨rfl, rfl, .refl service.ledger⟩

/-- The results of one call on either of two services: the same answer, and services that agree but for times. -/
def AnsweredAlike {α : Type} (left right : α × Service) : Prop :=
  left.1 = right.1 ∧ left.2.CountedAlike right.2

variable {left right : Service}

theorem CountedAlike.settle {α : Type} (halike : left.CountedAlike right) (method : Method) (question : String)
    (now later : Timestamp) (judgement : Except Fault α) :
    AnsweredAlike (left.settle method question now judgement).value
      (right.settle method question later judgement).value := by
  cases judgement with
  | ok value => exact ⟨rfl, halike⟩
  | error fault =>
    by_cases hinternal : fault.kind = .internal
    · rw [settle_internal hinternal, settle_internal hinternal]
      exact ⟨rfl, halike⟩
    · have hrecording := halike.recording
      cases hright : right.recording with
      | false =>
        rw [settle_unrecorded hinternal (hrecording.trans hright), settle_unrecorded hinternal hright]
        exact ⟨rfl, halike⟩
      | true =>
        rw [settle_counted hinternal (hrecording.trans hright), settle_counted hinternal hright]
        dsimp only
        rw [(halike.ledger.recordOf question method fault.kind now later).frequency]
        exact ⟨rfl, halike.interpreter, hrecording, halike.ledger.count question method fault.kind now later⟩

theorem CountedAlike.validate (halike : left.CountedAlike right) (now later : Timestamp) (question : String) :
    AnsweredAlike (left.validate now question).value (right.validate later question).value := by
  rw [Service.validate, Service.validate, halike.interpreter, Traced.value_bind, Traced.value_bind]
  exact halike.settle .validate question now later _

theorem CountedAlike.evaluate (halike : left.CountedAlike right) (now later : Timestamp) (question : String) :
    AnsweredAlike (left.evaluate now question).value (right.evaluate later question).value := by
  rw [Service.evaluate, Service.evaluate, halike.interpreter, Traced.value_bind, Traced.value_bind]
  exact halike.settle .evaluate question now later _

/-- Services that agree but for times reply to a command alike, and agree but for times afterwards. -/
theorem CountedAlike.execute (halike : left.CountedAlike right) (now later : Timestamp) (command : Command) :
    AnsweredAlike (left.execute now command) (right.execute later command) := by
  cases command with
  | failures =>
    have hlisting : Reply.listing left.failures = Reply.listing right.failures := by
      unfold Reply.listing
      rw [← Function.comp_def Reply.listedLine, ← List.map_map, ← List.map_map]
      exact congrArg (fun rows => Reply.mk (String.join (rows.map Reply.listedLine)) true) halike.ledger.listed
    exact ⟨hlisting, halike⟩
  | ask method question =>
    cases method with
    | evaluate =>
      obtain ⟨hanswer, hafter⟩ := halike.evaluate now later question
      exact ⟨congrArg Reply.answer hanswer, hafter⟩
    | validate =>
      obtain ⟨hverdict, hafter⟩ := halike.validate now later question
      exact ⟨congrArg Reply.verdict hverdict, hafter⟩

theorem CountedAlike.obey (halike : left.CountedAlike right) (now later : Timestamp) (line : List Char) :
    AnsweredAlike (left.obey now line) (right.obey later line) := by
  unfold Service.obey
  cases Command.read? line with
  | none => exact ⟨rfl, halike⟩
  | some command => exact halike.execute now later command

end Service

end WordSums
