import Mathlib.Data.List.Sort
import WordSums.Proofs.Service.Accounting
import WordSums.Proofs.Stages

/-!
# Calls in another order

What a service says to a call does not depend on the calls before it, as long as the failure can be counted;
and fewer than 2^64 calls never fill a counter. How often a question has failed does not depend on the order of
the calls either. The kind of a record is that of the first failure, but where both judgements fail a question
for one reason, every failure of the question has the same kind. The standard pipeline is such an interpreter.
-/

namespace WordSums

open WordSums.Time

/-- What a call asks, whenever it is made. -/
def Call.asked (call : Call) : Method × String :=
  (call.method, call.question)

/-- What all orders of the same calls agree on. -/
def FailureRecord.summary (record : FailureRecord) : String × UInt64 × FaultKind :=
  (record.expression, record.frequency, record.kind)

theorem Failure.length_ofExpression (failures : List Failure) (expression : String) :
    (ofExpression failures expression).length = (failures.map Failure.expression).count expression := by
  rw [ofExpression, ← List.countP_eq_length_filter, List.count, List.countP_map]
  rfl

namespace Interpreter

variable {interpreter : Interpreter} {calls : List Call}

/-- What a caller is told when there is room to count a failure; no reading of the clock has a part in it. -/
def reply (interpreter : Interpreter) (asked : Method × String) : Except ServiceFault (Option Int) :=
  (interpreter.judge ⟨asked.1, asked.2, .epoch⟩).mapError .expression

theorem reply_asked (interpreter : Interpreter) (call : Call) :
    interpreter.reply call.asked = (interpreter.judge call).mapError .expression := rfl

/-- The question of a call that fails, as far as that depends on what is asked. -/
def failed? (interpreter : Interpreter) (asked : Method × String) : Option String :=
  (interpreter.failure? ⟨asked.1, asked.2, .epoch⟩).map Failure.expression

theorem failed?_asked (interpreter : Interpreter) (call : Call) :
    interpreter.failed? call.asked = (interpreter.failure? call).map Failure.expression := by
  have hjudge : interpreter.judge ⟨call.asked.1, call.asked.2, .epoch⟩ = interpreter.judge call := rfl
  unfold failed? failure?
  rw [hjudge]
  cases interpreter.judge call with
  | ok answer => rfl
  | error fault => by_cases hkind : fault.kind = .internal <;> simp [hkind, Call.asked]

theorem expressions_failures (interpreter : Interpreter) (calls : List Call) :
    (interpreter.failures calls).map Failure.expression = (calls.map Call.asked).filterMap interpreter.failed? := by
  rw [failures, List.map_filterMap, List.filterMap_map]
  apply List.filterMap_congr
  intro call _
  exact (interpreter.failed?_asked call).symm

theorem length_failures_le (interpreter : Interpreter) (calls : List Call) :
    (interpreter.failures calls).length ≤ calls.length :=
  List.length_filterMap_le _ _

/-- An interpreter without faults of its own that fails no question in two ways. -/
structure Uniform (interpreter : Interpreter) : Prop where
  kind_ne {call : Call} {fault : Fault} (hjudge : interpreter.judge call = .error fault) : fault.kind ≠ .internal
  evaluate {call : Call} {fault : Fault} (hjudge : interpreter.judge call = .error fault) :
    (interpreter.evaluate call.question).value = .error fault

theorem Uniform.evaluate_of_failure (huniform : interpreter.Uniform) {failure : Failure}
    (hfailure : failure ∈ interpreter.failures calls) :
    ∃ fault, (interpreter.evaluate failure.expression).value = .error fault ∧ fault.kind = failure.kind := by
  obtain ⟨call, _, hfails⟩ := List.mem_filterMap.1 hfailure
  obtain ⟨fault, hjudge, _, rfl⟩ := failure?_eq_some_iff.1 hfails
  exact ⟨fault, huniform.evaluate hjudge, rfl⟩

end Interpreter

theorem Pipeline.uniform_standard (limit : Nat) : (standard limit).interpreter.Uniform := by
  have hevaluate {call : Call} {fault : Fault} (hjudge : (standard limit).interpreter.judge call = .error fault) :
      ((standard limit).evaluate call.question).value = .error fault := by
    unfold Interpreter.judge at hjudge
    split at hjudge
    · have hvalidate : ((standard limit).validate call.question).value = .error fault := map_eq_error_iff.1 hjudge
      exact (validate_standard_eq_error_iff.1 hvalidate).1
    · exact map_eq_error_iff.1 hjudge
  exact ⟨fun hjudge => kind_of_evaluate_standard (hevaluate hjudge), hevaluate⟩

namespace Service

variable {interpreter : Interpreter} {before calls first second : List Call} {record : FailureRecord}

/-! ### What callers are told -/

theorem frequency_recordOf_le (failures : List Failure) (failure : Failure) :
    ((Ledger.empty.countAll failures).recordOf failure).frequency.toNat ≤ failures.length := by
  unfold Ledger.recordOf
  cases hget : (Ledger.empty.countAll failures).get? failure.expression with
  | none => exact Nat.zero_le _
  | some record =>
    obtain ⟨first, later, hfailures, hcontinues⟩ := Ledger.continues_of_unknown rfl hget
    have hsome : (Failure.ofExpression failures failure.expression).length ≤ failures.length :=
      List.length_filter_le _ _
    have hcounted : record.frequency.toNat = min (0 + (first :: later).length) greatestFrequency := by
      rw [hcontinues.frequency, List.length_map]
      rfl
    rw [hfailures] at hsome
    rw [Option.getD_some, hcounted]
    omega

theorem serve_fst (huniform : interpreter.Uniform) (hroom : before.length < greatestFrequency) (call : Call) :
    (((fresh interpreter).serveAll before).serve call).1 = interpreter.reply call.asked := by
  rw [serveAll_fresh, serve_eq, Interpreter.reply_asked]
  change (settle _ call.method call.question call.time (interpreter.judge call)).value.1 = _
  cases hjudge : interpreter.judge call with
  | ok answer => rfl
  | error fault =>
    have hfrequency := frequency_recordOf_le (interpreter.failures before)
      ⟨call.question, call.method, fault.kind, call.time⟩
    have hlength := interpreter.length_failures_le before
    rw [settle_counted (huniform.kind_ne hjudge) rfl]
    dsimp only
    rw [if_pos (by omega)]
    rfl

theorem answers_serveAll (huniform : interpreter.Uniform) (before : List Call)
    (hfew : (before ++ calls).length < 2 ^ 64) :
    ((fresh interpreter).serveAll before).answers calls = calls.map fun call => interpreter.reply call.asked := by
  induction calls generalizing before with
  | nil => rfl
  | cons call calls ih =>
    have hroom : before.length < greatestFrequency := by
      have hsize : greatestFrequency + 1 = 2 ^ 64 := rfl
      rw [List.length_append, List.length_cons] at hfew
      omega
    rw [List.append_cons] at hfew
    rw [answers, serve_fst huniform hroom, ← serveAll_concat, ih _ hfew, List.map_cons]

/-! ### What is listed -/

/-- What is said of a listed record without mention of the order of the calls. -/
theorem of_listed (huniform : interpreter.Uniform) (hrecord : record ∈ ((fresh interpreter).serveAll calls).failures) :
    (∃ fault, (interpreter.evaluate record.expression).value = .error fault ∧ fault.kind = record.kind) ∧
      record.frequency.toNat =
        min (((calls.map Call.asked).filterMap interpreter.failed?).count record.expression) greatestFrequency := by
  rw [serveAll_fresh] at hrecord
  have hinOrder := Ledger.inOrder_countAll Ledger.Opens.empty.inOrder (interpreter.failures calls)
  have hget := (Ledger.get?_eq_some_iff hinOrder).2 ⟨hrecord, rfl⟩
  obtain ⟨first, later, hfailures, hcontinues⟩ := Ledger.continues_of_unknown rfl hget
  have hfirst : first ∈ Failure.ofExpression (interpreter.failures calls) record.expression :=
    hfailures ▸ List.mem_cons_self
  obtain ⟨hmem, hsame⟩ := List.mem_filter.1 hfirst
  constructor
  · obtain ⟨fault, hevaluate, hkind⟩ := huniform.evaluate_of_failure hmem
    rw [of_decide_eq_true hsame] at hevaluate
    exact ⟨fault, hevaluate, hkind.trans hcontinues.kind.symm⟩
  · rw [hcontinues.frequency, List.length_map, ← hfailures, Failure.length_ofExpression,
      interpreter.expressions_failures]
    exact congrArg (min · greatestFrequency) (Nat.zero_add _)

theorem exists_listed_iff_failed {expression : String} :
    (∃ record ∈ ((fresh interpreter).serveAll calls).failures, record.expression = expression) ↔
      expression ∈ (calls.map Call.asked).filterMap interpreter.failed? := by
  rw [exists_listed_iff, ← interpreter.expressions_failures, List.mem_map]

theorem summary_mem_of_perm (huniform : interpreter.Uniform)
    (hasked : (first.map Call.asked).Perm (second.map Call.asked))
    {summary : String × UInt64 × FaultKind}
    (hsummary : summary ∈ ((fresh interpreter).serveAll first).failures.map FailureRecord.summary) :
    summary ∈ ((fresh interpreter).serveAll second).failures.map FailureRecord.summary := by
  obtain ⟨record, hrecord, rfl⟩ := List.mem_map.1 hsummary
  have hfailed := hasked.filterMap interpreter.failed?
  have hexpression := hfailed.mem_iff.1 (exists_listed_iff_failed.1 ⟨record, hrecord, rfl⟩)
  obtain ⟨other, hother, hsame⟩ := exists_listed_iff_failed.2 hexpression
  obtain ⟨⟨fault, hevaluate, hkind⟩, hfrequency⟩ := of_listed huniform hrecord
  obtain ⟨⟨otherFault, hotherEvaluate, hotherKind⟩, hotherFrequency⟩ := of_listed huniform hother
  rw [hsame] at hotherEvaluate hotherFrequency
  have hfaults : otherFault = fault := Except.error.inj (hotherEvaluate.symm.trans hevaluate)
  have hfrequencies : other.frequency = record.frequency := by
    apply UInt64.toNat.inj
    rw [hfrequency, hotherFrequency, hfailed.count_eq]
  have hkinds : other.kind = record.kind := by
    rw [← hkind, ← hotherKind, hfaults]
  have hsummaries : other.summary = record.summary := by
    rw [FailureRecord.summary, FailureRecord.summary, hsame, hfrequencies, hkinds]
  exact hsummaries ▸ List.mem_map_of_mem hother

theorem summaries_of_perm (huniform : interpreter.Uniform)
    (hasked : (first.map Call.asked).Perm (second.map Call.asked)) :
    ((fresh interpreter).serveAll first).failures.map FailureRecord.summary =
      ((fresh interpreter).serveAll second).failures.map FailureRecord.summary := by
  have hordered (calls : List Call) : (((fresh interpreter).serveAll calls).failures.map
      FailureRecord.summary).Pairwise fun left right => left.1 < right.1 :=
    List.pairwise_map.2 (inOrder_serveAll interpreter calls)
  have hdistinct (calls : List Call) :
      (((fresh interpreter).serveAll calls).failures.map FailureRecord.summary).Nodup := by
    refine (hordered calls).imp ?_
    rintro left _ hlt rfl
    exact String.lt_irrefl _ hlt
  have hsame := (List.perm_ext_iff_of_nodup (hdistinct first) (hdistinct second)).2 fun _ =>
    ⟨summary_mem_of_perm huniform hasked, summary_mem_of_perm huniform hasked.symm⟩
  refine hsame.eq_of_pairwise ?_ (hordered first) (hordered second)
  intro left right _ _ hlt hgt
  exact absurd (String.lt_trans hlt hgt) (String.lt_irrefl _)

/-- The standard service tells callers the same in whatever order they call, and lists the same failures of the
same kinds: those for which the questions have no answer. -/
theorem reordering_unnoticed (settings : Settings) (hrecording : settings.recording = true) {first second : List Call}
    (hfew : first.length < 2 ^ 64) (hasked : (first.map Call.asked).Perm (second.map Call.asked)) :
    let service := Service.standard settings .empty
    service.answers first = first.map (fun call => service.interpreter.reply call.asked) ∧
      service.answers second = second.map (fun call => service.interpreter.reply call.asked) ∧
      (service.serveAll first).failures.map FailureRecord.summary =
        (service.serveAll second).failures.map FailureRecord.summary ∧
      ∀ record ∈ (service.serveAll first).failures, ∃ fault,
        ((Pipeline.standard settings.greatestLength.toNat).evaluate record.expression).value = .error fault ∧
          fault.kind = record.kind := by
  intro service
  have huniform := Pipeline.uniform_standard settings.greatestLength.toNat
  have hfresh : service = fresh (Pipeline.standard settings.greatestLength.toNat).interpreter := by
    rw [fresh, ← hrecording]
    rfl
  have hfewer : second.length < 2 ^ 64 := by
    have hlength := hasked.length_eq
    rw [List.length_map, List.length_map] at hlength
    omega
  rw [hfresh]
  refine ⟨?_, ?_, summaries_of_perm huniform hasked, fun record hrecord => (of_listed huniform hrecord).1⟩
  · exact answers_serveAll huniform [] hfew
  · exact answers_serveAll huniform [] hfewer

theorem reordering_unnoticed_standard :
    let settings : Settings := {}
    let service := Service.standard settings .empty
    let first : List Call := [⟨.validate, "What is 1 divided by 0?", .epoch⟩,
      ⟨.evaluate, "What is 1 divided by 0?", .epoch⟩, ⟨.validate, "Who?", .epoch⟩, ⟨.evaluate, "Who?", .epoch⟩]
    settings.recording = true ∧ first.length < 2 ^ 64 ∧ (first.map Call.asked).Perm (first.reverse.map Call.asked) ∧
      service.answers first = first.map (fun call => service.interpreter.reply call.asked) ∧
      service.answers first.reverse = first.reverse.map (fun call => service.interpreter.reply call.asked) ∧
      (service.serveAll first).failures.map FailureRecord.summary =
        (service.serveAll first.reverse).failures.map FailureRecord.summary ∧
      ∀ record ∈ (service.serveAll first).failures, ∃ fault,
        ((Pipeline.standard settings.greatestLength.toNat).evaluate record.expression).value = .error fault ∧
          fault.kind = record.kind := by
  intro settings service first
  have hfew : first.length < 2 ^ 64 := by decide
  have hasked : (first.map Call.asked).Perm (first.reverse.map Call.asked) := first.reverse_perm.symm.map _
  exact ⟨rfl, hfew, hasked, reordering_unnoticed settings rfl hfew hasked⟩

end Service

end WordSums
