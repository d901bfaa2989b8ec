import WordSums.Ledger.Basic

/-!
# Looking records up

A ledger is known from the record that it has for each question. Putting a record in changes that for its
own question and no other, and keeps the records in the order of their questions, so no question ever has
two.
-/

namespace WordSums

namespace Ledger

theorem lt_of_not_lt_of_ne {left right : String} (hlt : ¬ left < right) (hne : left ≠ right) : right < left := by
  by_cases hless : right < left
  · exact hless
  · exact absurd (String.le_antisymm (String.not_lt.1 hless) (String.not_lt.1 hlt)) hne

/-- Records in the order of their questions, no two of them for one question. -/
def InOrder (records : List FailureRecord) : Prop :=
  records.Pairwise fun left right => left.expression < right.expression

theorem InOrder.nodup {records : List FailureRecord} (hinOrder : InOrder records) :
    (records.map FailureRecord.expression).Nodup := by
  rw [List.nodup_iff_pairwise_ne, List.pairwise_map]
  refine List.Pairwise.imp (fun {left right} hlt heq => ?_) hinOrder
  rw [heq] at hlt
  exact String.lt_irrefl _ hlt

theorem find?_expression_cons (record : FailureRecord) (records : List FailureRecord) (expression : String) :
    ((record :: records).find? fun other => other.expression = expression) =
      if record.expression = expression then some record
      else records.find? fun other => other.expression = expression := by
  rw [List.find?_cons]
  by_cases hrecord : record.expression = expression
  · rw [decide_eq_true hrecord, if_pos hrecord]
  · rw [decide_eq_false hrecord, if_neg hrecord]

/-! ### Putting a record in -/

theorem mem_insertSorted {record other : FailureRecord} {records : List FailureRecord}
    (hmem : other ∈ insertSorted record records) : other = record ∨ other ∈ records := by
  induction records with
  | nil => exact .inl (List.mem_singleton.1 hmem)
  | cons head rest ih =>
    unfold insertSorted at hmem
    split at hmem
    · exact List.mem_cons.1 hmem
    · split at hmem
      · exact (List.mem_cons.1 hmem).imp_right (List.mem_cons_of_mem head)
      · rcases List.mem_cons.1 hmem with rfl | hrest
        · exact .inr List.mem_cons_self
        · exact (ih hrest).imp_right (List.mem_cons_of_mem head)

theorem inOrder_insertSorted {record : FailureRecord} {records : List FailureRecord} (hinOrder : InOrder records) :
    InOrder (insertSorted record records) := by
  induction records with
  | nil => exact List.pairwise_singleton _ _
  | cons head rest ih =>
    obtain ⟨hhead, hrest⟩ := List.pairwise_cons.1 hinOrder
    unfold insertSorted
    split
    · next hbefore =>
      refine List.pairwise_cons.2 ⟨fun other hother => ?_, hinOrder⟩
      rcases List.mem_cons.1 hother with rfl | hlater
      · exact hbefore
      · exact String.lt_trans hbefore (hhead other hlater)
    · next hnotBefore =>
      split
      · next hsame =>
        refine List.pairwise_cons.2 ⟨fun other hother => ?_, hrest⟩
        rw [hsame]
        exact hhead other hother
      · next hdiffers =>
        refine List.pairwise_cons.2 ⟨fun other hother => ?_, ih hrest⟩
        rcases mem_insertSorted hother with rfl | hlater
        · exact lt_of_not_lt_of_ne hnotBefore hdiffers
        · exact hhead other hlater

theorem find?_insertSorted (record : FailureRecord) (records : List FailureRecord) (expression : String) :
    ((insertSorted record records).find? fun other => other.expression = expression) =
      if record.expression = expression then some record
      else records.find? fun other => other.expression = expression := by
  induction records with
  | nil => exact find?_expression_cons record [] expression
  | cons head rest ih =>
    unfold insertSorted
    split
    · exact find?_expression_cons record (head :: rest) expression
    · split
      · next hsame =>
        rw [find?_expression_cons, find?_expression_cons, ← hsame]
        by_cases hrecord : record.expression = expression
        · rw [if_pos hrecord, if_pos hrecord]
        · rw [if_neg hrecord, if_neg hrecord, if_neg hrecord]
      · next hdiffers =>
        rw [find?_expression_cons, find?_expression_cons, ih]
        by_cases hhead : head.expression = expression
        · rw [if_pos hhead, if_neg (fun hrecord => hdiffers (hrecord.trans hhead.symm)), if_pos hhead]
        · rw [if_neg hhead, if_neg hhead]

theorem insertSorted_of_last {record : FailureRecord} {records : List FailureRecord}
    (hlast : ∀ other ∈ records, other.expression < record.expression) :
    insertSorted record records = records ++ [record] := by
  induction records with
  | nil => rfl
  | cons head rest ih =>
    obtain ⟨hhead, hrest⟩ := List.forall_mem_cons.1 hlast
    have hnotBefore : ¬ record.expression < head.expression := fun hbefore =>
      String.lt_irrefl _ (String.lt_trans hbefore hhead)
    have hdiffers : record.expression ≠ head.expression := fun hsame => String.lt_irrefl _ (hsame ▸ hhead)
    rw [insertSorted, if_neg hnotBefore, if_neg hdiffers, ih hrest, List.cons_append]

variable (ledger : Ledger) (record : FailureRecord) (expression : String)

theorem get?_insert :
    (ledger.insert record).get? expression =
      if record.expression = expression then some record else ledger.get? expression :=
  find?_insertSorted record ledger.records expression

variable {ledger record expression}

theorem expression_of_get? (hget : ledger.get? expression = some record) : record.expression = expression := by
  simpa using List.find?_some hget

theorem isSome_get?_iff :
    (ledger.get? expression).isSome ↔ ∃ record ∈ ledger.records, record.expression = expression := by
  simp [get?]

theorem find?_expression_eq_some_iff {records : List FailureRecord}
    (hdistinct : (records.map FailureRecord.expression).Nodup) :
    (records.find? fun other => other.expression = expression) = some record ↔
      record ∈ records ∧ record.expression = expression := by
  induction records with
  | nil => simp
  | cons head rest ih =>
    rw [List.map_cons, List.nodup_cons] at hdistinct
    rw [find?_expression_cons, List.mem_cons]
    by_cases hhead : head.expression = expression
    · rw [if_pos hhead, Option.some_inj]
      constructor
      · rintro rfl
        exact ⟨.inl rfl, hhead⟩
      · rintro ⟨rfl | hrest, hrecord⟩
        · rfl
        · exact absurd (List.mem_map.2 ⟨record, hrest, hrecord.trans hhead.symm⟩) hdistinct.1
    · rw [if_neg hhead, ih hdistinct.2]
      constructor
      · rintro ⟨hrest, hrecord⟩
        exact ⟨.inr hrest, hrecord⟩
      · rintro ⟨rfl | hrest, hrecord⟩
        · exact absurd hrecord hhead
        · exact ⟨hrest, hrecord⟩

theorem get?_eq_some_iff (hinOrder : InOrder ledger.records) :
    ledger.get? expression = some record ↔ record ∈ ledger.records ∧ record.expression = expression :=
  find?_expression_eq_some_iff hinOrder.nodup

end Ledger

end WordSums
