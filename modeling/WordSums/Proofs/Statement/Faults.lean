import WordSums.Proofs.Statement.Value

/-!
# How a sum can have no value

The tokens of a sum leave the evaluation nothing to object to but the arithmetic: every operand asks for
an operation, and every number is a literal, which may only be too great. An operation may divide by zero
or overflow, but a quotient never overflows, because a literal has no sign: dividing by it brings no word
further away from zero.
-/

namespace WordSums

open WordSums.Text

theorem bind_eq_error_iff {Fault α β : Type} {first : Except Fault α} {next : α → Except Fault β} {fault : Fault} :
    (first >>= next) = .error fault ↔
      first = .error fault ∨ ∃ value, first = .ok value ∧ next value = .error fault := by
  cases first with
  | error other =>
    have hpassed : (Except.error other : Except Fault α) >>= next = .error other := rfl
    simp [hpassed]
  | ok value =>
    have hcontinued : (Except.ok value : Except Fault α) >>= next = next value := rfl
    simp [hcontinued]

theorem map_eq_error_iff {Fault α β : Type} {first : Except Fault α} {change : α → β} {fault : Fault} :
    first.map change = .error fault ↔ first = .error fault := by
  cases first with
  | error other => simp [Except.map]
  | ok value => simp [Except.map]

theorem fitsWord_tdiv {value : Int} (hvalue : fitsWord value) (divisor : Nat) : fitsWord (value.tdiv divisor) := by
  have hcloser := Int.natAbs_tdiv_le_natAbs value divisor
  have hdivisor := Int.natCast_nonneg divisor
  unfold fitsWord leastWord greatestWord at *
  rcases Int.le_total 0 value with hpositive | hnegative
  · have hquotient := Int.tdiv_nonneg hpositive hdivisor
    omega
  · have hquotient := Int.tdiv_nonneg (Int.neg_nonneg_of_nonpos hnegative) hdivisor
    rw [Int.neg_tdiv] at hquotient
    omega

/-- A fault that is not the overflow of a quotient. -/
def ArithmeticFault.SparesQuotients (cause : ArithmeticFault) : Prop :=
  ∀ left right operation, cause = .overflow left right operation → operation ≠ .dividedBy

theorem ArithmeticFault.sparesQuotients_numberOutOfRange (text : String) : (numberOutOfRange text).SparesQuotients := by
  intro left right operation hoverflow
  cases hoverflow

theorem SumStep.sparesQuotients_of_apply {value : Int} {step : SumStep} {cause : ArithmeticFault}
    (hvalue : fitsWord value) (happly : step.operation.apply value step.operand.value = .error cause) :
    cause.SparesQuotients := by
  intro left right operation hoverflow hdivision
  unfold Operation.apply at happly
  dsimp only at happly
  split at happly
  · -- division by zero is reported as what it is
    rw [← Except.error.inj happly] at hoverflow
    cases hoverflow
  · split at happly
    · cases happly
    · next hmisfit =>
      rw [← Except.error.inj happly] at hoverflow
      obtain ⟨_, _, rfl⟩ := ArithmeticFault.overflow.inj hoverflow
      rw [hdivision] at hmisfit
      exact hmisfit (fitsWord_tdiv hvalue step.operand.value)

namespace Evaluation

theorem number_token_eq_error {literal : Literal} {position : Nat} {rest : List Token} {fault : Fault}
    (hnumber : number position (literal.token :: rest) = .error fault) :
    fault = .arithmetic (.numberOutOfRange literal.token.text) := by
  have hkind : literal.token.kind = .number := rfl
  rw [number, if_pos hkind, literal.toList_text_token, literal.readWord?_digits] at hnumber
  split at hnumber
  · cases hnumber
  · exact (Except.error.inj hnumber).symm

/-- Steps from a value that fits fail for arithmetic reasons, and never because a quotient overflows. -/
theorem continueFrom_eq_error {value : Int} {position : Nat} {steps : List SumStep} {fault : Fault}
    (hvalue : fitsWord value) (hrun : continueFrom value position (steps.flatMap SumStep.tokens) = .error fault) :
    ∃ cause, fault = .arithmetic cause ∧ cause.SparesQuotients := by
  induction steps generalizing value position with
  | nil => cases hrun
  | cons step steps ih =>
    rw [List.flatMap_cons, continueFrom_step] at hrun
    rcases bind_eq_error_iff.1 hrun with hnumber | ⟨operand, hnumber, hresult⟩
    · exact ⟨_, number_token_eq_error hnumber, ArithmeticFault.sparesQuotients_numberOutOfRange _⟩
    · obtain ⟨_, rfl⟩ := number_token.1 hnumber
      cases happly : step.operation.apply value step.operand.value with
      | error cause =>
        rw [happly] at hresult
        exact ⟨cause, (Except.error.inj hresult).symm, SumStep.sparesQuotients_of_apply hvalue happly⟩
      | ok result =>
        rw [happly] at hresult
        have hfits : fitsWord result := (SumStep.apply_eq_ok_iff.1 happly).2.2
        exact ih hfits hresult

theorem valueOf_terms_eq_error {sum : WordSum} {fault : Fault} (hrun : valueOf sum.terms = .error fault) :
    ∃ cause, fault = .arithmetic cause ∧ cause.SparesQuotients := by
  rw [valueOf, WordSum.terms, List.tail_cons] at hrun
  rcases bind_eq_error_iff.1 hrun with hnumber | ⟨first, hnumber, hsteps⟩
  · exact ⟨_, number_token_eq_error hnumber, ArithmeticFault.sparesQuotients_numberOutOfRange _⟩
  · obtain ⟨hfirst, rfl⟩ := number_token.1 hnumber
    refine continueFrom_eq_error ?_ hsteps
    rw [WordSum.fitsWord_iff]
    omega

theorem evaluate_eq_error_iff {tokens : List Token} {fault : Fault} :
    (evaluate tokens).value = .error fault ↔ valueOf tokens = .error fault := by
  unfold evaluate
  cases valueOf tokens with
  | error other => rfl
  | ok result => exact ⟨nofun, nofun⟩

end Evaluation

end WordSums
