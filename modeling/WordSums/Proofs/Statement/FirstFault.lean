import WordSums.Proofs.Statement.Faults
import WordSums.Proofs.Statement.SignedSum

/-!
# The first fault of an evaluation

An evaluation goes through its tokens once, from left to right. What it has behind it is always a sum that
fits, and its value is the running value; in front of it is either the end, or a step that fits and becomes
part of the sum, or a step with a fault, which ends it. A step is looked at in one order: its operand, its
number, the operation. So any tokens are those of a sum that fits or have a first fault, and never both.
-/

namespace WordSums

open WordSums.Text

/-- What is wrong with the number that should stand next, at its position. -/
inductive NumberFault (position : Nat) : List Token → Fault → Prop
  | missing : NumberFault position [] (.invalidSyntax .unexpectedEnd position)
  | otherKind {token : Token} {rest : List Token} (hkind : token.kind ≠ .number) :
      NumberFault position (token :: rest) (.invalidSyntax .expectedNumber position)
  | outOfRange {text : String} {rest : List Token}
      (hrange : ∀ number : SignedLiteral, text = String.ofList number.text → ¬ fitsWord number.value) :
      NumberFault position (⟨.number, text⟩ :: rest) (.arithmetic (.numberOutOfRange text))

/-- What is wrong first with the step that should stand next, from a running value. -/
inductive StepFault (value : Int) (position : Nat) : List Token → Fault → Prop
  | noOperation {token : Token} {rest : List Token} (hother : ∀ operation, token ≠ ⟨.operand, Operation.phrase operation⟩) :
      StepFault value position (token :: rest) (.invalidSyntax .expectedOperationOrEnd position)
  | noNumber {operation : Operation} {rest : List Token} {fault : Fault} (hnumber : NumberFault (position + 1) rest fault) :
      StepFault value position (⟨.operand, operation.phrase⟩ :: rest) fault
  | divisionByZero {step : SignedStep} {rest : List Token} (hdivision : step.operation = .dividedBy)
      (hzero : step.operand.value = 0) :
      StepFault value position (step.tokens ++ rest) (.arithmetic (.divisionByZero value))
  | overflow {step : SignedStep} {rest : List Token} (hoperand : fitsWord step.operand.value)
      (hdivisor : step.operation = .dividedBy → step.operand.value ≠ 0) (hresult : ¬ fitsWord (step.reduce value)) :
      StepFault value position (step.tokens ++ rest) (.arithmetic (.overflow value step.operand.value step.operation))

/-- What is wrong first with some tokens: their first number, or a step behind a sum that fits. -/
inductive FirstFault : List Token → Fault → Prop
  | number {tokens : List Token} {fault : Fault} (hnumber : NumberFault 0 tokens fault) : FirstFault tokens fault
  | step {sum : SignedSum} {rest : List Token} {fault : Fault} (hfits : sum.FitsWords)
      (hstep : StepFault sum.value sum.terms.length rest fault) : FirstFault (sum.terms ++ rest) fault

/-! ### Sums that grow by a step -/

namespace SignedSum

def followedBy (sum : SignedSum) (step : SignedStep) : SignedSum :=
  ⟨sum.first, sum.steps ++ [step]⟩

theorem terms_followedBy (sum : SignedSum) (step : SignedStep) :
    (sum.followedBy step).terms = sum.terms ++ step.tokens := by
  simp [followedBy, terms]

theorem value_followedBy (sum : SignedSum) (step : SignedStep) :
    (sum.followedBy step).value = step.reduce sum.value := by
  simp [followedBy, value, SignedStep.reduce]

theorem fitsWords_single_iff {number : SignedLiteral} : FitsWords ⟨number, []⟩ ↔ fitsWord number.value := by
  constructor
  · intro hfits
    exact hfits.numbers number (by simp [numbers])
  · intro hnumber
    exact ⟨by simpa [numbers] using hnumber, by simp, by simpa [values] using hnumber⟩

theorem fitsWords_followedBy_iff {sum : SignedSum} {step : SignedStep} :
    (sum.followedBy step).FitsWords ↔ sum.FitsWords ∧ step.Fits sum.value := by
  have hnumbers : (sum.followedBy step).numbers = sum.numbers ++ [step.operand] := by simp [followedBy, numbers]
  have hvalues : (sum.followedBy step).values = sum.values ++ [step.reduce sum.value] := by
    simp [followedBy, values, value, List.scanl_append]
  constructor
  · intro hfits
    have hallNumbers := hfits.numbers
    have hallValues := hfits.values
    rw [hnumbers, List.forall_mem_append] at hallNumbers
    rw [hvalues, List.forall_mem_append] at hallValues
    obtain ⟨hdivisors, hdivisor⟩ := List.forall_mem_append.1 hfits.divisors
    exact ⟨⟨hallNumbers.1, hdivisors, hallValues.1⟩, hallNumbers.2 _ (List.mem_singleton_self _),
      hdivisor _ (List.mem_singleton_self _), hallValues.2 _ (List.mem_singleton_self _)⟩
  · intro hboth
    obtain ⟨hfits, hstep⟩ := hboth
    refine ⟨?_, ?_, ?_⟩
    · rw [hnumbers]
      exact List.forall_mem_append.2 ⟨hfits.numbers, by simpa using hstep.operand⟩
    · exact List.forall_mem_append.2 ⟨hfits.divisors, by simpa using hstep.divisor⟩
    · rw [hvalues]
      exact List.forall_mem_append.2 ⟨hfits.values, by simpa using hstep.result⟩

end SignedSum

namespace Evaluation

/-! ### A number and a step -/

theorem number_eq_ok_iff {position : Nat} {tokens : List Token} {value : Int} :
    number position tokens = .ok value ↔
      ∃ literal rest, tokens = SignedLiteral.token literal :: rest ∧ fitsWord literal.value ∧ value = literal.value := by
  constructor
  · intro hnumber
    unfold number at hnumber
    split at hnumber
    · cases hnumber
    · next token rest =>
      split at hnumber
      · next hkind =>
        split at hnumber
        · next hread =>
          obtain ⟨literal, htext, rfl, hfits⟩ := SignedLiteral.readWord?_eq_some_iff.1 hread
          refine ⟨literal, rest, ?_, hfits, (Except.ok.inj hnumber).symm⟩
          rw [SignedLiteral.token, ← hkind, ← htext, String.ofList_toList]
        · cases hnumber
      · cases hnumber
  · intro hliteral
    obtain ⟨literal, rest, rfl, hfits, rfl⟩ := hliteral
    have hread : readWord? (String.ofList literal.text).toList = some literal.value :=
      SignedLiteral.readWord?_eq_some_iff.2 ⟨literal, String.toList_ofList, rfl, hfits⟩
    rw [number, SignedLiteral.token, if_pos rfl, hread]

theorem number_eq_error_iff {position : Nat} {tokens : List Token} {fault : Fault} :
    number position tokens = .error fault ↔ NumberFault position tokens fault := by
  constructor
  · intro hnumber
    unfold number at hnumber
    split at hnumber
    · obtain rfl := Except.error.inj hnumber
      exact .missing
    · next token rest =>
      split at hnumber
      · next hkind =>
        split at hnumber
        · cases hnumber
        · next hread =>
          obtain rfl := Except.error.inj hnumber
          obtain ⟨kind, text⟩ := token
          obtain rfl : kind = .number := hkind
          refine .outOfRange fun literal htext => ?_
          exact SignedLiteral.readWord?_eq_none_iff.1 hread literal (by rw [htext, String.toList_ofList])
      · next hkind =>
        obtain rfl := Except.error.inj hnumber
        exact .otherKind hkind
  · intro hfault
    cases hfault with
    | missing => rfl
    | otherKind hkind => rw [number, if_neg hkind]
    | @outOfRange text rest hrange =>
      have hread : readWord? text.toList = none := by
        refine SignedLiteral.readWord?_eq_none_iff.2 fun literal htext => hrange literal ?_
        rw [← htext, String.ofList_toList]
      rw [number, if_pos rfl, hread]

theorem operation_eq_error {position : Nat} {token : Token} (hother : ∀ asked, token ≠ ⟨.operand, Operation.phrase asked⟩) :
    operation position token = .error (.invalidSyntax .expectedOperationOrEnd position) := by
  unfold operation
  split
  · next asked hkind hphrase =>
    have htoken : token = ⟨.operand, asked.phrase⟩ := by
      rw [← hkind, ← Operation.ofPhrase?_eq_some_iff.1 hphrase]
    exact absurd htoken (hother asked)
  · rfl

/-- With an operand in front, what follows is the number and then the operation. -/
theorem continueFrom_operand (value : Int) (position : Nat) (asked : Operation) (rest : List Token) :
    continueFrom value position (⟨.operand, asked.phrase⟩ :: rest) = (do
      let operand ← number (position + 1) rest
      match asked.apply value operand with
      | .error fault => .error (.arithmetic fault)
      | .ok result =>
        match rest with
        | [] => .ok result
        | _ :: rest => continueFrom result (position + 2) rest) := by
  rw [continueFrom, operation_phrase]
  rfl

theorem continueFrom_signedStep {value : Int} {position : Nat} {step : SignedStep} {rest : List Token}
    (hoperand : fitsWord step.operand.value) :
    continueFrom value position (step.tokens ++ rest) =
      match step.operation.apply value step.operand.value with
      | .error fault => .error (.arithmetic fault)
      | .ok result => continueFrom result (position + 2) rest := by
  have hnumber : number (position + 1) (step.operand.token :: rest) = .ok step.operand.value :=
    number_eq_ok_iff.2 ⟨step.operand, rest, rfl, hoperand, rfl⟩
  rw [SignedStep.tokens, List.cons_append, List.cons_append, List.nil_append, continueFrom_operand, hnumber]
  rfl

theorem continueFrom_of_fits {value : Int} {position : Nat} {step : SignedStep} {rest : List Token}
    (hfits : step.Fits value) :
    continueFrom value position (step.tokens ++ rest) = continueFrom (step.reduce value) (position + 2) rest := by
  have happly : step.operation.apply value step.operand.value = .ok (step.reduce value) :=
    Operation.apply_eq_ok_iff.2 ⟨fun hzero => hfits.divisor hzero.1 hzero.2, rfl, hfits.result⟩
  rw [continueFrom_signedStep hfits.operand, happly]

theorem continueFrom_of_stepFault {value : Int} {position : Nat} {tokens : List Token} {fault : Fault}
    (hfault : StepFault value position tokens fault) : continueFrom value position tokens = .error fault := by
  cases hfault with
  | noOperation hother =>
    rw [continueFrom, operation_eq_error hother]
    rfl
  | noNumber hnumber =>
    rw [continueFrom_operand, number_eq_error_iff.2 hnumber]
    rfl
  | @divisionByZero step rest hdivision hzero =>
    have hoperand : fitsWord step.operand.value := by
      rw [hzero]
      decide
    rw [continueFrom_signedStep hoperand, Operation.apply, if_pos ⟨hdivision, hzero⟩]
  | @overflow step rest hoperand hdivisor hresult =>
    have happly : step.operation.apply value step.operand.value =
        .error (.overflow value step.operand.value step.operation) := by
      rw [Operation.apply, if_neg fun hzero => hdivisor hzero.1 hzero.2]
      exact if_neg hresult
    rw [continueFrom_signedStep hoperand, happly]

/-- A step that is looked at fits, or has a fault. -/
theorem fits_or_stepFault (value : Int) (position : Nat) (token : Token) (rest : List Token) :
    (∃ step later, token :: rest = SignedStep.tokens step ++ later ∧ step.Fits value) ∨
      ∃ fault, StepFault value position (token :: rest) fault := by
  by_cases hoperation : ∃ asked, token = ⟨.operand, Operation.phrase asked⟩
  · obtain ⟨asked, rfl⟩ := hoperation
    cases hnumber : number (position + 1) rest with
    | error fault => exact .inr ⟨fault, .noNumber (number_eq_error_iff.1 hnumber)⟩
    | ok operand =>
      obtain ⟨literal, later, rfl, hfits, rfl⟩ := number_eq_ok_iff.1 hnumber
      let step : SignedStep := ⟨asked, literal⟩
      by_cases hzero : asked = .dividedBy ∧ literal.value = 0
      · have hfault : StepFault value position (step.tokens ++ later) (.arithmetic (.divisionByZero value)) :=
          .divisionByZero hzero.1 hzero.2
        exact .inr ⟨_, hfault⟩
      · have hdivisor : step.operation = .dividedBy → step.operand.value ≠ 0 :=
          fun hdivision hvalue => hzero ⟨hdivision, hvalue⟩
        by_cases hresult : fitsWord (step.reduce value)
        · exact .inl ⟨step, later, rfl, hfits, hdivisor, hresult⟩
        · have hfault : StepFault value position (step.tokens ++ later) _ := .overflow hfits hdivisor hresult
          exact .inr ⟨_, hfault⟩
  · exact .inr ⟨_, .noOperation fun asked htoken => hoperation ⟨asked, htoken⟩⟩

/-! ### All the tokens -/

/-- Behind a sum that fits, the evaluation goes on from its value. -/
theorem valueOf_append {sum : SignedSum} (hfits : sum.FitsWords) (rest : List Token) :
    valueOf (sum.terms ++ rest) = continueFrom sum.value sum.terms.length rest := by
  obtain ⟨first, steps⟩ := sum
  -- a sum grows at its end, so the last step is what the induction takes away
  induction steps using List.reverseRecOn generalizing rest with
  | nil =>
    have hnumber : number 0 (first.token :: rest) = .ok first.value :=
      number_eq_ok_iff.2 ⟨first, rest, rfl, SignedSum.fitsWords_single_iff.1 hfits, rfl⟩
    change valueOf (first.token :: rest) = _
    rw [valueOf, hnumber]
    rfl
  | append_singleton steps step ih =>
    let before : SignedSum := ⟨first, steps⟩
    have hgrown : (⟨first, steps ++ [step]⟩ : SignedSum) = before.followedBy step := rfl
    rw [hgrown] at hfits ⊢
    obtain ⟨hbefore, hstep⟩ := SignedSum.fitsWords_followedBy_iff.1 hfits
    rw [SignedSum.terms_followedBy, SignedSum.value_followedBy, List.append_assoc, ih _ hbefore,
      continueFrom_of_fits hstep, List.length_append]
    rfl

theorem valueOf_of_firstFault {tokens : List Token} {fault : Fault} (hfault : FirstFault tokens fault) :
    valueOf tokens = .error fault := by
  cases hfault with
  | number hnumber =>
    rw [valueOf, number_eq_error_iff.2 hnumber]
    rfl
  | step hfits hstep => rw [valueOf_append hfits, continueFrom_of_stepFault hstep]

theorem fits_or_firstFault_append {sum : SignedSum} (hfits : sum.FitsWords) (rest : List Token) :
    (∃ whole : SignedSum, sum.terms ++ rest = whole.terms ∧ whole.FitsWords) ∨
      ∃ fault, FirstFault (sum.terms ++ rest) fault := by
  -- a step that fits goes over to the sum and takes two tokens from the rest
  induction hlength : rest.length using Nat.strong_induction_on generalizing sum rest with
  | h length ih =>
    cases rest with
    | nil => exact .inl ⟨sum, List.append_nil _, hfits⟩
    | cons token rest =>
      cases fits_or_stepFault sum.value sum.terms.length token rest with
      | inl hstep =>
        obtain ⟨step, later, hrest, hstepFits⟩ := hstep
        have hgrown := SignedSum.fitsWords_followedBy_iff.2 ⟨hfits, hstepFits⟩
        have hshorter : later.length < length := by
          have htaken : step.tokens.length = 2 := rfl
          rw [← hlength, hrest, List.length_append, htaken]
          omega
        rw [hrest, ← List.append_assoc, ← SignedSum.terms_followedBy]
        exact ih later.length hshorter hgrown later rfl
      | inr hfault =>
        obtain ⟨fault, hfault⟩ := hfault
        exact .inr ⟨fault, .step hfits hfault⟩

theorem fits_or_firstFault (tokens : List Token) :
    (∃ sum : SignedSum, tokens = sum.terms ∧ sum.FitsWords) ∨ ∃ fault, FirstFault tokens fault := by
  cases hnumber : number 0 tokens with
  | error fault => exact .inr ⟨fault, .number (number_eq_error_iff.1 hnumber)⟩
  | ok value =>
    obtain ⟨literal, rest, rfl, hfits, rfl⟩ := number_eq_ok_iff.1 hnumber
    exact fits_or_firstFault_append (SignedSum.fitsWords_single_iff.2 hfits) rest

theorem valueOf_of_fitsWords {sum : SignedSum} (hfits : sum.FitsWords) : valueOf sum.terms = .ok sum.value := by
  have hwhole := valueOf_append hfits []
  rwa [List.append_nil] at hwhole

theorem valueOf_eq_ok_iff {tokens : List Token} {answer : Int} :
    valueOf tokens = .ok answer ↔ ∃ sum : SignedSum, tokens = sum.terms ∧ sum.FitsWords ∧ answer = sum.value := by
  constructor
  · intro hanswer
    cases fits_or_firstFault tokens with
    | inl hsum =>
      obtain ⟨sum, rfl, hfits⟩ := hsum
      rw [valueOf_of_fitsWords hfits] at hanswer
      exact ⟨sum, rfl, hfits, (Except.ok.inj hanswer).symm⟩
    | inr hfault =>
      obtain ⟨fault, hfault⟩ := hfault
      rw [valueOf_of_firstFault hfault] at hanswer
      cases hanswer
  · intro hsum
    obtain ⟨sum, rfl, hfits, rfl⟩ := hsum
    exact valueOf_of_fitsWords hfits

theorem valueOf_eq_error_iff {tokens : List Token} {fault : Fault} :
    valueOf tokens = .error fault ↔ FirstFault tokens fault := by
  constructor
  · intro herror
    cases fits_or_firstFault tokens with
    | inl hsum =>
      obtain ⟨sum, rfl, hfits⟩ := hsum
      rw [valueOf_of_fitsWords hfits] at herror
      cases herror
    | inr hfault =>
      obtain ⟨other, hother⟩ := hfault
      rw [valueOf_of_firstFault hother] at herror
      obtain rfl := Except.error.inj herror
      exact hother
  · exact valueOf_of_firstFault

end Evaluation

/-! ### More tokens -/

/-- A fault of arithmetic is found in the tokens up to it, so more tokens behind them leave it first. -/
theorem FirstFault.append {tokens : List Token} {cause : ArithmeticFault}
    (hfault : FirstFault tokens (.arithmetic cause)) (more : List Token) :
    FirstFault (tokens ++ more) (.arithmetic cause) := by
  cases hfault with
  | number hnumber =>
    cases hnumber with
    | outOfRange hrange => exact .number (.outOfRange hrange)
  | step hfits hstep =>
    rw [List.append_assoc]
    refine .step hfits ?_
    cases hstep with
    | noNumber hnumber =>
      cases hnumber with
      | outOfRange hrange => exact .noNumber (.outOfRange hrange)
    | divisionByZero hdivision hzero =>
      rw [List.append_assoc]
      exact .divisionByZero hdivision hzero
    | overflow hoperand hdivisor hresult =>
      rw [List.append_assoc]
      exact .overflow hoperand hdivisor hresult

/-- The evaluation of any tokens is exact. It has an answer exactly on the tokens of a sum of signed
literals that can be worked out in words, and that is the value of the sum; tokens are those of a sum
exactly when numbers and operands alternate in them. Otherwise it reports the first fault, and tokens
behind a fault of arithmetic do not change it. -/
theorem Evaluation.evaluate_exact (tokens : List Token) :
    (∀ answer, (evaluate tokens).value = .ok answer ↔
      ∃ sum : SignedSum, tokens = sum.terms ∧ sum.FitsWords ∧ answer = sum.value) ∧
    ((∃ sum : SignedSum, tokens = sum.terms) ↔ Alternates tokens) ∧
    (∀ fault, (evaluate tokens).value = .error fault ↔ FirstFault tokens fault) ∧
    ∀ cause, (evaluate tokens).value = .error (.arithmetic cause) →
      ∀ more, (evaluate (tokens ++ more)).value = .error (.arithmetic cause) := by
  refine ⟨fun answer => ?_, SignedSum.exists_terms_iff, fun fault => ?_, fun cause hcause more => ?_⟩
  · rw [evaluate_eq_ok_iff, valueOf_eq_ok_iff]
  · rw [evaluate_eq_error_iff, valueOf_eq_error_iff]
  · rw [evaluate_eq_error_iff, valueOf_eq_error_iff] at hcause ⊢
    exact hcause.append more

end WordSums
