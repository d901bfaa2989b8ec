import WordSums.Proofs.Statement.WordSum
import WordSums.Statement.Evaluation

/-!
# The value of a sum

The evaluation checks as it goes along: each numeral before it is used, each divisor before it
divides, each result before the next operation takes it. A check that fails ends the evaluation, so
an answer means that all of them held, and then every result was that of the unbounded integers. The
value before a step always fits a word, which is what carries the argument from step to step.
-/

namespace WordSums

open WordSums.Text

theorem bind_eq_ok_iff {Fault α β : Type} {first : Except Fault α} {next : α → Except Fault β} {result : β} :
    (first >>= next) = .ok result ↔ ∃ value, first = .ok value ∧ next value = .ok result := by
  cases first with
  | error fault => exact ⟨nofun, nofun⟩
  | ok value => exact ⟨fun hnext => ⟨value, rfl, hnext⟩, fun ⟨_, hvalue, hnext⟩ => Except.ok.inj hvalue ▸ hnext⟩

namespace SumStep

/-- The steps can be carried out in words from a value. -/
structure Fit (value : Int) (steps : List SumStep) : Prop where
  operands : ∀ step ∈ steps, step.operand.value ≤ 2 ^ 63 - 1
  divisors : ∀ step ∈ steps, step.operation = .dividedBy → step.operand.value ≠ 0
  values : ∀ running ∈ steps.scanl reduce value, fitsWord running

theorem fit_nil_iff {value : Int} : Fit value [] ↔ fitsWord value := by
  constructor
  · intro hfit
    exact hfit.values value (by simp)
  · intro hvalue
    exact ⟨nofun, nofun, by simpa using hvalue⟩

theorem fit_cons_iff {value : Int} {step : SumStep} {steps : List SumStep} :
    Fit value (step :: steps) ↔
      fitsWord value ∧ step.operand.value ≤ 2 ^ 63 - 1 ∧
        (step.operation = .dividedBy → step.operand.value ≠ 0) ∧ Fit (reduce value step) steps := by
  constructor
  · rintro ⟨hoperands, hdivisors, hvalues⟩
    rw [List.scanl_cons, List.forall_mem_cons] at hvalues
    rw [List.forall_mem_cons] at hoperands hdivisors
    exact ⟨hvalues.1, hoperands.1, hdivisors.1, hoperands.2, hdivisors.2, hvalues.2⟩
  · rintro ⟨hvalue, hoperand, hdivisor, hrest⟩
    refine ⟨List.forall_mem_cons.2 ⟨hoperand, hrest.operands⟩, List.forall_mem_cons.2 ⟨hdivisor, hrest.divisors⟩, ?_⟩
    rw [List.scanl_cons]
    exact List.forall_mem_cons.2 ⟨hvalue, hrest.values⟩

theorem Fit.start {value : Int} {steps : List SumStep} (hfit : Fit value steps) : fitsWord value := by
  cases steps with
  | nil => exact fit_nil_iff.1 hfit
  | cons step steps => exact (fit_cons_iff.1 hfit).1

/-- An operation gives the value of its step when the step does not divide by zero and the value
fits. -/
theorem apply_eq_ok_iff {value result : Int} {step : SumStep} :
    step.operation.apply value step.operand.value = .ok result ↔
      (step.operation = .dividedBy → step.operand.value ≠ 0) ∧ result = reduce value step ∧ fitsWord result := by
  rw [Operation.apply_eq_ok_iff, onIntegers_eq_reduce, not_and, Int.natCast_eq_zero]

end SumStep

namespace Evaluation

theorem number_token {literal : Literal} {position : Nat} {rest : List Token} {value : Int} :
    number position (literal.token :: rest) = .ok value ↔ literal.value ≤ 2 ^ 63 - 1 ∧ value = literal.value := by
  rw [number, Literal.token, if_pos rfl, String.toList_ofList, literal.readWord?_digits]
  by_cases hvalue : literal.value ≤ 2 ^ 63 - 1
  · rw [if_pos hvalue]
    dsimp only
    rw [Except.ok.injEq, eq_comm, and_iff_right hvalue]
  · rw [if_neg hvalue]
    constructor
    · intro heq
      cases heq
    · intro hboth
      exact absurd hboth.1 hvalue

theorem operation_phrase (position : Nat) (asked : Operation) :
    operation position ⟨.operand, asked.phrase⟩ = .ok asked := by
  rw [operation, Operation.ofPhrase?_phrase]

theorem continueFrom_step (value : Int) (position : Nat) (step : SumStep) (rest : List Token) :
    continueFrom value position (step.tokens ++ rest) = (do
      let operand ← number (position + 1) (step.operand.token :: rest)
      match step.operation.apply value operand with
      | .error fault => .error (.arithmetic fault)
      | .ok result => continueFrom result (position + 2) rest) := by
  rw [SumStep.tokens, List.cons_append, List.cons_append, List.nil_append, continueFrom, operation_phrase]
  rfl

/-- A step succeeds exactly when the checks on its numeral, its divisor and its result do. -/
theorem continueFrom_step_eq_ok_iff {value answer : Int} {position : Nat} {step : SumStep} {rest : List Token} :
    continueFrom value position (step.tokens ++ rest) = .ok answer ↔
      step.operand.value ≤ 2 ^ 63 - 1 ∧ (step.operation = .dividedBy → step.operand.value ≠ 0) ∧
        fitsWord (step.reduce value) ∧ continueFrom (step.reduce value) (position + 2) rest = .ok answer := by
  rw [continueFrom_step]
  constructor
  · intro hrun
    obtain ⟨operand, hnumber, hresult⟩ := bind_eq_ok_iff.1 hrun
    obtain ⟨hoperand, rfl⟩ := number_token.1 hnumber
    cases happly : step.operation.apply value step.operand.value with
    | error fault =>
      rw [happly] at hresult
      cases hresult
    | ok result =>
      rw [happly] at hresult
      obtain ⟨hdivisor, rfl, hfits⟩ := SumStep.apply_eq_ok_iff.1 happly
      exact ⟨hoperand, hdivisor, hfits, hresult⟩
  · rintro ⟨hoperand, hdivisor, hfits, hrest⟩
    refine bind_eq_ok_iff.2 ⟨_, number_token.2 ⟨hoperand, rfl⟩, ?_⟩
    rw [SumStep.apply_eq_ok_iff.2 ⟨hdivisor, rfl, hfits⟩]
    exact hrest

/-- The evaluation of steps from a value that fits is exact. -/
theorem continueFrom_eq_ok_iff {value answer : Int} {position : Nat} {steps : List SumStep} (hvalue : fitsWord value) :
    continueFrom value position (steps.flatMap SumStep.tokens) = .ok answer ↔
      SumStep.Fit value steps ∧ answer = steps.foldl SumStep.reduce value := by
  induction steps generalizing value position with
  | nil =>
    rw [List.flatMap_nil, continueFrom, SumStep.fit_nil_iff, and_iff_right hvalue, Except.ok.injEq, eq_comm]
    rfl
  | cons step steps ih =>
    rw [List.flatMap_cons, continueFrom_step_eq_ok_iff, SumStep.fit_cons_iff, List.foldl_cons]
    constructor
    · rintro ⟨hoperand, hdivisor, hresult, hrest⟩
      obtain ⟨hfit, hanswer⟩ := (ih hresult).1 hrest
      exact ⟨⟨hvalue, hoperand, hdivisor, hfit⟩, hanswer⟩
    · rintro ⟨⟨_, hoperand, hdivisor, hfit⟩, hanswer⟩
      exact ⟨hoperand, hdivisor, hfit.start, (ih hfit.start).2 ⟨hfit, hanswer⟩⟩

theorem evaluate_eq_ok_iff {tokens : List Token} {answer : Int} :
    (evaluate tokens).value = .ok answer ↔ valueOf tokens = .ok answer := by
  unfold evaluate
  cases valueOf tokens with
  | error fault => rfl
  | ok result => rfl

end Evaluation

namespace WordSum

theorem fitsWord_iff {value : Int} : fitsWord value ↔ -2 ^ 63 ≤ value ∧ value ≤ 2 ^ 63 - 1 := by
  rw [fitsWord, leastWord, greatestWord]
  omega

theorem fitsWords_iff {sum : WordSum} :
    sum.FitsWords ↔ sum.first.value ≤ 2 ^ 63 - 1 ∧ SumStep.Fit sum.first.value sum.steps := by
  constructor
  · rintro ⟨hfirst, hoperands, hdivisors, hvalues⟩
    exact ⟨hfirst, hoperands, hdivisors, fun running hmem => fitsWord_iff.2 (hvalues running hmem)⟩
  · rintro ⟨hfirst, hoperands, hdivisors, hvalues⟩
    exact ⟨hfirst, hoperands, hdivisors, fun running hmem => fitsWord_iff.1 (hvalues running hmem)⟩

/-- The tokens of a sum have a value exactly when the sum can be worked out in words, and it is the
value of the sum. -/
theorem valueOf_terms_eq_ok_iff {sum : WordSum} {answer : Int} :
    Evaluation.valueOf sum.terms = .ok answer ↔ sum.FitsWords ∧ answer = sum.value := by
  rw [Evaluation.valueOf, terms, List.tail_cons, bind_eq_ok_iff, fitsWords_iff, and_assoc]
  simp only [Evaluation.number_token, and_assoc, exists_and_left, exists_eq_left]
  refine and_congr_right fun hfirst => Evaluation.continueFrom_eq_ok_iff ?_
  rw [fitsWord_iff]
  omega

end WordSum

end WordSums
