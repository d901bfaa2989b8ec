import WordSums.Proofs.Interpreter
import WordSums.Proofs.Statement.Faults

/-!
# The stages agree

Each stage of the standard pipeline relies on what the one before it lets through. Lexed tokens are legal
for their kinds, so tokens that form a statement are those of a sum, and the evaluation finds nothing to
object to but the arithmetic. A fault of the lexer or of the parser is passed on as it is, and is always
about the question.
-/

namespace WordSums

namespace Lexer

/-- A refusal of the standard lexer is about the text of the question. -/
theorem kind_of_lex_standard {limit : Nat} {question : String} {fault : Fault}
    (hlex : (lex .standard (some limit) question).value = .error fault) :
    fault.kind ∈ [FaultKind.inputTooLong, .nonMathQuestion, .unsupportedOperation] := by
  unfold lex at hlex
  split at hlex
  · rw [← Except.error.inj hlex]
    simp [Fault.kind]
  · obtain ⟨tokens, rest, hsplits⟩ := exists_splits question.toList
    rw [lexUncapped_standard hsplits] at hlex
    unfold verdict at hlex
    split at hlex
    · split at hlex
      · cases hlex
      · rw [← Except.error.inj hlex]
        simp [Fault.kind]
    · rw [← Except.error.inj hlex]
      simp [Fault.kind]

end Lexer

theorem Parser.kind_of_parse {tokens : List Token} {fault : Fault} (hparse : (parse tokens).value = .error fault) :
    fault.kind = .invalidSyntax := by
  rcases parse_eq_error_iff.1 hparse with ⟨_, _, _, rfl⟩ | ⟨_, _, rfl⟩
  · rfl
  · rfl

namespace Pipeline

variable {pipeline : Pipeline} {limit : Nat} {question : String} {fault : Fault}

theorem tokens_eq_error_iff :
    (pipeline.tokens question).value = .error fault ↔
      (Lexer.lex pipeline.recognizers (some pipeline.limit) question).value = .error fault ∨
        ∃ tokens, (Lexer.lex pipeline.recognizers (some pipeline.limit) question).value = .ok tokens ∧
          (Parser.parse tokens).value = .error fault := by
  rw [Pipeline.tokens, Traced.value_bind]
  cases (Lexer.lex pipeline.recognizers (some pipeline.limit) question).value with
  | error other => simp
  | ok tokens => simp

theorem validate_eq_ok_iff :
    (pipeline.validate question).value = .ok () ↔ ∃ kept, (pipeline.tokens question).value = .ok kept := by
  rw [validate, Traced.value_bind]
  cases (pipeline.tokens question).value with
  | error other => simp
  | ok kept => simp

theorem validate_eq_error_iff :
    (pipeline.validate question).value = .error fault ↔ (pipeline.tokens question).value = .error fault := by
  rw [validate, Traced.value_bind]
  cases (pipeline.tokens question).value with
  | error other => simp
  | ok kept => simp

theorem evaluate_eq_error_iff :
    (pipeline.evaluate question).value = .error fault ↔
      (pipeline.tokens question).value = .error fault ∨
        ∃ kept, (pipeline.tokens question).value = .ok kept ∧ Evaluation.valueOf kept = .error fault := by
  rw [evaluate, Traced.value_bind]
  cases (pipeline.tokens question).value with
  | error other => simp
  | ok kept => simp [Evaluation.evaluate_eq_error_iff]

/-! ### What passes from stage to stage of the standard pipeline -/

theorem exists_sum_of_tokens_standard {kept : List Token}
    (htokens : ((standard limit).tokens question).value = .ok kept) : ∃ sum : WordSum, kept = sum.terms := by
  obtain ⟨tokens, hlex, hparse⟩ := tokens_eq_ok_iff.1 htokens
  have huncapped := (Lexer.lex_eq_ok_iff.1 hlex).2
  obtain ⟨_, hlegal, _⟩ := Lexer.lexUncapped_standard_eq_ok_iff.1 huncapped
  obtain ⟨hform, rfl⟩ := Parser.parse_eq_ok_iff.1 hparse
  obtain ⟨sum, rfl⟩ := WordSum.exists_tokens_iff.2 ⟨hlegal, hform⟩
  exact ⟨sum, sum.filter_tokens⟩

theorem kind_of_tokens_standard (htokens : ((standard limit).tokens question).value = .error fault) :
    fault.kind ≠ .internal ∧ fault.kind ≠ .arithmetic := by
  rcases tokens_eq_error_iff.1 htokens with hlex | ⟨tokens, _, hparse⟩
  · have hkind := Lexer.kind_of_lex_standard hlex
    constructor
    · intro hinternal
      simp [hinternal] at hkind
    · intro harithmetic
      simp [harithmetic] at hkind
  · rw [Parser.kind_of_parse hparse]
    decide

/-- What the standard pipeline cannot evaluate it could not read either, or the arithmetic fails. -/
theorem evaluate_standard_eq_error (hevaluate : ((standard limit).evaluate question).value = .error fault) :
    ((standard limit).tokens question).value = .error fault ∨
      ∃ cause, fault = .arithmetic cause ∧ cause.SparesQuotients := by
  rcases evaluate_eq_error_iff.1 hevaluate with htokens | ⟨kept, htokens, hvalue⟩
  · exact .inl htokens
  · obtain ⟨sum, rfl⟩ := exists_sum_of_tokens_standard htokens
    exact .inr (Evaluation.valueOf_terms_eq_error hvalue)

theorem kind_of_evaluate_standard (hevaluate : ((standard limit).evaluate question).value = .error fault) :
    fault.kind ≠ .internal := by
  rcases evaluate_standard_eq_error hevaluate with htokens | ⟨cause, rfl, _⟩
  · exact (kind_of_tokens_standard htokens).1
  · rw [Fault.kind]
    decide

theorem validate_standard_eq_error_iff :
    ((standard limit).validate question).value = .error fault ↔
      ((standard limit).evaluate question).value = .error fault ∧ fault.kind ≠ .arithmetic := by
  rw [validate_eq_error_iff]
  constructor
  · intro htokens
    exact ⟨evaluate_eq_error_iff.2 (.inl htokens), (kind_of_tokens_standard htokens).2⟩
  · rintro ⟨hevaluate, hkind⟩
    rcases evaluate_standard_eq_error hevaluate with htokens | ⟨cause, rfl, _⟩
    · exact htokens
    · exact absurd rfl hkind

/-- The standard pipeline has no internal faults. It fails to evaluate what it fails to validate, for the same
reason, and what it validates it evaluates unless the arithmetic fails; no quotient ever overflows. -/
theorem stages_agree (limit : Nat) (question : String) :
    (∀ fault, ((standard limit).tokens question).value = .error fault → fault.kind ≠ .internal) ∧
    (∀ fault, ((standard limit).validate question).value = .error fault → fault.kind ≠ .internal) ∧
    (∀ fault, ((standard limit).evaluate question).value = .error fault → fault.kind ≠ .internal) ∧
    (∀ fault, ((standard limit).validate question).value = .error fault ↔
      ((standard limit).evaluate question).value = .error fault ∧ fault.kind ≠ .arithmetic) ∧
    (((standard limit).validate question).value = .ok () →
      (∃ answer, ((standard limit).evaluate question).value = .ok answer) ∨
        ∃ cause, ((standard limit).evaluate question).value = .error (.arithmetic cause)) ∧
    ∀ left right operation,
      ((standard limit).evaluate question).value = .error (.arithmetic (.overflow left right operation)) →
        operation ≠ .dividedBy := by
  refine ⟨?_, ?_, fun fault => kind_of_evaluate_standard, fun fault => validate_standard_eq_error_iff, ?_, ?_⟩
  · intro fault htokens
    exact (kind_of_tokens_standard htokens).1
  · intro fault hvalidate
    exact kind_of_evaluate_standard (validate_standard_eq_error_iff.1 hvalidate).1
  · intro hvalidate
    obtain ⟨kept, hkept⟩ := validate_eq_ok_iff.1 hvalidate
    cases hevaluate : ((standard limit).evaluate question).value with
    | ok answer => exact .inl ⟨answer, rfl⟩
    | error fault =>
      rcases evaluate_standard_eq_error hevaluate with htokens | ⟨cause, rfl, _⟩
      · rw [hkept] at htokens
        cases htokens
      · exact .inr ⟨cause, rfl⟩
  · intro left right operation hoverflow
    rcases evaluate_standard_eq_error hoverflow with htokens | ⟨cause, hcause, hspares⟩
    · exact absurd rfl (kind_of_tokens_standard htokens).2
    · exact hspares left right operation (Fault.arithmetic.inj hcause).symm

theorem stages_agree_exemplified :
    let unread := "What is 5 5?"
    let undefined := "What is 1 divided by 0?"
    let excessive := "What is 9223372036854775807 plus 1?"
    let fault : Fault := .invalidSyntax .expectedOperationOrEnd 2
    (((standard 1024).validate unread).value = .error fault ∧
      ((standard 1024).evaluate unread).value = .error fault) ∧
    (((standard 1024).validate undefined).value = .ok () ∧
      ((∃ answer, ((standard 1024).evaluate undefined).value = .ok answer) ∨
        ∃ cause, ((standard 1024).evaluate undefined).value = .error (.arithmetic cause))) ∧
    ((standard 1024).evaluate excessive).value = .error (.arithmetic (.overflow 9223372036854775807 1 .plus)) ∧
      Operation.plus ≠ .dividedBy := by
  intro unread undefined excessive fault
  have hunread : ((standard 1024).validate unread).value = .error fault := by decide +kernel
  have hundefined : ((standard 1024).validate undefined).value = .ok () := by decide +kernel
  have hexcessive : ((standard 1024).evaluate excessive).value =
      .error (.arithmetic (.overflow 9223372036854775807 1 .plus)) := by decide +kernel
  obtain ⟨_, _, _, hsame, _, _⟩ := stages_agree 1024 unread
  obtain ⟨_, _, _, _, hvalid, _⟩ := stages_agree 1024 undefined
  obtain ⟨_, _, _, _, _, hoverflow⟩ := stages_agree 1024 excessive
  exact ⟨⟨hunread, ((hsame fault).1 hunread).1⟩, ⟨hundefined, hvalid hundefined⟩, hexcessive,
    hoverflow _ _ _ hexcessive⟩

end Pipeline

end WordSums
