import WordSums.Interpreter
import WordSums.Proofs.Statement.Value
import WordSums.Proofs.Token.Lexing

/-!
# What the standard pipeline answers

A question is answered when every stage of the pipeline answers: the lexer for texts in which legal
tokens are written out, the parser for tokens that form a statement, the evaluation for sums that can
be worked out in words. Taken together these are the questions that ask for such a sum, written with
any blanks between its pieces, and the answer is the value of the sum.
-/

namespace WordSums

open WordSums.Text

/-- Pieces of text in order, with gaps of any length before, between and behind them. -/
inductive Spaced : List (List Char) → List Char → Prop
  | nil {gap : List Char} (hgap : Gap gap) : Spaced [] gap
  | cons {gap piece text : List Char} {pieces : List (List Char)} (hgap : Gap gap) (hrest : Spaced pieces text) :
      Spaced (piece :: pieces) (gap ++ (piece ++ text))

/-! ### Tokens of which no two numbers are next to each other -/

/-- Two tokens that are not both numbers. -/
def Token.Apart (left right : Token) : Prop :=
  ¬ (left.kind = .number ∧ right.kind = .number)

theorem Token.apart_of_left {left right : Token} (hleft : left.kind ≠ .number) : left.Apart right :=
  fun hboth => hleft hboth.1

theorem Token.apart_of_right {left right : Token} (hright : right.kind ≠ .number) : left.Apart right :=
  fun hboth => hright hboth.2

theorem Renders.spaced {tokens : List Token} {text : List Char} (hrenders : Renders tokens text) :
    Spaced (tokens.map fun token => token.text.toList) text := by
  obtain ⟨gap, body, hgap, hwritten, rfl⟩ := hrenders
  induction hwritten generalizing gap with
  | nil =>
    rw [List.append_nil]
    exact .nil hgap
  | cons hbehind _ _ ih => exact .cons hgap (ih _ hbehind)

theorem Spaced.renders {tokens : List Token} {text : List Char}
    (hspaced : Spaced (tokens.map fun token => token.text.toList) text) (hapart : tokens.IsChain Token.Apart) :
    Renders tokens text := by
  induction tokens generalizing text with
  | nil =>
    cases hspaced with
    | nil hgap => exact ⟨text, [], hgap, .nil, (List.append_nil text).symm⟩
  | cons token tokens ih =>
    cases hspaced with
    | @cons gap _ after _ hgap hrest =>
      obtain ⟨behind, body, hbehind, hbody, rfl⟩ := ih hrest hapart.of_cons
      refine ⟨gap, _, hgap, .cons hbehind ?_ hbody, rfl⟩
      intro hnumber hnext
      obtain ⟨next, hhead, hkind⟩ := Option.map_eq_some_iff.1 hnext
      obtain ⟨others, rfl⟩ := List.head?_eq_some_iff.1 hhead
      exact absurd ⟨hnumber, hkind⟩ hapart.rel

namespace WordSum

theorem asks_tokens (sum : WordSum) : Asks sum.tokens :=
  ⟨_, List.mem_cons_self, rfl⟩

theorem map_text_tokens (sum : WordSum) : sum.tokens.map (fun token => token.text.toList) = sum.pieces := by
  have hsteps : (sum.steps.flatMap SumStep.tokens).map (fun token => token.text.toList) =
      sum.steps.flatMap fun step => [step.operation.phrase.toList, step.operand.digits] := by
    rw [List.map_flatMap]
    apply List.flatMap_congr
    intro step _
    rw [SumStep.tokens, List.map_cons, List.map_singleton, Literal.toList_text_token]
  rw [tokens, terms, pieces, List.map_cons, List.map_append, List.map_cons, hsteps, Literal.toList_text_token]
  rfl

theorem isChain_steps (literal : Literal) (steps : List SumStep) :
    (literal.token :: (steps.flatMap SumStep.tokens ++ [⟨.punctuation, "?"⟩])).IsChain Token.Apart := by
  induction steps generalizing literal with
  | nil => exact .cons_cons (Token.apart_of_right (by simp)) (.singleton _)
  | cons step steps ih =>
    rw [List.flatMap_cons, SumStep.tokens, List.append_assoc]
    exact .cons_cons (Token.apart_of_right (by simp)) (.cons_cons (Token.apart_of_left (by simp)) (ih step.operand))

theorem tokens_isChain (sum : WordSum) : sum.tokens.IsChain Token.Apart :=
  .cons_cons (Token.apart_of_left nofun) (isChain_steps sum.first sum.steps)

theorem renders_tokens_iff {sum : WordSum} {text : List Char} : Renders sum.tokens text ↔ Spaced sum.pieces text := by
  rw [← map_text_tokens]
  exact ⟨Renders.spaced, fun hspaced => hspaced.renders sum.tokens_isChain⟩

end WordSum

namespace Pipeline

/-! ### The stages of a pipeline -/

theorem tokens_eq_ok_iff {pipeline : Pipeline} {question : String} {kept : List Token} :
    (pipeline.tokens question).value = .ok kept ↔
      ∃ tokens, (Lexer.lex pipeline.recognizers (some pipeline.limit) question).value = .ok tokens ∧
        (Parser.parse tokens).value = .ok kept := by
  rw [Pipeline.tokens, Traced.value_bind]
  cases hlex : (Lexer.lex pipeline.recognizers (some pipeline.limit) question).value with
  | error fault => exact ⟨nofun, nofun⟩
  | ok tokens =>
    constructor
    · intro hparse
      exact ⟨tokens, rfl, hparse⟩
    · rintro ⟨_, heq, hparse⟩
      obtain rfl := Except.ok.inj heq
      exact hparse

theorem evaluate_eq_ok_iff {pipeline : Pipeline} {question : String} {answer : Int} :
    (pipeline.evaluate question).value = .ok answer ↔
      ∃ tokens kept, (Lexer.lex pipeline.recognizers (some pipeline.limit) question).value = .ok tokens ∧
        (Parser.parse tokens).value = .ok kept ∧ Evaluation.valueOf kept = .ok answer := by
  rw [evaluate, Traced.value_bind]
  constructor
  · intro hanswer
    cases hkept : (pipeline.tokens question).value with
    | error fault =>
      rw [hkept] at hanswer
      cases hanswer
    | ok kept =>
      rw [hkept] at hanswer
      obtain ⟨tokens, hlex, hparse⟩ := tokens_eq_ok_iff.1 hkept
      exact ⟨tokens, kept, hlex, hparse, Evaluation.evaluate_eq_ok_iff.1 hanswer⟩
  · rintro ⟨tokens, kept, hlex, hparse, hvalue⟩
    rw [tokens_eq_ok_iff.2 ⟨tokens, hlex, hparse⟩]
    exact Evaluation.evaluate_eq_ok_iff.2 hvalue

/-- A question has an answer exactly when it is short enough and asks for a sum that can be worked out
in words, and then the answer is the value of the sum. -/
theorem evaluate_standard_eq_ok_iff (limit : Nat) (question : String) (answer : Int) :
    ((standard limit).evaluate question).value = .ok answer ↔
      question.utf8ByteSize ≤ limit ∧
        ∃ sum : WordSum, Spaced sum.pieces question.toList ∧ sum.FitsWords ∧ answer = sum.value := by
  rw [evaluate_eq_ok_iff]
  constructor
  · rintro ⟨tokens, kept, hlex, hparse, hvalue⟩
    obtain ⟨hlimit, huncapped⟩ := Lexer.lex_eq_ok_iff.1 hlex
    obtain ⟨_, hlegal, hrenders⟩ := Lexer.lexUncapped_standard_eq_ok_iff.1 huncapped
    obtain ⟨hform, rfl⟩ := Parser.parse_eq_ok_iff.1 hparse
    obtain ⟨sum, rfl⟩ := WordSum.exists_tokens_iff.2 ⟨hlegal, hform⟩
    rw [WordSum.filter_tokens] at hvalue
    obtain ⟨hfits, hanswer⟩ := WordSum.valueOf_terms_eq_ok_iff.1 hvalue
    exact ⟨hlimit limit rfl, sum, WordSum.renders_tokens_iff.1 hrenders, hfits, hanswer⟩
  · rintro ⟨hlimit, sum, hspaced, hfits, hanswer⟩
    obtain ⟨hlegal, hform⟩ := WordSum.exists_tokens_iff.1 ⟨sum, rfl⟩
    refine ⟨sum.tokens, sum.terms, ?_, ?_, WordSum.valueOf_terms_eq_ok_iff.2 ⟨hfits, hanswer⟩⟩
    · refine Lexer.lex_eq_ok_iff.2 ⟨fun most hmost => Option.some.inj hmost ▸ hlimit, ?_⟩
      exact Lexer.lexUncapped_standard_eq_ok_iff.2 ⟨sum.asks_tokens, hlegal, WordSum.renders_tokens_iff.2 hspaced⟩
    · exact Parser.parse_eq_ok_iff.2 ⟨hform, sum.filter_tokens.symm⟩

end Pipeline

end WordSums
