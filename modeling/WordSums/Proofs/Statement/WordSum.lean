import Mathlib.Data.Nat.Digits.Defs
import WordSums.Proofs.Statement.Parsing
import WordSums.Proofs.Token.Rendering

/-!
# Sums in words

A sum in words is a first literal and then operations, each with a literal of its own. It can be
asked for with the tokens of a statement, and the legal tokens that form a statement are exactly
those of some sum. Its value is found by one operation after the other on unbounded integers; whether
it can also be found in words is a matter of the literals and of the values on the way.
-/

namespace WordSums

open WordSums.Text

/-- A text of decimal digits. -/
structure Literal where
  digits : List Char
  legal : TokenKind.number.Legal digits

namespace Literal

/-- The decimal value, whatever zeros stand in front. -/
def value (literal : Literal) : Nat :=
  Nat.ofDigits 10 (literal.digits.reverse.map digitValue)

def token (literal : Literal) : Token :=
  ⟨.number, String.ofList literal.digits⟩

theorem toList_text_token (literal : Literal) : literal.token.text.toList = literal.digits :=
  String.toList_ofList

theorem digitsValue_eq_value (literal : Literal) : digitsValue 0 literal.digits = literal.value := by
  rw [value, Nat.ofDigits_eq_foldr, List.map_reverse, List.foldr_reverse, List.foldl_map]
  simp only [digitsValue, Nat.cast_id, Nat.add_comm]

theorem readNatural?_digits (literal : Literal) : readNatural? literal.digits = some literal.value := by
  obtain ⟨hne, hdigits⟩ := literal.legal
  rw [readNatural?, if_pos ⟨hne, List.all_eq_true.2 hdigits⟩, digitsValue_eq_value]

theorem readInteger?_digits (literal : Literal) : readInteger? literal.digits = some (literal.value : Int) := by
  obtain ⟨_, hdigits⟩ := literal.legal
  unfold readInteger?
  split
  · rename_i digits heq
    rw [heq] at hdigits
    exact absurd (hdigits '+' List.mem_cons_self) (by decide)
  · rename_i digits heq
    rw [heq] at hdigits
    exact absurd (hdigits '-' List.mem_cons_self) (by decide)
  · rw [literal.readNatural?_digits]
    rfl

/-- A literal is read as a word exactly when its value is not too great. -/
theorem readWord?_digits (literal : Literal) :
    readWord? literal.digits = if literal.value ≤ 2 ^ 63 - 1 then some (literal.value : Int) else none := by
  rw [readWord?, readInteger?_digits, Option.filter_some]
  have hfits : fitsWord (literal.value : Int) ↔ literal.value ≤ 2 ^ 63 - 1 := by
    rw [fitsWord, leastWord, greatestWord]
    omega
  simp only [hfits, decide_eq_true_eq]

end Literal

structure SumStep where
  operation : Operation
  operand : Literal

namespace SumStep

/-- The value of a step on an unbounded integer; division cuts toward zero. -/
def reduce (value : Int) (step : SumStep) : Int :=
  match step.operation with
  | .plus => value + step.operand.value
  | .minus => value - step.operand.value
  | .multipliedBy => value * step.operand.value
  | .dividedBy => value.tdiv step.operand.value

def tokens (step : SumStep) : List Token :=
  [⟨.operand, step.operation.phrase⟩, step.operand.token]

theorem onIntegers_eq_reduce (value : Int) (step : SumStep) :
    step.operation.onIntegers value step.operand.value = reduce value step := by
  cases step with
  | mk operation operand => cases operation <;> rfl

end SumStep

structure WordSum where
  first : Literal
  steps : List SumStep

namespace WordSum

/-- The value of a sum, strictly from left to right. -/
def value (sum : WordSum) : Int :=
  sum.steps.foldl SumStep.reduce sum.first.value

/-- The values on the way, from that of the first literal to that of the sum. -/
def values (sum : WordSum) : List Int :=
  sum.steps.scanl SumStep.reduce sum.first.value

/-- The sum can be worked out in words of 64 bits. -/
structure FitsWords (sum : WordSum) : Prop where
  first : sum.first.value ≤ 2 ^ 63 - 1
  operands : ∀ step ∈ sum.steps, step.operand.value ≤ 2 ^ 63 - 1
  divisors : ∀ step ∈ sum.steps, step.operation = .dividedBy → step.operand.value ≠ 0
  values : ∀ value ∈ sum.values, -2 ^ 63 ≤ value ∧ value ≤ 2 ^ 63 - 1

/-- The tokens that carry the meaning of a sum. -/
def terms (sum : WordSum) : List Token :=
  sum.first.token :: sum.steps.flatMap SumStep.tokens

def tokens (sum : WordSum) : List Token :=
  ⟨.question, "What is"⟩ :: (sum.terms ++ [⟨.punctuation, "?"⟩])

/-- The texts that a sum asked for is written with. -/
def pieces (sum : WordSum) : List (List Char) :=
  "What is".toList :: sum.first.digits ::
    (sum.steps.flatMap (fun step => [step.operation.phrase.toList, step.operand.digits]) ++ ["?".toList])

end WordSum

/-! ### Which tokens are those of a sum -/

theorem Literal.token_legal (literal : Literal) : literal.token.Legal := by
  rw [Token.Legal, literal.toList_text_token]
  exact literal.legal

theorem Literal.exists_token {token : Token} (hlegal : token.Legal) (hkind : token.kind = .number) :
    ∃ literal : Literal, token = literal.token := by
  obtain ⟨kind, text⟩ := token
  obtain rfl := hkind
  exact ⟨⟨text.toList, hlegal⟩, by rw [token, String.ofList_toList]⟩

theorem Operation.legal_iff {text : String} :
    TokenKind.operand.Legal text.toList ↔ ∃ operation : Operation, text = operation.phrase := by
  have hphrases : ["plus", "minus", "multiplied by", "divided by"] = Operation.all.map Operation.phrase := rfl
  rw [TokenKind.Legal, List.mem_map_of_injective fun _ _ => String.toList_inj.1, hphrases, List.mem_map]
  constructor
  · rintro ⟨operation, _, rfl⟩
    exact ⟨operation, rfl⟩
  · rintro ⟨operation, rfl⟩
    exact ⟨operation, by cases operation <;> decide, rfl⟩

namespace SumStep

theorem tokens_legal (step : SumStep) : ∀ token ∈ step.tokens, token.Legal := by
  intro token hmem
  obtain rfl | rfl := List.mem_pair.1 hmem
  · exact Operation.legal_iff.2 ⟨step.operation, rfl⟩
  · exact step.operand.token_legal

theorem exists_tokens {operand number : Token} (hoperand : operand.Legal) (hnumber : number.Legal)
    (hoperandKind : operand.kind = .operand) (hnumberKind : number.kind = .number) :
    ∃ step : SumStep, [operand, number] = step.tokens := by
  obtain ⟨literal, rfl⟩ := Literal.exists_token hnumber hnumberKind
  obtain ⟨kind, text⟩ := operand
  obtain rfl := hoperandKind
  obtain ⟨operation, rfl⟩ := Operation.legal_iff.1 hoperand
  exact ⟨⟨operation, literal⟩, rfl⟩

theorem map_kind_flatMap_tokens (steps : List SumStep) :
    (steps.flatMap tokens).map Token.kind = (List.replicate steps.length [TokenKind.operand, .number]).flatten := by
  induction steps with
  | nil => rfl
  | cons step steps ih =>
    rw [List.flatMap_cons, List.map_append, ih, List.length_cons, List.replicate_succ, List.flatten_cons]
    rfl

theorem exists_flatMap_tokens {count : Nat} {written : List Token} (hlegal : ∀ token ∈ written, token.Legal)
    (hkinds : written.map Token.kind = (List.replicate count [TokenKind.operand, .number]).flatten) :
    ∃ steps : List SumStep, written = steps.flatMap tokens := by
  induction count generalizing written with
  | zero => exact ⟨[], List.map_eq_nil_iff.1 hkinds⟩
  | succ count ih =>
    rw [List.replicate_succ, List.flatten_cons] at hkinds
    obtain ⟨operand, behind, rfl, hoperand, hbehind⟩ := List.map_eq_cons_iff.1 hkinds
    obtain ⟨number, rest, rfl, hnumber, hrest⟩ := List.map_eq_cons_iff.1 hbehind
    obtain ⟨step, hstep⟩ := exists_tokens (hlegal operand (by simp)) (hlegal number (by simp)) hoperand hnumber
    obtain ⟨steps, rfl⟩ := ih (fun token hmem => hlegal token (by simp [hmem])) hrest
    exact ⟨step :: steps, by rw [List.flatMap_cons, ← hstep]; rfl⟩

end SumStep

namespace WordSum

theorem tokens_legal (sum : WordSum) : ∀ token ∈ sum.tokens, token.Legal := by
  intro token hmem
  simp only [tokens, terms, List.mem_cons, List.mem_append, List.mem_flatMap, List.not_mem_nil, or_false] at hmem
  obtain rfl | (rfl | ⟨step, _, hstep⟩) | rfl := hmem
  · rfl
  · exact sum.first.token_legal
  · exact step.tokens_legal token hstep
  · rfl

theorem map_kind_tokens_mem (sum : WordSum) : sum.tokens.map Token.kind ∈ statementForm :=
  map_kind_mem_statementForm_iff.2
    ⟨_, _, _, _, sum.steps.length, rfl, rfl, rfl, rfl, SumStep.map_kind_flatMap_tokens sum.steps⟩

/-- Legal tokens form a statement exactly when they ask for a sum. -/
theorem exists_tokens_iff {written : List Token} :
    (∃ sum : WordSum, written = sum.tokens) ↔
      (∀ token ∈ written, token.Legal) ∧ written.map Token.kind ∈ statementForm := by
  constructor
  · rintro ⟨sum, rfl⟩
    exact ⟨sum.tokens_legal, sum.map_kind_tokens_mem⟩
  · rintro ⟨hlegal, hform⟩
    obtain ⟨⟨_, question⟩, number, terms, ⟨_, mark⟩, count, rfl, rfl, hnumber, rfl, hterms⟩ :=
      map_kind_mem_statementForm_iff.1 hform
    obtain rfl : question = "What is" := String.toList_inj.1 (hlegal ⟨.question, question⟩ (by simp))
    obtain rfl : mark = "?" := String.toList_inj.1 (hlegal ⟨.punctuation, mark⟩ (by simp))
    obtain ⟨first, rfl⟩ := Literal.exists_token (hlegal number (by simp)) hnumber
    obtain ⟨steps, rfl⟩ := SumStep.exists_flatMap_tokens (fun token hmem => hlegal token (by simp [hmem])) hterms
    exact ⟨⟨first, steps⟩, rfl⟩

theorem filter_tokens (sum : WordSum) : sum.tokens.filter Token.isSignificant = sum.terms := by
  rw [Parser.filter_isSignificant_of_mem sum.map_kind_tokens_mem, tokens, List.tail_cons, List.dropLast_concat]

end WordSum

end WordSums
