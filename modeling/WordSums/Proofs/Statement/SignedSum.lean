import Mathlib.Data.List.Induction
import WordSums.Proofs.Statement.Value

/-!
# Sums of signed literals

The evaluation may be given any tokens, not only those of a question. A number is then any text that is read as
a signed numeral, so its literal may carry a sign; the tokens that can have a value at all are those of a sum of
such literals. They are recognized by their places alone: numbers stand at the even ones, operands that name an
operation between them.
-/

namespace WordSums

open WordSums.Text

inductive Sign where
  | plus
  | minus
deriving DecidableEq

def Sign.char : Sign → Char
  | plus => '+'
  | minus => '-'

structure SignedLiteral where
  sign : Option Sign
  literal : Literal

namespace SignedLiteral

def text (number : SignedLiteral) : List Char :=
  (number.sign.map Sign.char).toList ++ number.literal.digits

def value (number : SignedLiteral) : Int :=
  if number.sign = some .minus then -(number.literal.value : Int) else number.literal.value

def token (number : SignedLiteral) : Token :=
  ⟨.number, String.ofList number.text⟩

end SignedLiteral

/-- An operation and the signed literal that it is carried out with. -/
structure SignedStep where
  operation : Operation
  operand : SignedLiteral

namespace SignedStep

/-- The value of a step on an unbounded integer; division cuts toward zero. -/
def reduce (value : Int) (step : SignedStep) : Int :=
  step.operation.onIntegers value step.operand.value

def tokens (step : SignedStep) : List Token :=
  [⟨.operand, step.operation.phrase⟩, step.operand.token]

/-- The step can be carried out in words from a value. -/
structure Fits (value : Int) (step : SignedStep) : Prop where
  operand : fitsWord step.operand.value
  divisor : step.operation = .dividedBy → step.operand.value ≠ 0
  result : fitsWord (reduce value step)

end SignedStep

structure SignedSum where
  first : SignedLiteral
  steps : List SignedStep

namespace SignedSum

def terms (sum : SignedSum) : List Token :=
  sum.first.token :: sum.steps.flatMap SignedStep.tokens

def numbers (sum : SignedSum) : List SignedLiteral :=
  sum.first :: sum.steps.map SignedStep.operand

/-- The value of a sum on unbounded integers, strictly from left to right. -/
def value (sum : SignedSum) : Int :=
  sum.steps.foldl SignedStep.reduce sum.first.value

/-- The values on the way, from that of the first literal to that of the sum. -/
def values (sum : SignedSum) : List Int :=
  sum.steps.scanl SignedStep.reduce sum.first.value

/-- The sum can be worked out in words of 64 bits. -/
structure FitsWords (sum : SignedSum) : Prop where
  numbers : ∀ number ∈ sum.numbers, fitsWord number.value
  divisors : ∀ step ∈ sum.steps, step.operation = .dividedBy → step.operand.value ≠ 0
  values : ∀ value ∈ sum.values, fitsWord value

end SignedSum

/-! ### Which texts are numerals -/

namespace SignedLiteral

theorem readNatural?_eq_some_iff {text : List Char} {value : Nat} :
    readNatural? text = some value ↔ ∃ literal : Literal, text = literal.digits ∧ value = literal.value := by
  constructor
  · intro hread
    unfold readNatural? at hread
    split at hread
    · next hlegal =>
      have hdigits : TokenKind.number.Legal text := ⟨hlegal.1, List.all_eq_true.1 hlegal.2⟩
      refine ⟨⟨text, hdigits⟩, rfl, ?_⟩
      rw [← Option.some.inj hread, ← Literal.digitsValue_eq_value]
    · cases hread
  · intro hliteral
    obtain ⟨literal, rfl, rfl⟩ := hliteral
    exact literal.readNatural?_digits

theorem readInteger?_text (number : SignedLiteral) : readInteger? number.text = some number.value := by
  obtain ⟨sign, literal⟩ := number
  have hdigits := literal.readNatural?_digits
  cases sign with
  | none => exact literal.readInteger?_digits
  | some sign =>
    cases sign with
    | plus =>
      change Option.map _ (readNatural? literal.digits >>= _) = _
      rw [hdigits]
      rfl
    | minus =>
      change Option.map _ (readNatural? literal.digits >>= _) = _
      rw [hdigits]
      rfl

theorem exists_literal_of_map {digits : List Char} {change : Int → Int} {value : Int}
    (hread : (readNatural? digits >>= fun natural => some (natural : Int)).map change = some value) :
    ∃ literal : Literal, digits = literal.digits ∧ value = change literal.value := by
  obtain ⟨_, hnumber, rfl⟩ := Option.map_eq_some_iff.1 hread
  obtain ⟨natural, hnatural, hcast⟩ := Option.bind_eq_some_iff.1 hnumber
  obtain ⟨literal, hdigits, rfl⟩ := readNatural?_eq_some_iff.1 hnatural
  exact ⟨literal, hdigits, by rw [Option.some.inj hcast]⟩

/-- The texts that are read as integers are those of signed literals. -/
theorem readInteger?_eq_some_iff {text : List Char} {value : Int} :
    readInteger? text = some value ↔ ∃ number : SignedLiteral, text = number.text ∧ value = number.value := by
  constructor
  · intro hread
    unfold readInteger? at hread
    split at hread
    · obtain ⟨literal, rfl, rfl⟩ := exists_literal_of_map hread
      exact ⟨⟨some .plus, literal⟩, rfl, rfl⟩
    · obtain ⟨literal, rfl, rfl⟩ := exists_literal_of_map hread
      exact ⟨⟨some .minus, literal⟩, rfl, rfl⟩
    · obtain ⟨literal, rfl, rfl⟩ := exists_literal_of_map hread
      exact ⟨⟨none, literal⟩, rfl, rfl⟩
  · intro hnumber
    obtain ⟨number, rfl, rfl⟩ := hnumber
    exact number.readInteger?_text

theorem readWord?_eq_some_iff {text : List Char} {value : Int} :
    readWord? text = some value ↔
      ∃ number : SignedLiteral, text = number.text ∧ value = number.value ∧ fitsWord number.value := by
  rw [readWord?, Option.filter_eq_some_iff, readInteger?_eq_some_iff, decide_eq_true_eq]
  constructor
  · intro hboth
    obtain ⟨⟨number, rfl, rfl⟩, hfits⟩ := hboth
    exact ⟨number, rfl, rfl, hfits⟩
  · intro hnumber
    obtain ⟨number, rfl, rfl, hfits⟩ := hnumber
    exact ⟨⟨number, rfl, rfl⟩, hfits⟩

theorem readWord?_eq_none_iff {text : List Char} :
    readWord? text = none ↔ ∀ number : SignedLiteral, text = number.text → ¬ fitsWord number.value := by
  rw [Option.eq_none_iff_forall_ne_some]
  constructor
  · intro hnone number htext hfits
    exact hnone _ (readWord?_eq_some_iff.2 ⟨number, htext, rfl, hfits⟩)
  · intro hunfit value hread
    obtain ⟨number, htext, _, hfits⟩ := readWord?_eq_some_iff.1 hread
    exact hunfit number htext hfits

end SignedLiteral

/-! ### Which tokens are those of a sum -/

/-- Numbers at the even places and operands between them. -/
structure Alternates (tokens : List Token) : Prop where
  odd : tokens.length % 2 = 1
  numbers : ∀ place token, tokens[2 * place]? = some token →
    token.kind = .number ∧ ∃ number : SignedLiteral, token.text = String.ofList number.text
  operands : ∀ place token, tokens[2 * place + 1]? = some token →
    token.kind = .operand ∧ ∃ operation : Operation, token.text = operation.phrase

theorem alternates_singleton_iff {token : Token} :
    Alternates [token] ↔ ∃ number : SignedLiteral, token = number.token := by
  constructor
  · intro halternates
    obtain ⟨hkind, number, htext⟩ := halternates.numbers 0 token rfl
    exact ⟨number, by rw [SignedLiteral.token, ← hkind, ← htext]⟩
  · intro hnumber
    obtain ⟨number, rfl⟩ := hnumber
    refine ⟨rfl, ?_, ?_⟩
    · intro place token hplace
      obtain ⟨_, rfl⟩ : place = 0 ∧ number.token = token := by
        cases place with
        | zero => exact ⟨rfl, Option.some.inj hplace⟩
        | succ place => simp [Nat.mul_succ] at hplace
      exact ⟨rfl, number, rfl⟩
    · intro place token hplace
      simp at hplace

theorem alternates_cons_cons_iff {first second : Token} {rest : List Token} :
    Alternates (first :: second :: rest) ↔
      (∃ number : SignedLiteral, first = number.token) ∧
        (∃ operation : Operation, second = ⟨.operand, operation.phrase⟩) ∧ Alternates rest := by
  constructor
  · intro halternates
    obtain ⟨hnumber, number, hnumberText⟩ := halternates.numbers 0 first rfl
    obtain ⟨hoperand, operation, hoperandText⟩ := halternates.operands 0 second rfl
    have hodd := halternates.odd
    simp only [List.length_cons] at hodd
    refine ⟨⟨number, ?_⟩, ⟨operation, ?_⟩, by omega, ?_, ?_⟩
    · rw [SignedLiteral.token, ← hnumber, ← hnumberText]
    · rw [← hoperand, ← hoperandText]
    · intro place token hplace
      exact halternates.numbers (place + 1) token hplace
    · intro place token hplace
      exact halternates.operands (place + 1) token hplace
  · intro hall
    obtain ⟨⟨number, rfl⟩, ⟨operation, rfl⟩, hrest⟩ := hall
    have hodd := hrest.odd
    refine ⟨by simp only [List.length_cons]; omega, ?_, ?_⟩
    · intro place token hplace
      cases place with
      | zero =>
        obtain rfl := Option.some.inj hplace
        exact ⟨rfl, number, rfl⟩
      | succ place => exact hrest.numbers place token hplace
    · intro place token hplace
      cases place with
      | zero =>
        obtain rfl := Option.some.inj hplace
        exact ⟨rfl, operation, rfl⟩
      | succ place => exact hrest.operands place token hplace

/-- The tokens of sums are known by their places. -/
theorem SignedSum.exists_terms_iff {tokens : List Token} :
    (∃ sum : SignedSum, tokens = sum.terms) ↔ Alternates tokens := by
  induction tokens using List.twoStepInduction with
  | nil =>
    constructor
    · intro hsum
      obtain ⟨sum, hterms⟩ := hsum
      cases hterms
    · intro halternates
      cases halternates.odd
  | singleton token =>
    rw [alternates_singleton_iff]
    constructor
    · intro hsum
      obtain ⟨⟨first, steps⟩, hterms⟩ := hsum
      exact ⟨first, (List.cons.inj hterms).1⟩
    · intro hnumber
      obtain ⟨number, rfl⟩ := hnumber
      exact ⟨⟨number, []⟩, rfl⟩
  | cons_cons first second rest ih _ =>
    rw [alternates_cons_cons_iff, ← ih]
    constructor
    · intro hsum
      obtain ⟨⟨number, steps⟩, hterms⟩ := hsum
      obtain ⟨rfl, hrest⟩ := List.cons.inj hterms
      cases steps with
      | nil => cases hrest
      | cons step steps =>
        obtain ⟨rfl, rfl⟩ := List.cons.inj hrest
        exact ⟨⟨number, rfl⟩, ⟨step.operation, rfl⟩, ⟨step.operand, steps⟩, rfl⟩
    · intro hall
      obtain ⟨⟨number, rfl⟩, ⟨operation, rfl⟩, ⟨sum, rfl⟩⟩ := hall
      exact ⟨⟨number, ⟨operation, sum.first⟩ :: sum.steps⟩, rfl⟩

end WordSums
