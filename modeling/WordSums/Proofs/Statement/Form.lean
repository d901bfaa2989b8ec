import Mathlib.Computability.Language
import WordSums.Statement.Parser

/-!
# The form of a statement

What a statement looks like is a regular language over the kinds of its tokens. Every state of the
parser but the last stands for what may still follow: a language of its own, whose words are told
apart by their first kind. Going through the states therefore decides membership, and a word can be
completed to a statement exactly when going through it never gets stuck.
-/

namespace WordSums

open scoped Computability

/-- A question, a number, any count of operands each with a number, and a closing mark. -/
def statementForm : Language TokenKind :=
  {[.question]} * {[.number]} * ({[.operand]} * {[.number]})∗ * {[.punctuation]}

/-- Some statement starts with these kinds. -/
def Viable (word : List TokenKind) : Prop :=
  ∃ rest, word ++ rest ∈ statementForm

theorem Viable.of_mem {word : List TokenKind} (hform : word ∈ statementForm) : Viable word :=
  ⟨[], by rwa [List.append_nil]⟩

theorem Viable.of_starts {word longer : List TokenKind} (hstarts : word <+: longer) (hviable : Viable longer) :
    Viable word := by
  obtain ⟨between, rfl⟩ := hstarts
  obtain ⟨rest, hrest⟩ := hviable
  rw [List.append_assoc] at hrest
  exact ⟨between ++ rest, hrest⟩

section Languages

variable {α : Type}

theorem mem_singleton {first : α} {word : List α} :
    word ∈ ({[first]} : Language α) ↔ word = [first] :=
  Iff.rfl

theorem nil_mem_singleton_mul {first : α} {language : Language α} : [] ∉ ({[first]} : Language α) * language := by
  rw [Language.mem_mul]
  rintro ⟨_, rfl, _, _, happend⟩
  cases happend

theorem cons_mem_singleton_mul {letter first : α} {language : Language α} {word : List α} :
    letter :: word ∈ ({[first]} : Language α) * language ↔ letter = first ∧ word ∈ language := by
  rw [Language.mem_mul]
  constructor
  · rintro ⟨_, rfl, rest, hrest, happend⟩
    obtain ⟨rfl, rfl⟩ := List.cons.inj happend
    exact ⟨rfl, hrest⟩
  · rintro ⟨rfl, hword⟩
    exact ⟨[letter], rfl, word, hword, rfl⟩

theorem mem_kstar_singleton_iff {repeated word : List α} :
    word ∈ ({repeated} : Language α)∗ ↔ ∃ count, word = (List.replicate count repeated).flatten := by
  rw [Language.mem_kstar]
  constructor
  · rintro ⟨pieces, rfl, hpieces⟩
    exact ⟨pieces.length, congrArg List.flatten (List.eq_replicate_of_mem hpieces)⟩
  · rintro ⟨count, rfl⟩
    exact ⟨_, rfl, fun _ hmem => List.eq_of_mem_replicate hmem⟩

theorem singleton_mul_singleton (left right : List α) :
    ({left} : Language α) * {right} = {left ++ right} := by
  rw [Language.mul_def]
  exact Set.image2_singleton

end Languages

/-- What may follow a number. -/
def continuation : Language TokenKind :=
  ({[.operand]} * {[.number]})∗ * {[.punctuation]}

theorem mem_statementForm_iff_exists_count {word : List TokenKind} :
    word ∈ statementForm ↔
      ∃ count, word = [.question, .number] ++ (List.replicate count [.operand, .number]).flatten ++ [.punctuation] := by
  rw [statementForm, singleton_mul_singleton, singleton_mul_singleton, Language.mem_mul]
  constructor
  · rintro ⟨before, hbefore, _, rfl, rfl⟩
    obtain ⟨_, rfl, steps, hsteps, rfl⟩ := Language.mem_mul.1 hbefore
    obtain ⟨count, rfl⟩ := mem_kstar_singleton_iff.1 hsteps
    exact ⟨count, rfl⟩
  · rintro ⟨count, rfl⟩
    exact ⟨_, Language.append_mem_mul rfl (mem_kstar_singleton_iff.2 ⟨count, rfl⟩), _, rfl, rfl⟩

theorem continuation_eq : continuation = {[.punctuation]} + {[.operand]} * ({[.number]} * continuation) := by
  conv_lhs => rw [continuation, ← Language.one_add_self_mul_kstar_eq_kstar, add_mul, one_mul]
  rw [mul_assoc, mul_assoc, ← continuation]

theorem nil_mem_continuation : [] ∉ continuation := by
  rw [continuation_eq, Language.mem_add, mem_singleton]
  exact not_or.2 ⟨nofun, nil_mem_singleton_mul⟩

theorem cons_mem_continuation {kind : TokenKind} {word : List TokenKind} :
    kind :: word ∈ continuation ↔
      (kind = .punctuation ∧ word = []) ∨ (kind = .operand ∧ word ∈ {[.number]} * continuation) := by
  rw [continuation_eq, Language.mem_add, mem_singleton, List.cons.injEq, cons_mem_singleton_mul, ← continuation_eq]

namespace ParserState

/-- Where a kind that fits leads. -/
def next? : ParserState → TokenKind → Option ParserState
  | initial, .question => some afterQuestion
  | afterQuestion, .number => some afterNumber
  | afterNumber, .operand => some afterOperand
  | afterNumber, .punctuation => some final
  | afterOperand, .number => some afterNumber
  | _, _ => none

def after? : ParserState → List TokenKind → Option ParserState
  | state, [] => some state
  | state, kind :: word => (state.next? kind).bind (·.after? word)

/-- What may follow in a state. -/
def form : ParserState → Language TokenKind
  | initial => {[.question]} * ({[.number]} * continuation)
  | afterQuestion | afterOperand => {[.number]} * continuation
  | afterNumber => continuation
  | final => 1
  | syntaxError => 0

theorem form_initial : initial.form = statementForm := by
  rw [form, continuation, statementForm, mul_assoc, mul_assoc]

theorem nil_mem_form_iff {state : ParserState} : [] ∈ state.form ↔ state = final := by
  cases state with
  | initial | afterQuestion | afterOperand => exact ⟨fun hnil => absurd hnil nil_mem_singleton_mul, nofun⟩
  | afterNumber => exact ⟨fun hnil => absurd hnil nil_mem_continuation, nofun⟩
  | final => exact ⟨fun _ => rfl, fun _ => Language.nil_mem_one⟩
  | syntaxError => exact ⟨fun hnil => absurd hnil (Language.notMem_zero _), nofun⟩

/-- The words of a state that start with a kind are those of the state the kind leads to. -/
theorem cons_mem_form_iff {state : ParserState} {kind : TokenKind} {word : List TokenKind} :
    kind :: word ∈ state.form ↔ ∃ target, state.next? kind = some target ∧ word ∈ target.form := by
  cases state with
  | initial =>
    rw [form, cons_mem_singleton_mul]
    cases kind <;> simp [next?, form]
  | afterQuestion | afterOperand =>
    rw [form, cons_mem_singleton_mul]
    cases kind <;> simp [next?, form]
  | afterNumber =>
    rw [form, cons_mem_continuation]
    cases kind <;> simp [next?, form, Language.mem_one]
  | final => cases kind <;> simp [next?, form, Language.mem_one]
  | syntaxError => cases kind <;> simp [next?, form]

theorem mem_form_iff {state : ParserState} {word : List TokenKind} :
    word ∈ state.form ↔ state.after? word = some final := by
  induction word generalizing state with
  | nil => rw [nil_mem_form_iff, after?, Option.some.injEq]
  | cons kind word ih =>
    rw [cons_mem_form_iff, after?, Option.bind_eq_some_iff]
    simp only [ih]

theorem mem_statementForm_iff {word : List TokenKind} :
    word ∈ statementForm ↔ initial.after? word = some final := by
  rw [← form_initial, mem_form_iff]

theorem after?_append {state : ParserState} {word rest : List TokenKind} :
    state.after? (word ++ rest) = (state.after? word).bind (·.after? rest) := by
  induction word generalizing state with
  | nil => rfl
  | cons kind word ih =>
    rw [List.cons_append, after?, after?, Option.bind_assoc]
    simp only [ih]

/-- What a kind that fits leads to depends on the kind alone. -/
def reachedBy : TokenKind → ParserState
  | .question => afterQuestion
  | .number => afterNumber
  | .operand => afterOperand
  | .punctuation => final

theorem eq_reachedBy_of_next? {state target : ParserState} {kind : TokenKind} (hnext : state.next? kind = some target) :
    target = reachedBy kind := by
  cases state <;> cases kind <;> cases hnext <;> rfl

/-- A word reaches the state of its last kind. -/
theorem after?_concat {state target : ParserState} {word : List TokenKind} {kind : TokenKind}
    (hafter : state.after? (word ++ [kind]) = some target) : target = reachedBy kind := by
  rw [after?_append, Option.bind_eq_some_iff] at hafter
  obtain ⟨middle, _, hlast⟩ := hafter
  rw [after?, Option.bind_eq_some_iff] at hlast
  obtain ⟨reached, hnext, hreached⟩ := hlast
  obtain rfl := Option.some.inj hreached
  exact eq_reachedBy_of_next? hnext

theorem reachedBy_ne_syntaxError (kind : TokenKind) : reachedBy kind ≠ syntaxError := by
  cases kind <;> nofun

theorem ne_syntaxError_of_after? {word : List TokenKind} {state : ParserState}
    (hafter : initial.after? word = some state) : state ≠ syntaxError := by
  obtain rfl | ⟨before, kind, rfl⟩ := List.eq_nil_or_concat' word
  · obtain rfl := Option.some.inj hafter
    nofun
  · obtain rfl := after?_concat hafter
    exact reachedBy_ne_syntaxError kind

theorem exists_after?_reachedBy (kind : TokenKind) : ∃ word, (reachedBy kind).after? word = some final := by
  cases kind with
  | question | operand => exact ⟨[.number, .punctuation], rfl⟩
  | number => exact ⟨[.punctuation], rfl⟩
  | punctuation => exact ⟨[], rfl⟩

/-- Every word that does not get stuck can be completed. -/
theorem viable_iff {word : List TokenKind} : Viable word ↔ ∃ state, initial.after? word = some state := by
  constructor
  · rintro ⟨rest, hrest⟩
    rw [mem_statementForm_iff, after?_append, Option.bind_eq_some_iff] at hrest
    obtain ⟨state, hstate, _⟩ := hrest
    exact ⟨state, hstate⟩
  · rintro ⟨state, hstate⟩
    obtain rfl | ⟨before, kind, rfl⟩ := List.eq_nil_or_concat' word
    · exact ⟨[.question, .number, .punctuation], mem_statementForm_iff.2 rfl⟩
    · obtain ⟨rest, hrest⟩ := exists_after?_reachedBy kind
      obtain rfl := after?_concat hstate
      refine ⟨rest, mem_statementForm_iff.2 ?_⟩
      rw [after?_append, hstate, Option.bind_some, hrest]

end ParserState

end WordSums
