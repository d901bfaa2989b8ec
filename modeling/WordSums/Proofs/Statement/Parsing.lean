import WordSums.Proofs.Machine.Dispatch
import WordSums.Proofs.Statement.Form

/-!
# What the parser answers

The parser's table has exactly one rule for each kind in each state it can be in: the kinds that fit
lead where the form of a statement leads, and the others end the run. So while the parser runs, its
state is the one that the kinds read so far lead to, and what it has kept are the numbers and
operands among them. It fails at the first token with which the tokens stop being the start of a
statement, and at the end if they are a start but not all of one.
-/

namespace WordSums

open WordSums.Time

/-- Tokens whose kinds form a statement, one by one. -/
theorem map_kind_mem_statementForm_iff {tokens : List Token} :
    tokens.map Token.kind ∈ statementForm ↔
      ∃ question first steps mark count, tokens = question :: first :: (steps ++ [mark]) ∧
        question.kind = .question ∧ first.kind = .number ∧ mark.kind = .punctuation ∧
        steps.map Token.kind = (List.replicate count [TokenKind.operand, .number]).flatten := by
  rw [mem_statementForm_iff_exists_count]
  constructor
  · rintro ⟨count, hkinds⟩
    obtain ⟨before, ending, rfl, hbefore, hending⟩ := List.map_eq_append_iff.1 hkinds
    obtain ⟨opening, steps, rfl, hopening, hsteps⟩ := List.map_eq_append_iff.1 hbefore
    obtain ⟨question, numbers, rfl, hquestion, hnumbers⟩ := List.map_eq_cons_iff.1 hopening
    obtain ⟨first, rfl, hfirst⟩ := List.map_eq_singleton_iff.1 hnumbers
    obtain ⟨mark, rfl, hmark⟩ := List.map_eq_singleton_iff.1 hending
    exact ⟨question, first, steps, mark, count, rfl, hquestion, hfirst, hmark, hsteps⟩
  · rintro ⟨question, first, steps, mark, count, rfl, hquestion, hfirst, hmark, hsteps⟩
    refine ⟨count, ?_⟩
    rw [List.map_cons, List.map_cons, List.map_append, List.map_singleton, hquestion, hfirst, hmark, hsteps]
    rfl

/-- What should have come instead of a token, by the tokens before it. -/
def expectedAfter (seen : List Token) : SyntaxFault :=
  match seen.getLast?.map Token.kind with
  | none => .missingQuestion
  | some .question | some .operand => .expectedNumber
  | some .number => .expectedOperationOrEnd
  | some .punctuation => .trailingTokens

/-- The shortest start of the tokens that no statement starts with. -/
structure Misfit (start tokens : List Token) : Prop where
  starts : start <+: tokens
  notViable : ¬ Viable (start.map Token.kind)
  shortest : ∀ other, other <+: tokens → ¬ Viable (other.map Token.kind) → start.length ≤ other.length

theorem Misfit.unique {left right tokens : List Token} (hleft : Misfit left tokens) (hright : Misfit right tokens) :
    left = right := by
  have hlength : left.length = right.length :=
    Nat.le_antisymm (hleft.shortest right hright.starts hright.notViable)
      (hright.shortest left hleft.starts hleft.notViable)
  exact (List.prefix_of_prefix_length_le hleft.starts hright.starts hlength.le).eq_of_length hlength

theorem Misfit.not_viable {start tokens : List Token} (hmisfit : Misfit start tokens) :
    ¬ Viable (tokens.map Token.kind) :=
  fun hviable => hmisfit.notViable (hviable.of_starts (hmisfit.starts.map Token.kind))

namespace Parser

def fitting (source : ParserState) (kind : TokenKind) (target : ParserState) :
    Rule ParserState TokenKind ParserContext Fault :=
  if kind.isSignificant then keeping source kind target else dropping source kind target

theorem fitting_target (source : ParserState) (kind : TokenKind) (target : ParserState) :
    (fitting source kind target).target = target := by
  unfold fitting
  split <;> rfl

theorem fitting_apply (source target : ParserState) (token : Token) (upcoming kept : List Token) (position : Nat) :
    (fitting source token.kind target).apply ⟨token :: upcoming, kept, position⟩ =
      (.ok (), ⟨upcoming, kept ++ [token].filter Token.isSignificant, position + 1⟩) := by
  unfold fitting
  by_cases hsignificant : token.isSignificant = true
  · rw [List.filter_cons_of_pos hsignificant, List.filter_nil, ← Token.isSignificant, if_pos hsignificant]
    rfl
  · rw [List.filter_cons_of_neg hsignificant, List.filter_nil, ← Token.isSignificant, if_neg hsignificant,
      List.append_nil]
    rfl

theorem selectRule_of_next? {state target : ParserState} {kind : TokenKind} (hnext : state.next? kind = some target)
    (context : ParserContext) : selectRule state kind context rules = .ok (some (fitting state kind target)) := by
  cases state <;> cases kind <;> cases hnext <;> rfl

theorem selectRule_of_misfit {state : ParserState} {kind : TokenKind} (hstate : state ≠ .syntaxError)
    (hnext : state.next? kind = none) (context : ParserContext) :
    selectRule state kind context rules = .ok (some (rejecting state kind)) := by
  cases state <;> cases kind <;> first | rfl | exact absurd rfl hstate | cases hnext

section Dispatch

variable {machine : ParserMachine} {now : Timestamp} {kind : TokenKind}

theorem exec_fitting {target : ParserState} {context : ParserContext} (htable : machine.table = table)
    (hnext : machine.state.next? kind = some target)
    (happly : (fitting machine.state kind target).apply machine.context = (.ok (), context)) :
    (machine.exec now kind).value =
      (.ok target, machine.fired now kind (fitting machine.state kind target) context) := by
  have hselect : selectRule machine.state kind machine.context machine.table.rules =
      .ok (some (fitting machine.state kind target)) := by
    rw [htable]
    exact selectRule_of_next? hnext machine.context
  have hexec : (machine.exec now kind).value = _ := Machine.exec_of_applied hselect happly
  rwa [fitting_target] at hexec

/-- A kind that does not fit is refused, and nothing else happens. -/
theorem exec_misfit (htable : machine.table = table) (hstate : machine.state ≠ .syntaxError)
    (hnext : machine.state.next? kind = none) :
    (machine.exec now kind).value =
      (.error (.invalidSyntax machine.state.fault machine.context.position), machine) := by
  have hselect : selectRule machine.state kind machine.context machine.table.rules =
      .ok (some (rejecting machine.state kind)) := by
    rw [htable]
    exact selectRule_of_misfit hstate hnext machine.context
  exact Machine.exec_of_failed hselect rfl

end Dispatch

/-- The parser has consumed some tokens, and others are still to come. -/
structure Parsing (consumed upcoming : List Token) (machine : ParserMachine) : Prop where
  table : machine.table = table
  reached : ParserState.initial.after? (consumed.map Token.kind) = some machine.state
  context : machine.context = ⟨upcoming, consumed.filter Token.isSignificant, consumed.length⟩

theorem parsing_begin (tokens : List Token) : Parsing [] tokens (begin tokens) :=
  ⟨rfl, rfl, rfl⟩

namespace Parsing

variable {consumed upcoming : List Token} {token : Token} {machine : ParserMachine}

/-- A token that fits is read, and kept if it is a number or an operand. -/
theorem exec_of_next? {target : ParserState} (hparsing : Parsing consumed (token :: upcoming) machine)
    (hnext : machine.state.next? token.kind = some target) :
    ∃ moved, (machine.exec .epoch token.kind).value = (.ok target, moved) ∧
      Parsing (consumed ++ [token]) upcoming moved := by
  have happly : (fitting machine.state token.kind target).apply machine.context =
      (.ok (), ⟨upcoming, (consumed ++ [token]).filter Token.isSignificant, (consumed ++ [token]).length⟩) := by
    rw [hparsing.context, fitting_apply, List.filter_append, List.length_append, List.length_singleton]
  refine ⟨_, exec_fitting hparsing.table hnext happly, hparsing.table, ?_, rfl⟩
  rw [List.map_append, ParserState.after?_append, hparsing.reached, Option.bind_some, List.map_singleton,
    ParserState.after?, hnext]
  exact congrArg some (fitting_target _ _ _).symm

/-- A token that does not fit ends the run. -/
theorem exec_of_misfit (hparsing : Parsing consumed (token :: upcoming) machine)
    (hnext : machine.state.next? token.kind = none) :
    (machine.exec .epoch token.kind).value = (.error (.invalidSyntax machine.state.fault consumed.length), machine) := by
  have hstate : machine.state ≠ .syntaxError := ParserState.ne_syntaxError_of_after? hparsing.reached
  have hposition : machine.context.position = consumed.length := by rw [hparsing.context]
  rw [exec_misfit hparsing.table hstate hnext, hposition]

/-- A run reads all tokens, or fails at the first that does not fit. -/
theorem readAll (hparsing : Parsing consumed upcoming machine) {bound : Nat} (hbound : upcoming.length ≤ bound) :
    (∃ final, (Parser.readAll bound machine).value = .ok final ∧ Parsing (consumed ++ upcoming) [] final) ∨
      ∃ seen token rest state, consumed ++ upcoming = seen ++ token :: rest ∧
        ParserState.initial.after? (seen.map Token.kind) = some state ∧ state.next? token.kind = none ∧
        (Parser.readAll bound machine).value = .error (.invalidSyntax state.fault seen.length) := by
  induction upcoming generalizing consumed machine bound with
  | nil =>
    refine .inl ⟨machine, ?_, by rwa [List.append_nil]⟩
    cases bound with
    | zero => rfl
    | succ bound =>
      unfold Parser.readAll
      rw [hparsing.context]
      rfl
  | cons token upcoming ih =>
    obtain ⟨fewer, rfl⟩ : ∃ fewer, bound = fewer + 1 := ⟨bound - 1, by simp at hbound; omega⟩
    have hpeek : machine.context.peek? = some token.kind := by rw [hparsing.context]; rfl
    unfold Parser.readAll
    rw [hpeek]
    dsimp only
    rw [Traced.value_bind]
    cases hnext : machine.state.next? token.kind with
    | none =>
      refine .inr ⟨consumed, token, upcoming, machine.state, rfl, hparsing.reached, hnext, ?_⟩
      rw [hparsing.exec_of_misfit hnext]
      rfl
    | some target =>
      obtain ⟨moved, hexec, hmoved⟩ := hparsing.exec_of_next? hnext
      rw [hexec, List.append_cons]
      exact ih hmoved (by simpa using hbound)

end Parsing

/-! ### Where the tokens stop fitting -/

theorem fault_eq_expectedAfter {seen : List Token} {state : ParserState}
    (hafter : ParserState.initial.after? (seen.map Token.kind) = some state) : state.fault = expectedAfter seen := by
  obtain rfl | ⟨before, token, rfl⟩ := List.eq_nil_or_concat' seen
  · obtain rfl := Option.some.inj hafter
    rfl
  · rw [List.map_append] at hafter
    obtain rfl := ParserState.after?_concat hafter
    rw [expectedAfter, List.getLast?_concat, Option.map_some]
    cases token.kind <;> rfl

/-- A token that does not fit ends the shortest start that no statement has. -/
theorem misfit_concat {seen rest : List Token} {token : Token} {state : ParserState}
    (hafter : ParserState.initial.after? (seen.map Token.kind) = some state) (hnext : state.next? token.kind = none) :
    Misfit (seen ++ [token]) (seen ++ token :: rest) where
  starts := ⟨rest, List.append_cons .. |>.symm⟩
  notViable := by
    rw [ParserState.viable_iff, List.map_append, ParserState.after?_append, hafter, Option.bind_some,
      List.map_singleton, ParserState.after?, hnext]
    rintro ⟨_, heq⟩
    cases heq
  shortest other hother hnot := by
    by_contra hshorter
    have hlength : other.length ≤ seen.length := by
      rw [List.length_append, List.length_singleton] at hshorter
      omega
    have hstarts : other <+: seen := List.prefix_of_prefix_length_le hother (List.prefix_append _ _) hlength
    exact hnot ((ParserState.viable_iff.2 ⟨state, hafter⟩).of_starts (hstarts.map Token.kind))

/-! ### The answers of the parser -/

/-- The parser gets through a start of a statement, and is otherwise stopped by the last token of the
shortest start of its tokens that no statement has. -/
theorem parse_cases (tokens : List Token) :
    (∃ state, ParserState.initial.after? (tokens.map Token.kind) = some state ∧
      (parse tokens).value =
        if state = .final then .ok (tokens.filter Token.isSignificant)
        else .error (.invalidSyntax .unexpectedEnd tokens.length)) ∨
    ∃ seen token, Misfit (seen ++ [token]) tokens ∧
      (parse tokens).value = .error (.invalidSyntax (expectedAfter seen) seen.length) := by
  obtain ⟨final, hvalue, hfinal⟩ | ⟨seen, token, rest, state, rfl, hafter, hnext, hvalue⟩ :=
    (parsing_begin tokens).readAll tokens.length.le_refl
  · refine .inl ⟨final.state, hfinal.reached, ?_⟩
    rw [parse, Traced.value_bind, hvalue]
    dsimp only
    rw [Traced.value_bind]
    by_cases hstate : final.state = .final
    · rw [if_pos hstate, if_pos hstate, hfinal.context]
      rfl
    · rw [if_neg hstate, if_neg hstate, hfinal.context]
      rfl
  · refine .inr ⟨seen, token, misfit_concat hafter hnext, ?_⟩
    rw [fault_eq_expectedAfter hafter] at hvalue
    rw [parse, Traced.value_bind, hvalue]
    rfl

theorem parse_eq_ok_iff {tokens kept : List Token} :
    (parse tokens).value = .ok kept ↔
      tokens.map Token.kind ∈ statementForm ∧ kept = tokens.filter Token.isSignificant := by
  obtain ⟨state, hafter, hvalue⟩ | ⟨seen, token, hmisfit, hvalue⟩ := parse_cases tokens
  · rw [hvalue, ParserState.mem_statementForm_iff, hafter, Option.some.injEq]
    by_cases hstate : state = .final
    · rw [if_pos hstate, Except.ok.injEq]
      exact ⟨fun hkept => ⟨hstate, hkept.symm⟩, fun hboth => hboth.2.symm⟩
    · rw [if_neg hstate]
      exact ⟨nofun, fun hboth => absurd hboth.1 hstate⟩
  · rw [hvalue]
    exact ⟨nofun, fun hboth => absurd (Viable.of_mem hboth.1) hmisfit.not_viable⟩

theorem parse_eq_error_iff {tokens : List Token} {fault : Fault} :
    (parse tokens).value = .error fault ↔
      (∃ seen token, Misfit (seen ++ [token]) tokens ∧ fault = .invalidSyntax (expectedAfter seen) seen.length) ∨
      (Viable (tokens.map Token.kind) ∧ tokens.map Token.kind ∉ statementForm ∧
        fault = .invalidSyntax .unexpectedEnd tokens.length) := by
  obtain ⟨state, hafter, hvalue⟩ | ⟨seen, token, hmisfit, hvalue⟩ := parse_cases tokens
  · have hviable : Viable (tokens.map Token.kind) := ParserState.viable_iff.2 ⟨state, hafter⟩
    have hform : tokens.map Token.kind ∈ statementForm ↔ state = .final := by
      rw [ParserState.mem_statementForm_iff, hafter, Option.some.injEq]
    rw [hvalue, hform]
    by_cases hstate : state = .final
    · rw [if_pos hstate]
      constructor
      · nofun
      · rintro (⟨_, _, hmisfit, _⟩ | ⟨_, hnot, _⟩)
        · exact absurd hviable hmisfit.not_viable
        · exact absurd hstate hnot
    · rw [if_neg hstate, Except.error.injEq]
      constructor
      · rintro rfl
        exact .inr ⟨hviable, hstate, rfl⟩
      · rintro (⟨_, _, hmisfit, _⟩ | ⟨_, _, rfl⟩)
        · exact absurd hviable hmisfit.not_viable
        · rfl
  · rw [hvalue, Except.error.injEq]
    constructor
    · rintro rfl
      exact .inl ⟨seen, token, hmisfit, rfl⟩
    · rintro (⟨others, other, hother, rfl⟩ | ⟨hviable, _⟩)
      · obtain ⟨rfl, _⟩ := List.append_inj' (hother.unique hmisfit) rfl
        rfl
      · exact absurd hviable hmisfit.not_viable

/-- What a statement keeps is all but its first and its last token. -/
theorem filter_isSignificant_of_mem {tokens : List Token} (hform : tokens.map Token.kind ∈ statementForm) :
    tokens.filter Token.isSignificant = tokens.tail.dropLast := by
  obtain ⟨question, first, steps, mark, count, rfl, hquestion, hfirst, hmark, hsteps⟩ :=
    map_kind_mem_statementForm_iff.1 hform
  have hkept : ∀ token ∈ steps, token.isSignificant = true := by
    intro token hmem
    have hkind : token.kind ∈ (List.replicate count [TokenKind.operand, .number]).flatten :=
      hsteps ▸ List.mem_map_of_mem hmem
    obtain ⟨piece, hpiece, hin⟩ := List.mem_flatten.1 hkind
    rw [List.eq_of_mem_replicate hpiece] at hin
    rw [Token.isSignificant]
    obtain hoperand | hnumber := List.mem_pair.1 hin
    · rw [hoperand, TokenKind.isSignificant]
    · rw [hnumber, TokenKind.isSignificant]
  rw [List.filter_cons_of_neg (by rw [Token.isSignificant, hquestion]; decide),
    List.filter_cons_of_pos (by rw [Token.isSignificant, hfirst, TokenKind.isSignificant]), List.filter_append,
    List.filter_eq_self.2 hkept, List.filter_cons_of_neg (by rw [Token.isSignificant, hmark]; decide),
    List.filter_nil, List.append_nil, List.tail_cons, ← List.cons_append, List.dropLast_concat]

/-- The parser accepts exactly the statements, and what it answers otherwise is decided by the
shortest start of the tokens that no statement has, or by the end of the tokens if there is none. -/
theorem parse_exact (tokens : List Token) :
    (∀ kept, (parse tokens).value = .ok kept ↔
      tokens.map Token.kind ∈ statementForm ∧ kept = tokens.filter Token.isSignificant) ∧
    (tokens.map Token.kind ∈ statementForm → tokens.filter Token.isSignificant = tokens.tail.dropLast) ∧
    ∀ fault, (parse tokens).value = .error fault ↔
      (∃ seen token, Misfit (seen ++ [token]) tokens ∧ fault = .invalidSyntax (expectedAfter seen) seen.length) ∨
      (Viable (tokens.map Token.kind) ∧ tokens.map Token.kind ∉ statementForm ∧
        fault = .invalidSyntax .unexpectedEnd tokens.length) :=
  ⟨fun _ => parse_eq_ok_iff, filter_isSignificant_of_mem, fun _ => parse_eq_error_iff⟩

end Parser

end WordSums
