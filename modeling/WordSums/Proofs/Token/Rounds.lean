import WordSums.Proofs.Machine.Dispatch
import WordSums.Proofs.Token.Rendering
import WordSums.Proofs.Token.Standard
import WordSums.Token.Lexer

/-!
# Rounds of the lexer

In its working state the lexer has a rule for every event, so a round either takes a token or ends
the work, and which of the two depends only on where its scan stands. With the standard recognizers
the rounds follow the text as it is read token by token: they end before the same rest, with the
same tokens, and the scan's offset is the width of all that lies before that rest. Every round takes
a character, so there are always rounds enough.
-/

namespace WordSums

open WordSums.Text
open WordSums.Time

namespace Lexer

/-! ### Which rule is selected

In its working state the lexer has a rule for every event, and the two guards on the last two events
are opposites. -/

theorem selectRule_recognizedToken (context : LexerContext) :
    selectRule .tokenizing .recognizedToken context rules =
      .ok (some ⟨⟨.tokenizing, .recognizedToken, .tokenizing⟩, none, some consume⟩) := rfl

theorem selectRule_endOfInput (context : LexerContext) :
    selectRule .tokenizing .endOfInput context rules =
      .ok (some (if context.scan.hasQuestion then ⟨⟨.tokenizing, .endOfInput, .done⟩, some asked, none⟩
        else ⟨⟨.tokenizing, .endOfInput, .nonMathQuestion⟩, some asked.negate, some rejectNonMath⟩)) := by
  simp only [rules, selectRule, Rule.concerns, Rule.admits, asked, Guard.negate, Guard.when, Except.map]
  cases context.scan.hasQuestion <;> rfl

theorem selectRule_unrecognizedToken (context : LexerContext) :
    selectRule .tokenizing .unrecognizedToken context rules =
      .ok (some (if context.scan.hasQuestion then
          ⟨⟨.tokenizing, .unrecognizedToken, .unsupportedOperation⟩, some asked, some rejectUnsupported⟩
        else ⟨⟨.tokenizing, .unrecognizedToken, .nonMathQuestion⟩, some asked.negate, some rejectNonMath⟩)) := by
  simp only [rules, selectRule, Rule.concerns, Rule.admits, asked, Guard.negate, Guard.when, Except.map]
  cases context.scan.hasQuestion <;> rfl

/-! ### A lexer at work -/

/-- A lexer in its working state, with its own table, where a scan stands. -/
structure Lexing (recognizers : RecognizerSet) (scan : Scan) (machine : LexerMachine) : Prop where
  table : machine.table = table
  state : machine.state = .tokenizing
  context : machine.context = ⟨recognizers, scan⟩

theorem lexing_begin (recognizers : RecognizerSet) (source : String) :
    Lexing recognizers (Scan.start source.toList) (begin recognizers source) :=
  ⟨rfl, rfl, rfl⟩

namespace Lexing

variable {recognizers : RecognizerSet} {scan : Scan} {machine : LexerMachine} {now : Timestamp}

theorem selectRule_eq (hlexing : Lexing recognizers scan machine) (event : LexerEvent) :
    selectRule machine.state event machine.context machine.table.rules =
      selectRule .tokenizing event ⟨recognizers, scan⟩ rules := by
  rw [hlexing.table, hlexing.state, hlexing.context]
  rfl

/-- A token that can be taken is taken, and the work goes on behind it. -/
theorem exec_recognizedToken {after : Scan} (hlexing : Lexing recognizers scan machine)
    (htake : scan.take recognizers = (.ok (), after)) :
    ∃ moved, (machine.exec now .recognizedToken).value = (.ok .tokenizing, moved) ∧
      Lexing recognizers after moved := by
  have hselect := (hlexing.selectRule_eq .recognizedToken).trans (selectRule_recognizedToken _)
  have happly : consume ⟨.tokenizing, .recognizedToken, .tokenizing⟩ machine.context =
      (.ok (), ⟨recognizers, after⟩) := by
    rw [hlexing.context, consume, htake]
  exact ⟨_, Machine.exec_of_applied hselect happly, hlexing.table, rfl, rfl⟩

/-- A token that cannot be taken is refused, and nothing else happens. -/
theorem exec_recognizedToken_failed {after : Scan} {fault : RecognizerFault} (hlexing : Lexing recognizers scan machine)
    (htake : scan.take recognizers = (.error fault, after)) :
    (machine.exec now .recognizedToken).value = (.error (.recognizer fault), machine) := by
  obtain rfl := Scan.take_eq_of_error htake
  have hselect := (hlexing.selectRule_eq .recognizedToken).trans (selectRule_recognizedToken _)
  have happly : consume ⟨.tokenizing, .recognizedToken, .tokenizing⟩ machine.context =
      (.error (.recognizer fault), machine.context) := by
    rw [hlexing.context, consume, htake]
  exact Machine.exec_of_failed hselect happly

/-- What cannot be read ends the work. -/
theorem exec_unrecognizedToken (hlexing : Lexing recognizers scan machine) :
    (machine.exec now .unrecognizedToken).value =
      (.error (if scan.hasQuestion then .unsupportedOperation (String.ofList scan.fragment) scan.offset
        else .nonMathQuestion (String.ofList scan.source)), machine) := by
  have hselect := (hlexing.selectRule_eq .unrecognizedToken).trans (selectRule_unrecognizedToken _)
  cases hasked : scan.hasQuestion with
  | true =>
    rw [hasked, if_pos rfl] at hselect
    have happly : rejectUnsupported ⟨.tokenizing, .unrecognizedToken, .unsupportedOperation⟩ machine.context =
        (.error (.unsupportedOperation (String.ofList scan.fragment) scan.offset), machine.context) := by
      rw [hlexing.context, rejectUnsupported]
    rw [Machine.exec_of_failed hselect happly, if_pos rfl]
  | false =>
    rw [hasked, if_neg Bool.false_ne_true] at hselect
    have happly : rejectNonMath ⟨.tokenizing, .unrecognizedToken, .nonMathQuestion⟩ machine.context =
        (.error (.nonMathQuestion (String.ofList scan.source)), machine.context) := by
      rw [hlexing.context, rejectNonMath]
    rw [Machine.exec_of_failed hselect happly, if_neg Bool.false_ne_true]

theorem exec_endOfInput (hlexing : Lexing recognizers scan machine) (hasked : scan.hasQuestion = true) :
    ∃ moved, (machine.exec now .endOfInput).value = (.ok .done, moved) ∧
      moved.table = Lexer.table ∧ moved.state = .done ∧ moved.context.scan = scan := by
  have hselect := (hlexing.selectRule_eq .endOfInput).trans (selectRule_endOfInput _)
  rw [hasked, if_pos rfl] at hselect
  refine ⟨_, Machine.exec_of_applied hselect rfl, hlexing.table, rfl, ?_⟩
  change machine.context.scan = scan
  rw [hlexing.context]

theorem exec_endOfInput_unasked (hlexing : Lexing recognizers scan machine) (hasked : scan.hasQuestion = false) :
    (machine.exec now .endOfInput).value = (.error (.nonMathQuestion (String.ofList scan.source)), machine) := by
  have hselect := (hlexing.selectRule_eq .endOfInput).trans (selectRule_endOfInput _)
  rw [hasked, if_neg Bool.false_ne_true] at hselect
  have happly : rejectNonMath ⟨.tokenizing, .endOfInput, .nonMathQuestion⟩ machine.context =
      (.error (.nonMathQuestion (String.ofList scan.source)), machine.context) := by
    rw [hlexing.context, rejectNonMath]
  rw [Machine.exec_of_failed hselect happly]

end Lexing

end Lexer

/-! ### How far a scan gets -/

/-- A scan of the same source that has read more tokens and stands before a rest. Its offset and the
width of its rest still add up to the same. -/
structure Scan.Reaches (scan : Scan) (tokens : List Token) (rest : List Char) (after : Scan) : Prop where
  source : after.source = scan.source
  hasQuestion : after.hasQuestion = (scan.hasQuestion || tokens.any fun token => token.kind = .question)
  rest : after.rest = rest
  tokens : after.tokens = scan.tokens ++ tokens
  extent : after.offset + width after.rest = scan.offset + width scan.rest

theorem Scan.reaches_refl (scan : Scan) : scan.Reaches [] scan.rest scan :=
  ⟨rfl, (Bool.or_false _).symm, rfl, (List.append_nil _).symm, rfl⟩

theorem Scan.Reaches.trans {first second third : Scan} {tokens more : List Token} {rest final : List Char}
    (hfirst : first.Reaches tokens rest second) (hsecond : second.Reaches more final third) :
    first.Reaches (tokens ++ more) final third where
  source := hsecond.source.trans hfirst.source
  rest := hsecond.rest
  tokens := by rw [hsecond.tokens, hfirst.tokens, List.append_assoc]
  extent := hsecond.extent.trans hfirst.extent
  hasQuestion := by rw [hsecond.hasQuestion, hfirst.hasQuestion, List.any_append, Bool.or_assoc]

theorem Scan.extent_skipBlanks (scan : Scan) :
    scan.skipBlanks.offset + width scan.skipBlanks.rest = scan.offset + width scan.rest := by
  have hwidth := congrArg width (takeWhile_append_trimStart scan.rest)
  rw [width_append] at hwidth
  simp only [Scan.skipBlanks]
  omega

theorem Scan.reaches_push {scan : Scan} {kind : TokenKind} {taken : List Char} (htakes : kind.Takes taken scan.rest) :
    scan.Reaches [⟨kind, String.ofList taken⟩] (trimStart (scan.rest.drop taken.length)) (scan.push kind taken) where
  source := rfl
  rest := rfl
  tokens := rfl
  extent := by
    rw [Scan.push, Scan.extent_skipBlanks]
    obtain ⟨after, hafter⟩ := htakes.starts
    simp only [← hafter, List.drop_left, width_append]
    omega
  hasQuestion := by simp [Scan.push, Scan.skipBlanks]

/-- A new scan stands behind the blanks at the start of its source. -/
theorem Scan.extent_start (source : List Char) :
    (Scan.start source).offset + width (Scan.start source).rest = width source := by
  rw [Scan.start, Scan.extent_skipBlanks]
  exact Nat.zero_add _

namespace Lexer

namespace Lexing

variable {scan : Scan} {machine : LexerMachine}

/-! ### Rounds of the standard lexer -/

theorem readAll_of_exhausted {recognizers : RecognizerSet} (hlexing : Lexing recognizers scan machine)
    (hrest : scan.rest = []) (bound : Nat) : (readAll bound machine).value = .ok machine := by
  cases bound with
  | zero => rfl
  | succ bound =>
    have hexhausted : machine.context.scan.isExhausted = true := by
      rw [hlexing.context, Scan.isExhausted, hrest]
      rfl
    rw [readAll, if_pos hexhausted]
    rfl

/-- Where a token stands, a round takes it. -/
theorem readAll_of_takes (hlexing : Lexing .standard scan machine) {kind : TokenKind} {taken : List Char}
    (htakes : kind.Takes taken scan.rest) (bound : Nat) :
    ∃ moved, Lexing .standard (scan.push kind taken) moved ∧
      (readAll (bound + 1) machine).value = (readAll bound moved).value := by
  have htake : scan.take .standard = (.ok (), scan.push kind taken) := by
    rw [Scan.take, RecognizerSet.recognize_standard_of_takes htakes]
  have hevent : nextEvent machine.context = .recognizedToken := by
    rw [hlexing.context, nextEvent, if_pos (RecognizerSet.matchesStart_standard_iff.2 ⟨kind, taken, htakes⟩)]
  have hexhausted : machine.context.scan.isExhausted = false := by
    rw [hlexing.context, Scan.isExhausted, List.isEmpty_eq_false_iff]
    exact htakes.ne_nil
  obtain ⟨moved, hexec, hmoved⟩ := hlexing.exec_recognizedToken htake
  refine ⟨moved, hmoved, ?_⟩
  rw [readAll, hexhausted, if_neg Bool.false_ne_true, hevent, Traced.value_bind, hexec]

/-- Where no token stands, a round ends the work. -/
theorem readAll_of_stuck (hlexing : Lexing .standard scan machine) (hstuck : Stuck scan.rest)
    (hrest : scan.rest ≠ []) (bound : Nat) :
    (readAll (bound + 1) machine).value =
      .error (if scan.hasQuestion then .unsupportedOperation (String.ofList scan.fragment) scan.offset
        else .nonMathQuestion (String.ofList scan.source)) := by
  have hevent : nextEvent machine.context = .unrecognizedToken := by
    rw [hlexing.context, nextEvent, if_neg]
    intro hmatches
    obtain ⟨kind, taken, htakes⟩ := RecognizerSet.matchesStart_standard_iff.1 hmatches
    exact hstuck.not_takes kind taken htakes
  have hexhausted : machine.context.scan.isExhausted = false := by
    rw [hlexing.context, Scan.isExhausted, List.isEmpty_eq_false_iff]
    exact hrest
  rw [readAll, hexhausted, if_neg Bool.false_ne_true, hevent, Traced.value_bind, hlexing.exec_unrecognizedToken]
  rfl

/-- The rounds of the standard lexer follow the text as it is read token by token. -/
theorem readAll_of_reads {text rest : List Char} {tokens : List Token} (hreads : Reads text tokens rest)
    (htext : scan.rest = text) (hlexing : Lexing .standard scan machine) {bound : Nat}
    (hbound : text.length ≤ bound) :
    ∃ left after moved, rest.length ≤ left ∧ scan.Reaches tokens rest after ∧ Lexing .standard after moved ∧
      (readAll bound machine).value = (readAll left moved).value := by
  induction hreads generalizing scan machine bound with
  | done =>
    subst htext
    exact ⟨bound, scan, machine, hbound, scan.reaches_refl, hlexing, rfl⟩
  | @take kind taken text tokens rest htakes hrest ih =>
    subst htext
    obtain ⟨bound, rfl⟩ : ∃ fewer, bound = fewer + 1 := by
      have hlonger := List.length_pos_iff.2 htakes.ne_nil
      exact ⟨bound - 1, by omega⟩
    obtain ⟨moved, hmoved, hround⟩ := hlexing.readAll_of_takes htakes bound
    have hfewer : (trimStart (scan.rest.drop taken.length)).length ≤ bound := by
      have htaken := htakes.length_pos
      have htrim := trimStart_length_le (scan.rest.drop taken.length)
      rw [List.length_drop] at htrim
      omega
    obtain ⟨left, after, final, hleft, hreaches, hfinal, hrounds⟩ := ih rfl hmoved hfewer
    exact ⟨left, after, final, hleft, (Scan.reaches_push htakes).trans hreaches, hfinal, hround.trans hrounds⟩

end Lexing

end Lexer

end WordSums
