import WordSums.Proofs.Machine.Course
import WordSums.Proofs.Statement.Parsing
import WordSums.Proofs.Token.Rounds

/-!
# Machines under any events

The lexer and the parser tell their machines only what is the case. A machine by itself may be told anything,
in any order, and go on after failures. It is safe all the same: an action that fails does so before it has
changed anything, the guards of the lexer leave no scan out, and the parser has a rule for every kind in every
state that it can reach. So a dispatch either fails and leaves the machine as it is, or takes it to a state
where the same can be said again.
-/

namespace WordSums

open WordSums.Time

namespace Machine

variable {State Event Context Fault : Type} [DecidableEq State] [DecidableEq Event] [Named State] [Named Event]
  [OfNoTransition Fault] {machine : Machine State Event Context Fault} {now : Timestamp} {event : Event}
  {Raised : Fault → Prop} {Kept : Machine State Event Context Fault → Prop}

/-- A dispatch fails with a fault of one kind and leaves the machine as it is, or leads to a machine of one
kind. -/
def Settles (Raised : Fault → Prop) (Kept : Machine State Event Context Fault → Prop)
    (machine : Machine State Event Context Fault) (now : Timestamp) (event : Event) : Prop :=
  (∃ fault, Raised fault ∧ (machine.exec now event).value = (.error fault, machine)) ∨
    ∃ state moved, (machine.exec now event).value = (.ok state, moved) ∧ Kept moved

theorem Settles.keeps (hsettles : machine.Settles Raised Kept now event) (hkept : Kept machine) :
    Kept (machine.exec now event).value.2 := by
  cases hsettles with
  | inl hfails =>
    obtain ⟨fault, _, hexec⟩ := hfails
    rwa [hexec]
  | inr hmoves =>
    obtain ⟨state, moved, hexec, hmoved⟩ := hmoves
    rwa [hexec]

theorem Settles.failure (hsettles : machine.Settles Raised Kept now event) {fault : Fault}
    {after : Machine State Event Context Fault} (hexec : (machine.exec now event).value = (.error fault, after)) :
    after = machine ∧ Raised fault := by
  cases hsettles with
  | inl hfails =>
    obtain ⟨other, hraised, hother⟩ := hfails
    obtain ⟨hfault, hafter⟩ := Prod.mk.inj (hexec.symm.trans hother)
    obtain rfl := Except.error.inj hfault
    exact ⟨hafter, hraised⟩
  | inr hmoves =>
    obtain ⟨state, moved, hmoved, _⟩ := hmoves
    cases (Prod.mk.inj (hexec.symm.trans hmoved)).1

/-- What every dispatch keeps, a run keeps. -/
theorem execAll_keeps (hkeeps : ∀ machine, Kept machine → ∀ now event, Kept (machine.exec now event).value.2)
    (hkept : Kept machine) (calls : List (Timestamp × Event)) : Kept (machine.execAll calls).value.2 := by
  induction calls generalizing machine with
  | nil => exact hkept
  | cons call calls ih =>
    obtain ⟨now, event⟩ := call
    rw [execAll_cons_value]
    exact ih (hkeeps machine hkept now event)

end Machine

/-! ### The lexer -/

namespace Lexer

/-- A machine with the rules of the lexer, at work or at the end. -/
structure Standing (machine : LexerMachine) : Prop where
  table : machine.table = table
  state : machine.state = .tokenizing ∨ machine.state = .done

variable {machine : LexerMachine}

theorem lexing_of_tokenizing (htable : machine.table = table) (hstate : machine.state = .tokenizing) :
    Lexing machine.context.recognizers machine.context.scan machine :=
  ⟨htable, hstate, rfl⟩

/-- At the end there is no rule for any event. -/
theorem exec_done (htable : machine.table = table) (hstate : machine.state = .done) (now : Timestamp)
    (event : LexerEvent) :
    (machine.exec now event).value = (.error (.transition ⟨"Done", event.label⟩), machine) := by
  have hselect : selectRule machine.state event machine.context machine.table.rules = .ok none := by
    rw [htable, hstate]
    cases event <;> rfl
  have hexec : (machine.exec now event).value = _ := Machine.exec_of_unmatched hselect
  rw [hexec, hstate]
  rfl

theorem Standing.settles (hstanding : Standing machine) (now : Timestamp) (event : LexerEvent) :
    machine.Settles (fun _ => True) Standing now event := by
  cases hstanding.state with
  | inr hdone => exact .inl ⟨_, trivial, exec_done hstanding.table hdone now event⟩
  | inl htokenizing =>
    have hlexing := lexing_of_tokenizing hstanding.table htokenizing
    -- each event is refused or obeyed by what the scan holds, whatever the text in front of it
    cases event with
    | recognizedToken =>
      cases htake : machine.context.scan.take machine.context.recognizers with
      | mk taken after =>
        cases taken with
        | error fault => exact .inl ⟨_, trivial, hlexing.exec_recognizedToken_failed htake⟩
        | ok _ =>
          obtain ⟨moved, hexec, hmoved⟩ := hlexing.exec_recognizedToken htake
          exact .inr ⟨_, moved, hexec, hmoved.table, .inl hmoved.state⟩
    | unrecognizedToken => exact .inl ⟨_, trivial, hlexing.exec_unrecognizedToken⟩
    | endOfInput =>
      cases hasked : machine.context.scan.hasQuestion with
      | false => exact .inl ⟨_, trivial, hlexing.exec_endOfInput_unasked hasked⟩
      | true =>
        obtain ⟨moved, hexec, htable, hstate, _⟩ := hlexing.exec_endOfInput hasked
        exact .inr ⟨_, moved, hexec, htable, .inr hstate⟩

/-- What can be relied on in a lexer's machine. -/
structure Safe (machine : LexerMachine) : Prop where
  state : machine.state = .tokenizing ∨ machine.state = .done
  unrecognized : machine.state = .tokenizing → ∀ now,
    (machine.exec now .unrecognizedToken).value =
      (.error (if machine.context.scan.hasQuestion then
          .unsupportedOperation (String.ofList machine.context.scan.fragment) machine.context.scan.offset
        else .nonMathQuestion (String.ofList machine.context.scan.source)), machine)
  failures : ∀ now event fault after, (machine.exec now event).value = (.error fault, after) → after = machine
  ended : machine.state = .done → ∀ now event,
    (machine.exec now event).value = (.error (.transition ⟨"Done", event.label⟩), machine)

theorem Standing.safe (hstanding : Standing machine) : Safe machine where
  state := hstanding.state
  unrecognized hstate _ := (lexing_of_tokenizing hstanding.table hstate).exec_unrecognizedToken
  failures now event _ _ hexec := ((hstanding.settles now event).failure hexec).1
  ended hstate now event := exec_done hstanding.table hstate now event

end Lexer

/-! ### The parser -/

namespace Parser

/-- A machine with the rules of the parser, in any state but that of failure. -/
structure Standing (machine : ParserMachine) : Prop where
  table : machine.table = table
  state : machine.state ≠ .syntaxError

variable {machine : ParserMachine}

/-- The action of a rule for a kind that fits never fails, whatever token is next. -/
theorem exists_fitting_apply (source target : ParserState) (kind : TokenKind) (context : ParserContext) :
    ∃ after, (fitting source kind target).apply context = (.ok (), after) := by
  unfold fitting
  split
  · exact ⟨context.keep, rfl⟩
  · exact ⟨context.skip, rfl⟩

theorem Standing.settles (hstanding : Standing machine) (now : Timestamp) (kind : TokenKind) :
    machine.Settles (· = .invalidSyntax machine.state.fault machine.context.position) Standing now kind := by
  cases hnext : machine.state.next? kind with
  | none => exact .inl ⟨_, rfl, exec_misfit hstanding.table hstanding.state hnext⟩
  | some target =>
    obtain ⟨after, happly⟩ := exists_fitting_apply machine.state target kind machine.context
    refine .inr ⟨target, _, exec_fitting hstanding.table hnext happly, hstanding.table, ?_⟩
    change (fitting machine.state kind target).target ≠ .syntaxError
    rw [fitting_target, ParserState.eq_reachedBy_of_next? hnext]
    exact ParserState.reachedBy_ne_syntaxError kind

/-- What can be relied on in a parser's machine. The fault of a dispatch is never that a transition is
missing. -/
structure Safe (machine : ParserMachine) : Prop where
  state : machine.state ≠ .syntaxError
  failures : ∀ now kind fault after, (machine.exec now kind).value = (.error fault, after) →
    after = machine ∧ fault = .invalidSyntax machine.state.fault machine.context.position
  ended : machine.state = .final → ∀ now kind,
    (machine.exec now kind).value = (.error (.invalidSyntax .trailingTokens machine.context.position), machine)

theorem Standing.safe (hstanding : Standing machine) : Safe machine where
  state := hstanding.state
  failures now kind _ _ hexec := (hstanding.settles now kind).failure hexec
  ended hstate now kind := by
    have hnext : machine.state.next? kind = none := by
      rw [hstate]
      rfl
    have hexec : (machine.exec now kind).value = _ := exec_misfit hstanding.table hstanding.state hnext
    rw [hexec, hstate, ParserState.fault]

end Parser

/-- Whatever the events and their order, a lexer's machine and a parser's machine are safe after any number of
them, from any context that they begin with. -/
theorem machines_safe :
    (∀ (context : LexerContext) (history : Option (History LexerState)) (calls : List (Timestamp × LexerEvent)),
      Lexer.Safe (Machine.execAll ⟨Lexer.table, .tokenizing, context, history⟩ calls).value.2) ∧
    ∀ (context : ParserContext) (history : Option (History ParserState)) (calls : List (Timestamp × TokenKind)),
      Parser.Safe (Machine.execAll ⟨Parser.table, .initial, context, history⟩ calls).value.2 := by
  constructor
  · intro context history calls
    have hbegun : Lexer.Standing ⟨Lexer.table, .tokenizing, context, history⟩ := ⟨rfl, .inl rfl⟩
    have hkeeps (machine) (hstanding : Lexer.Standing machine) (now event) := (hstanding.settles now event).keeps hstanding
    exact (Machine.execAll_keeps hkeeps hbegun calls).safe
  · intro context history calls
    have hbegun : Parser.Standing ⟨Parser.table, .initial, context, history⟩ := ⟨rfl, nofun⟩
    have hkeeps (machine) (hstanding : Parser.Standing machine) (now event) := (hstanding.settles now event).keeps hstanding
    exact (Machine.execAll_keeps hkeeps hbegun calls).safe

end WordSums
