import WordSums.Fault
import WordSums.Machine.Run
import WordSums.Token.Scan

/-!
# Reading a question as tokens

The lexer is a machine over a scan. While something is left to read it is told whether the
recognizers can take a token there, and in the end that the input is over. A text that cannot be
read before a question word came is no question about arithmetic at all; after it, it asks for
something that is not supported. The same holds of a text that ends without a question word. The
states of failure are named by the table but never entered, because the actions that lead to them
fail.
-/

namespace WordSums

open WordSums.Time

inductive LexerState where
  | tokenizing
  | done
  | nonMathQuestion
  | unsupportedOperation
deriving DecidableEq, Repr

namespace LexerState

def all : List LexerState := [tokenizing, done, nonMathQuestion, unsupportedOperation]

def label : LexerState → String
  | tokenizing => "Tokenizing"
  | done => "Done"
  | nonMathQuestion => "NonMathQuestion"
  | unsupportedOperation => "UnsupportedOperation"

instance : MachineState LexerState where
  nameOf := label
  isFinal state := state ≠ tokenizing
  isError state := state = nonMathQuestion ∨ state = unsupportedOperation

end LexerState

inductive LexerEvent where
  | recognizedToken
  | unrecognizedToken
  | endOfInput
deriving DecidableEq, Repr

namespace LexerEvent

def all : List LexerEvent := [recognizedToken, unrecognizedToken, endOfInput]

def label : LexerEvent → String
  | recognizedToken => "RecognizedToken"
  | unrecognizedToken => "UnrecognizedToken"
  | endOfInput => "EndOfInput"

instance : Named LexerEvent := ⟨label⟩

end LexerEvent

structure LexerContext where
  recognizers : RecognizerSet
  scan : Scan

abbrev LexerMachine : Type := Machine LexerState LexerEvent LexerContext Fault

namespace Lexer

def consume : Action LexerState LexerEvent LexerContext Fault := fun _ context =>
  match context.scan.take context.recognizers with
  | (.ok (), scan) => (.ok (), { context with scan := scan })
  | (.error fault, scan) => (.error (.recognizer fault), { context with scan := scan })

/-- Fails because the input is no question about arithmetic. -/
def rejectNonMath : Action LexerState LexerEvent LexerContext Fault := fun _ context =>
  (.error (.nonMathQuestion (String.ofList context.scan.source)), context)

/-- Fails because of the piece of text that no recognizer takes. -/
def rejectUnsupported : Action LexerState LexerEvent LexerContext Fault := fun _ context =>
  (.error (.unsupportedOperation (String.ofList context.scan.fragment) context.scan.offset), context)

/-- Holds once a question token was read. -/
def asked : Guard LexerContext Fault := .when fun context => context.scan.hasQuestion

def rules : List (Rule LexerState LexerEvent LexerContext Fault) := [
  ⟨⟨.tokenizing, .recognizedToken, .tokenizing⟩, none, some consume⟩,
  ⟨⟨.tokenizing, .endOfInput, .done⟩, some asked, none⟩,
  ⟨⟨.tokenizing, .endOfInput, .nonMathQuestion⟩, some asked.negate, some rejectNonMath⟩,
  ⟨⟨.tokenizing, .unrecognizedToken, .nonMathQuestion⟩, some asked.negate, some rejectNonMath⟩,
  ⟨⟨.tokenizing, .unrecognizedToken, .unsupportedOperation⟩, some asked, some rejectUnsupported⟩]

def table : Table LexerState LexerEvent LexerContext Fault := ⟨.tokenizing, rules⟩

/-- The table has no fault. -/
theorem build_rules : Table.build (some LexerState.tokenizing) rules = .ok table := rfl

def begin (recognizers : RecognizerSet) (source : String) : LexerMachine :=
  (Machine.start table ⟨recognizers, Scan.start source.toList⟩).withHistory

/-- What the lexer is to be told where it stands. -/
def nextEvent (context : LexerContext) : LexerEvent :=
  if context.recognizers.matchesStart context.scan.rest then .recognizedToken else .unrecognizedToken

/-- Dispatches events until nothing is left to read or one fails. Every token takes a character, so
there are no more rounds than characters. -/
def readAll : Nat → LexerMachine → Traced (Except Fault LexerMachine)
  | 0, machine => pure (.ok machine)
  | bound + 1, machine =>
    if machine.context.scan.isExhausted then pure (.ok machine)
    else do
      match ← machine.exec .epoch (nextEvent machine.context) with
      | (.error fault, _) => pure (.error fault)
      | (.ok _, moved) => readAll bound moved

def bracketed (names : List String) : String :=
  "[" ++ String.intercalate ", " names ++ "]"

/-- The report of a lexer's run: the states it went through and the events it was told. -/
def runEntry (history : History LexerState) : Entry :=
  ⟨.trace, machineTopic, "Lexer run",
    [("path", bracketed (history.path.map LexerState.label)),
      ("events", bracketed (history.events.map Text.quote))]⟩

def lexedEntry (tokens : List Token) : Entry :=
  ⟨.debug, "mathq::lexer", "Lexed input", [("tokens", toString tokens.length)]⟩

/-- The tokens of an input of any length. -/
def lexUncapped (recognizers : RecognizerSet) (input : String) : Traced (Except Fault (List Token)) := do
  match ← readAll input.length (begin recognizers input) with
  | .error fault => pure (.error fault)
  | .ok machine =>
    match ← machine.exec .epoch .endOfInput with
    | (.error fault, _) => pure (.error fault)
    | (.ok _, final) =>
      let tokens := final.context.scan.tokens
      Traced.report (runEntry (final.history.getD .empty))
      Traced.report (lexedEntry tokens)
      pure (.ok tokens)

/-- The tokens of an input, which is refused unread when it is longer than the limit in bytes. -/
def lex (recognizers : RecognizerSet) (limit : Option Nat) (input : String) : Traced (Except Fault (List Token)) :=
  if limit.any fun most => most < input.utf8ByteSize then
    pure (.error (.inputTooLong input.utf8ByteSize (limit.getD 0)))
  else lexUncapped recognizers input

end Lexer

end WordSums
