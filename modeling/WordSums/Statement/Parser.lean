import WordSums.Token.Lexer

/-!
# Reading tokens as a statement

A statement is a question word, then numbers with operands between them, then a closing mark. The
parser is a machine that is told the kind of each token in turn. It keeps the numbers and the
operands and drops the rest; the first token that does not fit ends the run, with a fault that says
what was expected instead and where. Tokens that run out before the closing mark are a fault of
their own.
-/

namespace WordSums

open WordSums.Time

inductive ParserState where
  | initial
  | afterQuestion
  | afterNumber
  | afterOperand
  | final
  | syntaxError
deriving DecidableEq, Repr

namespace ParserState

def all : List ParserState := [initial, afterQuestion, afterNumber, afterOperand, final, syntaxError]

def label : ParserState → String
  | initial => "Initial"
  | afterQuestion => "AfterQuestion"
  | afterNumber => "AfterNumber"
  | afterOperand => "AfterOperand"
  | final => "Final"
  | syntaxError => "SyntaxError"

instance : MachineState ParserState where
  nameOf := label
  isFinal state := state = final ∨ state = syntaxError
  isError state := state = syntaxError

/-- What is wrong with a token that arrives in a state. -/
def fault : ParserState → SyntaxFault
  | initial => .missingQuestion
  | afterQuestion | afterOperand => .expectedNumber
  | afterNumber => .expectedOperationOrEnd
  | final => .trailingTokens
  | syntaxError => .unexpectedEnd

end ParserState

/-- Tokens still to come, those kept, and how many have been read. -/
structure ParserContext where
  upcoming : List Token
  kept : List Token
  position : Nat
deriving DecidableEq, Repr

namespace ParserContext

def start (tokens : List Token) : ParserContext := ⟨tokens, [], 0⟩

def peek? (context : ParserContext) : Option TokenKind :=
  context.upcoming.head?.map Token.kind

def isExhausted (context : ParserContext) : Bool :=
  context.upcoming.isEmpty

/-- Reads the next token and keeps it; at the end nothing happens. -/
def keep (context : ParserContext) : ParserContext :=
  match context.upcoming with
  | [] => context
  | token :: rest => ⟨rest, context.kept ++ [token], context.position + 1⟩

/-- Reads the next token and drops it; at the end nothing happens. -/
def skip (context : ParserContext) : ParserContext :=
  match context.upcoming with
  | [] => context
  | _ :: rest => ⟨rest, context.kept, context.position + 1⟩

end ParserContext

/-- A machine that parses; what it is told are the kinds of the tokens. -/
abbrev ParserMachine : Type := Machine ParserState TokenKind ParserContext Fault

namespace Parser

def keeping (source : ParserState) (event : TokenKind) (target : ParserState) :
    Rule ParserState TokenKind ParserContext Fault :=
  ⟨⟨source, event, target⟩, none, some fun _ context => (.ok (), context.keep)⟩

def dropping (source : ParserState) (event : TokenKind) (target : ParserState) :
    Rule ParserState TokenKind ParserContext Fault :=
  ⟨⟨source, event, target⟩, none, some fun _ context => (.ok (), context.skip)⟩

def rejecting (source : ParserState) (event : TokenKind) : Rule ParserState TokenKind ParserContext Fault :=
  ⟨⟨source, event, .syntaxError⟩, none,
    some fun move context => (.error (.invalidSyntax move.source.fault context.position), context)⟩

/-- The rules of the parser: first those for tokens that fit, then those for all others. -/
def rules : List (Rule ParserState TokenKind ParserContext Fault) :=
  [dropping .initial .question .afterQuestion,
    keeping .afterQuestion .number .afterNumber,
    keeping .afterNumber .operand .afterOperand,
    dropping .afterNumber .punctuation .final,
    keeping .afterOperand .number .afterNumber] ++
  [.number, .operand, .punctuation].map (rejecting .initial) ++
  [.question, .operand, .punctuation].map (rejecting .afterQuestion) ++
  [.question, .number].map (rejecting .afterNumber) ++
  [.question, .operand, .punctuation].map (rejecting .afterOperand) ++
  [.question, .number, .operand, .punctuation].map (rejecting .final)

def table : Table ParserState TokenKind ParserContext Fault := ⟨.initial, rules⟩

/-- The table has no fault. -/
theorem build_rules : Table.build (some ParserState.initial) rules = .ok table := rfl

def begin (tokens : List Token) : ParserMachine :=
  (Machine.start table (.start tokens)).withHistory

/-- Dispatches the kind of every token until none is left or one fails. Every dispatch that succeeds
reads a token. -/
def readAll : Nat → ParserMachine → Traced (Except Fault ParserMachine)
  | 0, machine => pure (.ok machine)
  | bound + 1, machine =>
    match machine.context.peek? with
    | none => pure (.ok machine)
    | some kind => do
      match ← machine.exec .epoch kind with
      | (.error fault, _) => pure (.error fault)
      | (.ok _, moved) => readAll bound moved

/-- The report of a parser's run: the states it went through. -/
def runEntry (history : History ParserState) : Entry :=
  ⟨.trace, machineTopic, "Parser run", [("path", Lexer.bracketed (history.path.map ParserState.label))]⟩

def endedEarlyEntry (state : ParserState) (position : Nat) : Entry :=
  ⟨.debug, "mathq::parser", "Token sequence ended early",
    [("state", state.label), ("position", toString position)]⟩

/-- The numbers and operands of a statement. -/
def parse (tokens : List Token) : Traced (Except Fault (List Token)) := do
  match ← readAll tokens.length (begin tokens) with
  | .error fault => pure (.error fault)
  | .ok machine =>
    Traced.report (runEntry (machine.history.getD .empty))
    if machine.state = .final then pure (.ok machine.context.kept)
    else do
      Traced.report (endedEarlyEntry machine.state machine.context.position)
      pure (.error (.invalidSyntax .unexpectedEnd machine.context.position))

end Parser

end WordSums
