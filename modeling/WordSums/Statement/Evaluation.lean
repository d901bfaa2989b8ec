import WordSums.Fault
import WordSums.Journal

/-!
# The value of a statement

The numbers and operands of a statement are worked out strictly from left to right, without
precedence. The first thing that is wrong on the way decides the fault: a number or an operand that
is missing or is something else, a numeral that does not fit, or an operation without a result.
-/

namespace WordSums

open WordSums.Text

namespace Evaluation

/-- The number that the next token stands for, at its position in the sequence. -/
def number (position : Nat) : List Token → Except Fault Int
  | [] => .error (.invalidSyntax .unexpectedEnd position)
  | token :: _ =>
    if token.kind = .number then
      match readWord? token.text.toList with
      | some value => .ok value
      | none => .error (.arithmetic (.numberOutOfRange token.text))
    else .error (.invalidSyntax .expectedNumber position)

/-- The operation that a token asks for, at its position in the sequence. -/
def operation (position : Nat) (token : Token) : Except Fault Operation :=
  match token.kind, Operation.ofPhrase? token.text with
  | .operand, some operation => .ok operation
  | _, _ => .error (.invalidSyntax .expectedOperationOrEnd position)

/-- Works out the operations that follow a value; the position is that of the next token. -/
def continueFrom (value : Int) (position : Nat) : List Token → Except Fault Int
  | [] => .ok value
  | token :: rest => do
    let operation ← operation position token
    let operand ← number (position + 1) rest
    match operation.apply value operand with
    | .error fault => .error (.arithmetic fault)
    | .ok result =>
      match rest with
      | [] => .ok result
      | _ :: rest => continueFrom result (position + 2) rest

def valueOf (tokens : List Token) : Except Fault Int := do
  continueFrom (← number 0 tokens) 1 tokens.tail

def evaluatedEntry (tokens : List Token) (result : Int) : Entry :=
  ⟨.trace, "mathq::eval", "Evaluated", [("tokens", toString tokens.length), ("result", toString result)]⟩

/-- The value of a sequence of numbers and operands, reported when there is one. -/
def evaluate (tokens : List Token) : Traced (Except Fault Int) :=
  match valueOf tokens with
  | .error fault => pure (.error fault)
  | .ok result => do
    Traced.report (evaluatedEntry tokens result)
    pure (.ok result)

end Evaluation

end WordSums
