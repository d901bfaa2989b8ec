import WordSums.Arithmetic
import WordSums.Machine.Table
import WordSums.Token.Recognizer

/-!
# Faults

Why a question has no answer, by cause. Each cause has a kind, which is what is counted and shown to
a caller, and a message. Faults of the program's own tables and recognizers are internal: they say
nothing about the question.
-/

namespace WordSums

/-- How a sequence of tokens departs from the form of a statement. -/
inductive SyntaxFault where
  | missingQuestion
  | expectedNumber
  | expectedOperationOrEnd
  | trailingTokens
  | unexpectedEnd
deriving DecidableEq, Repr

namespace SyntaxFault

def all : List SyntaxFault := [missingQuestion, expectedNumber, expectedOperationOrEnd, trailingTokens, unexpectedEnd]

def label : SyntaxFault → String
  | missingQuestion => "MissingQuestion"
  | expectedNumber => "ExpectedNumber"
  | expectedOperationOrEnd => "ExpectedOperationOrEnd"
  | trailingTokens => "TrailingTokens"
  | unexpectedEnd => "UnexpectedEnd"

def message : SyntaxFault → String
  | missingQuestion => "statement must begin with a question"
  | expectedNumber => "expected a number"
  | expectedOperationOrEnd => "expected an operation or a question mark"
  | trailingTokens => "nothing may follow the question mark"
  | unexpectedEnd => "statement ended before the question mark"

end SyntaxFault

/-- The kinds of failure that are told apart. -/
inductive FaultKind where
  | nonMathQuestion
  | unsupportedOperation
  | invalidSyntax
  | arithmetic
  | inputTooLong
  | internal
deriving DecidableEq, Repr

namespace FaultKind

def all : List FaultKind := [nonMathQuestion, unsupportedOperation, invalidSyntax, arithmetic, inputTooLong, internal]

def words : FaultKind → String
  | nonMathQuestion => "non-math question"
  | unsupportedOperation => "unsupported operation"
  | invalidSyntax => "invalid syntax"
  | arithmetic => "arithmetic error"
  | inputTooLong => "input too long"
  | internal => "internal error"

def label : FaultKind → String
  | nonMathQuestion => "non_math_question"
  | unsupportedOperation => "unsupported_operation"
  | invalidSyntax => "invalid_syntax"
  | arithmetic => "arithmetic"
  | inputTooLong => "input_too_long"
  | internal => "internal"

def ofLabel? (text : String) : Option FaultKind :=
  all.find? fun kind => kind.label == text

/-- All kinds but the internal one are about the question. -/
def isUserFacing (kind : FaultKind) : Bool :=
  kind ≠ internal

theorem ofLabel?_label (kind : FaultKind) : ofLabel? kind.label = some kind := by
  cases kind <;> rfl

end FaultKind

inductive Fault where
  | nonMathQuestion (input : String)
  | unsupportedOperation (fragment : String) (offset : Nat)
  | invalidSyntax (fault : SyntaxFault) (position : Nat)
  | arithmetic (fault : ArithmeticFault)
  | inputTooLong (length limit : Nat)
  | transition (missing : NoTransition)
  | recognizer (fault : RecognizerFault)
  | table (fault : BuildFault)
deriving DecidableEq, Repr

namespace Fault

def kind : Fault → FaultKind
  | nonMathQuestion _ => .nonMathQuestion
  | unsupportedOperation _ _ => .unsupportedOperation
  | invalidSyntax _ _ => .invalidSyntax
  | arithmetic _ => .arithmetic
  | inputTooLong _ _ => .inputTooLong
  | transition _ | recognizer _ | table _ => .internal

def message : Fault → String
  | nonMathQuestion _ => "non-math question"
  | unsupportedOperation fragment offset => "unsupported operation " ++ Text.quote fragment ++ s!" at offset {offset}"
  | invalidSyntax fault position => s!"invalid syntax at token {position}: {fault.message}"
  | arithmetic fault => fault.message
  | inputTooLong length limit => s!"input of {length} bytes exceeds the {limit} byte limit"
  | transition missing => missing.message
  | recognizer fault => fault.message
  | table fault => fault.message

instance : OfNoTransition Fault := ⟨transition⟩

end Fault

end WordSums
