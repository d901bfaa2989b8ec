import WordSums.Text.Quoted
import WordSums.Machine.Rule

/-!
# Tokens

A question is read as a sequence of tokens of four kinds. The text of a token is kept as it stood.
Numbers and operands carry the meaning of a statement and are called significant; the question word
and the punctuation only frame it.
-/

namespace WordSums

inductive TokenKind where
  | question
  | number
  | operand
  | punctuation
deriving DecidableEq, Repr

namespace TokenKind

def all : List TokenKind := [question, number, operand, punctuation]

def label : TokenKind → String
  | question => "Question"
  | number => "Number"
  | operand => "Operand"
  | punctuation => "Punctuation"

instance : Named TokenKind := ⟨label⟩

def ofLabel? (text : String) : Option TokenKind :=
  all.find? fun kind => kind.label == text

/-- Whether tokens of a kind carry the meaning of a statement. -/
def isSignificant : TokenKind → Bool
  | number | operand => true
  | question | punctuation => false

def standardPattern : TokenKind → String
  | question => "^What is"
  | number => "^[0-9]+"
  | operand => "^(plus|minus|multiplied by|divided by)"
  | punctuation => "^\\?"

theorem mem_all (kind : TokenKind) : kind ∈ all := by cases kind <;> decide

end TokenKind

structure Token where
  kind : TokenKind
  text : String
deriving DecidableEq, Repr

namespace Token

def isSignificant (token : Token) : Bool :=
  token.kind.isSignificant

def outline (token : Token) : String :=
  token.kind.label ++ Text.quote token.text

end Token

end WordSums
