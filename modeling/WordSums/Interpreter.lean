import WordSums.Statement.Evaluation
import WordSums.Statement.Parser

/-!
# Interpreters

An interpreter judges questions: it says whether one is well formed and what its answer is. The
pipelines of this module read a question with given recognizers under a limit on its length, parse
the tokens and evaluate them; the standard pipeline uses the standard recognizers. Anything else
that answers the two questions is an interpreter too.
-/

namespace WordSums

/-- Two judgements of a question: whether it is well formed, and its answer. -/
structure Interpreter where
  validate : String → Traced (Except Fault Unit)
  evaluate : String → Traced (Except Fault Int)

/-- Recognizers and a limit on the length of a question in bytes. -/
structure Pipeline where
  recognizers : RecognizerSet
  limit : Nat

namespace Pipeline

def standard (limit : Nat) : Pipeline := ⟨.standard, limit⟩

/-- The numbers and operands of a question. -/
def tokens (pipeline : Pipeline) (question : String) : Traced (Except Fault (List Token)) := do
  match ← Lexer.lex pipeline.recognizers (some pipeline.limit) question with
  | .error fault => pure (.error fault)
  | .ok tokens => Parser.parse tokens

def validate (pipeline : Pipeline) (question : String) : Traced (Except Fault Unit) := do
  match ← pipeline.tokens question with
  | .error fault => pure (.error fault)
  | .ok _ => pure (.ok ())

def evaluate (pipeline : Pipeline) (question : String) : Traced (Except Fault Int) := do
  match ← pipeline.tokens question with
  | .error fault => pure (.error fault)
  | .ok tokens => Evaluation.evaluate tokens

def interpreter (pipeline : Pipeline) : Interpreter := ⟨pipeline.validate, pipeline.evaluate⟩

end Pipeline

end WordSums
