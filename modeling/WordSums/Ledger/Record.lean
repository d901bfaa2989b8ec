import WordSums.Fault
import WordSums.Time.Timestamp

/-!
# Records of failures

What is kept about a question that failed: through which method it failed first, the kind of that
failure, how often it has failed, and when it was first and last seen to fail.
-/

namespace WordSums

open WordSums.Time

inductive Method where
  | validate
  | evaluate
deriving DecidableEq, Repr

namespace Method

def all : List Method := [validate, evaluate]

def label : Method → String
  | validate => "validate"
  | evaluate => "evaluate"

def ofLabel? (text : String) : Option Method :=
  all.find? fun method => method.label == text

/-- The path under which a method is served. -/
def endpoint : Method → String
  | validate => "/validate"
  | evaluate => "/evaluate"

theorem ofLabel?_label (method : Method) : ofLabel? method.label = some method := by
  cases method <;> rfl

end Method

structure FailureRecord where
  expression : String
  method : Method
  kind : FaultKind
  frequency : UInt64
  firstSeen : Timestamp
  lastSeen : Timestamp
deriving DecidableEq

end WordSums
