import WordSums.Interpreter
import WordSums.Ledger.Basic
import WordSums.Settings

/-!
# The service

The service judges questions for callers and keeps the ledger. A question that fails for a reason of
its own is counted, if recording is on, and the caller is told why; if it cannot be counted, the
caller is told that instead. A fault of the interpreter itself is never counted. The clock is read
at most once a call, when a failure is counted, so every call is given one reading.
-/

namespace WordSums

open WordSums.Time

/-- Why a call has no answer: the question, the interpreter, or the ledger. -/
inductive ServiceFault where
  | expression (fault : Fault)
  | unsupportedInterpreter (fault : Fault)
  | ledger (overflow : CounterOverflow)
deriving DecidableEq, Repr

namespace ServiceFault

def message : ServiceFault → String
  | expression fault => fault.message
  | unsupportedInterpreter fault => "unsupported interpreter error: " ++ fault.message
  | ledger overflow => "error store failed: " ++ overflow.message

/-- The kind of the fault of the question or the interpreter. -/
def kind? : ServiceFault → Option FaultKind
  | expression fault | unsupportedInterpreter fault => some fault.kind
  | ledger _ => none

end ServiceFault

/-- An interpreter, whether failures are recorded, and the ledger. -/
structure Service where
  interpreter : Interpreter
  recording : Bool
  ledger : Ledger

namespace Service

def topic : String := "mathq::service"

def answeredEntry : Entry := ⟨.debug, topic, "Question answered", []⟩

def faultEntry (fault : Fault) : Entry := ⟨.warn, topic, "Interpreter fault", [("error", fault.message)]⟩

def rejectedEntry (kind : FaultKind) (frequency : UInt64) : Entry :=
  ⟨.debug, topic, "Question rejected", [("kind", kind.words), ("frequency", toString frequency)]⟩

def withLedger (service : Service) (ledger : Ledger) : Service := { service with ledger := ledger }

/-- Settles a judgement: an answer is passed on, a failure counted. -/
def settle {α : Type} (service : Service) (method : Method) (question : String) (now : Timestamp) :
    Except Fault α → Traced (Except ServiceFault α × Service)
  | .ok value => ⟨(.ok value, service), [answeredEntry]⟩
  | .error fault =>
    if !fault.kind.isUserFacing then ⟨(.error (.unsupportedInterpreter fault), service), [faultEntry fault]⟩
    else if !service.recording then ⟨(.error (.expression fault), service), []⟩
    else do
      match ← service.ledger.increment question method fault.kind now with
      | (.error overflow, ledger) => pure (.error (.ledger overflow), service.withLedger ledger)
      | (.ok frequency, ledger) => do
        Traced.report (rejectedEntry fault.kind frequency)
        pure (.error (.expression fault), service.withLedger ledger)

/-- Asks whether a question is well formed. -/
def validate (service : Service) (now : Timestamp) (question : String) :
    Traced (Except ServiceFault Unit × Service) := do
  service.settle .validate question now (← service.interpreter.validate question)

/-- Asks for the answer to a question. -/
def evaluate (service : Service) (now : Timestamp) (question : String) :
    Traced (Except ServiceFault Int × Service) := do
  service.settle .evaluate question now (← service.interpreter.evaluate question)

/-- The records of all failures, sorted by the question. -/
def failures (service : Service) : List FailureRecord :=
  service.ledger.records

/-- The service over the standard language, under the given settings. -/
def standard (settings : Settings) (ledger : Ledger) : Service :=
  ⟨(Pipeline.standard settings.greatestLength.toNat).interpreter, settings.recording, ledger⟩

end Service

end WordSums
