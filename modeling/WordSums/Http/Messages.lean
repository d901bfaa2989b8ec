import WordSums.Ledger.Written

/-!
# Messages

The bodies that are exchanged when questions are asked over HTTP, as JSON objects. A reason or a
kind that is missing is left out when written; when read it may be left out or null. Unknown members
are passed over, and in place of an object its values may stand in their order.
-/

namespace WordSums.Http

open WordSums.Json

structure EvaluateResponse where
  result : Int
deriving DecidableEq, Repr

structure ValidateResponse where
  valid : Bool
  reason : Option String
deriving DecidableEq, Repr

structure ErrorResponse where
  message : String
  kind : Option FaultKind
deriving DecidableEq, Repr

structure ListedFailure where
  expression : String
  endpoint : String
  frequency : UInt64
  kind : FaultKind
deriving DecidableEq, Repr

/-- A member that is only there if it has a value. -/
def ifPresent {α : Type} (label : String) (write : α → Document) : Option α → List (String × Document)
  | some value => [(label, write value)]
  | none => []

def requestDocument (expression : String) : Document := .object [("expression", .string expression)]

def requestReader : Reader String :=
  Record.read [.of "expression" id (fun _ value => some value) Reader.string] false none id

namespace EvaluateResponse

def document (response : EvaluateResponse) : Document := .object [("result", .integer response.result)]

def reader : Reader EvaluateResponse :=
  Record.read [.of "result" id (fun _ value => some value) Reader.word] false none (Option.map EvaluateResponse.mk)

end EvaluateResponse

namespace ValidateResponse

def document (response : ValidateResponse) : Document :=
  .object (("valid", .boolean response.valid) :: ifPresent "reason" .string response.reason)

structure Draft where
  valid : Option Bool := none
  reason : Option (Option String) := none

def reader : Reader ValidateResponse := Record.read [
  .of "valid" Draft.valid (fun draft value => { draft with valid := some value }) Reader.boolean,
  .of "reason" Draft.reason (fun draft value => { draft with reason := some value }) (Reader.optional Reader.string)]
  false {} fun draft => draft.valid.map fun valid => ⟨valid, draft.reason.getD none⟩

end ValidateResponse

namespace ErrorResponse

def document (response : ErrorResponse) : Document :=
  .object (("message", .string response.message) :: ifPresent "kind" (fun kind => .string kind.label) response.kind)

structure Draft where
  message : Option String := none
  kind : Option (Option FaultKind) := none

def reader : Reader ErrorResponse := Record.read [
  .of "message" Draft.message (fun draft value => { draft with message := some value }) Reader.string,
  .of "kind" Draft.kind (fun draft value => { draft with kind := some value })
    (Reader.optional (Reader.label FaultKind.ofLabel?))]
  false {} fun draft => draft.message.map fun message => ⟨message, draft.kind.getD none⟩

end ErrorResponse

namespace ListedFailure

def ofRecord (record : FailureRecord) : ListedFailure :=
  ⟨record.expression, record.method.endpoint, record.frequency, record.kind⟩

def document (listed : ListedFailure) : Document := .object [
  ("expression", .string listed.expression),
  ("endpoint", .string listed.endpoint),
  ("frequency", .integer listed.frequency.toNat),
  ("type", .string listed.kind.label)]

structure Draft where
  expression : Option String := none
  endpoint : Option String := none
  frequency : Option UInt64 := none
  kind : Option FaultKind := none

def reader : Reader ListedFailure := Record.read [
  .of "expression" Draft.expression (fun draft value => { draft with expression := some value }) Reader.string,
  .of "endpoint" Draft.endpoint (fun draft value => { draft with endpoint := some value }) Reader.string,
  .of "frequency" Draft.frequency (fun draft value => { draft with frequency := some value }) Reader.unsigned64,
  .of "type" Draft.kind (fun draft value => { draft with kind := some value }) (Reader.label FaultKind.ofLabel?)]
  false {} fun draft => do some ⟨← draft.expression, ← draft.endpoint, ← draft.frequency, ← draft.kind⟩

end ListedFailure

end WordSums.Http
