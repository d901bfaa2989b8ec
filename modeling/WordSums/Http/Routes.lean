import WordSums.Http.Body
import WordSums.Http.MediaType
import WordSums.Http.Messages
import WordSums.Service

/-!
# Questions over HTTP

Three paths are served. The two for questions take a POST whose body is a JSON request; the one for
the list of failures takes a GET or a POST and ignores the body. A request that does not fit is
refused before the service hears of it: by its path, then its method, then the format of its body,
then the size of the body, then the body itself. A question that has no answer is refused when an
answer was asked for, while a verdict on it is an answer like any other; what is not the question's
fault is the server's.
-/

namespace WordSums.Http

open WordSums.Json WordSums.Time

/-- A request: its method, its path with whatever query follows, the format of its body if it names
one, and the bytes of the body. -/
structure Request where
  method : String
  path : String
  contentType : Option String
  body : List UInt8
deriving DecidableEq, Repr

/-- A response: its status and the text of its body if that is JSON. -/
structure Response where
  status : Nat
  body : Option String
deriving DecidableEq, Repr

def Response.json (status : Nat) (document : Document) : Response := ⟨status, some document.compact⟩

def Response.refusal (status : Nat) : Response := ⟨status, none⟩

inductive Route where
  | judge (method : Method)
  | failures
deriving DecidableEq, Repr

/-- The route of a path; what follows a question mark or a number sign is no part of the path. -/
def Route.ofPath? (path : String) : Option Route :=
  match String.ofList (path.toList.takeWhile fun char => char != '?' && char != '#') with
  | "/evaluate" => some (.judge .evaluate)
  | "/validate" => some (.judge .validate)
  | "/errors" => some .failures
  | _ => none

def greatestBody : Nat := 2097152

/-- The question in the body of a request, or the status with which the request is refused. -/
def questionOf (request : Request) : Except Nat String :=
  if !request.contentType.any MediaType.isJson then .error 415
  else if greatestBody < request.body.length then .error 413
  else match readFirst requestReader (textOf request.body) with
    | .ok question => .ok question
    | .error .mismatched => .error 422
    | .error _ => .error 400

/-- The response to a call that has no answer. -/
def faultResponse (fault : ServiceFault) : Response :=
  let status := match fault with
    | .expression _ => 400
    | .unsupportedInterpreter _ | .ledger _ => 500
  .json status (ErrorResponse.document ⟨fault.message, fault.kind?⟩)

def evaluateResponse : Except ServiceFault Int → Response
  | .ok result => .json 200 (EvaluateResponse.document ⟨result⟩)
  | .error fault => faultResponse fault

def validateResponse : Except ServiceFault Unit → Response
  | .ok () => .json 200 (ValidateResponse.document ⟨true, none⟩)
  | .error (.expression fault) => .json 200 (ValidateResponse.document ⟨false, some fault.message⟩)
  | .error fault => faultResponse fault

def failuresResponse (service : Service) : Response :=
  .json 200 (.array (service.failures.map fun record => (ListedFailure.ofRecord record).document))

def judge (service : Service) (now : Timestamp) (method : Method) (question : String) : Response × Service :=
  match method with
  | .evaluate =>
    let (result, after) := (service.evaluate now question).value
    (evaluateResponse result, after)
  | .validate =>
    let (result, after) := (service.validate now question).value
    (validateResponse result, after)

def handle (service : Service) (now : Timestamp) (request : Request) : Response × Service :=
  match Route.ofPath? request.path with
  | none => (.refusal 404, service)
  | some (.judge method) =>
    if request.method ≠ "POST" then (.refusal 405, service)
    else match questionOf request with
      | .error status => (.refusal status, service)
      | .ok question => judge service now method question
  | some .failures =>
    if request.method = "HEAD" then (⟨200, some ""⟩, service)
    else if request.method = "GET" ∨ request.method = "POST" then (failuresResponse service, service)
    else (.refusal 405, service)

/-- Handles requests one after the other, each at its own reading of the clock. -/
def handleAll (service : Service) : List (Timestamp × Request) → List Response × Service
  | [] => ([], service)
  | (now, request) :: rest =>
    let (response, after) := handle service now request
    let (responses, final) := handleAll after rest
    (response :: responses, final)

/-- The address under which a client reaches a server: without slashes at its end. -/
def baseAddress (address : String) : String :=
  String.ofList (address.toList.reverse.dropWhile (· == '/')).reverse

end WordSums.Http
