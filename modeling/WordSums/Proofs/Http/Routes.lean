import Mathlib.Data.List.Forall2
import WordSums.Http.Routes
import WordSums.Proofs.Http.Messages
import WordSums.Proofs.Service.Accounting
import WordSums.Proofs.Text.Bytes

/-!
# Requests as calls

A request either asks for a judgement on a question, and then it is a call of the service, or it leaves the
service as it is. So requests handled one after the other come to the calls among them, made in the same order.
The response to a call is written from its outcome alone, with a status for each class of outcomes, and the body
can be read back; so whoever reads the response knows the outcome.
-/

namespace WordSums.Http

open WordSums.Json WordSums.Text WordSums.Time

/-! ### What a request asks for -/

namespace Request

/-- The path of a request without what follows a question mark or a number sign. -/
def place (request : Request) : String :=
  String.ofList (request.path.toList.takeWhile fun char => char != '?' && char != '#')

structure Asks (request : Request) (asked : Method) (question : String) : Prop where
  method : request.method = "POST"
  place : request.place = asked.endpoint
  format : request.contentType.any MediaType.isJson = true
  size : request.body.length ≤ greatestBody
  body : readFirst requestReader (textOf request.body) = .ok question

structure Lists (request : Request) : Prop where
  method : request.method = "GET" ∨ request.method = "POST"
  place : request.place = "/errors"

def call? (request : Request) (now : Timestamp) : Option Call :=
  match Route.ofPath? request.path with
  | some (.judge method) =>
    if request.method = "POST" then (questionOf request).toOption.map fun question => ⟨method, question, now⟩
    else none
  | _ => none

def calls (requests : List (Timestamp × Request)) : List Call :=
  requests.filterMap fun entry => entry.2.call? entry.1

end Request

variable {request : Request} {service : Service} {now : Timestamp} {method : Method} {question : String}

theorem ofPath?_eq_judge_iff : Route.ofPath? request.path = some (.judge method) ↔ request.place = method.endpoint := by
  change Route.ofPath? request.path = _ ↔ String.ofList _ = _
  unfold Route.ofPath?
  split <;> cases method <;> simp_all [Method.endpoint]

theorem ofPath?_eq_failures_iff : Route.ofPath? request.path = some .failures ↔ request.place = "/errors" := by
  change Route.ofPath? request.path = _ ↔ String.ofList _ = _
  unfold Route.ofPath?
  split <;> simp_all

theorem questionOf_eq_ok_iff :
    questionOf request = .ok question ↔
      request.contentType.any MediaType.isJson = true ∧ request.body.length ≤ greatestBody ∧
        readFirst requestReader (textOf request.body) = .ok question := by
  unfold questionOf
  by_cases hformat : request.contentType.any MediaType.isJson = true
  · by_cases hsize : greatestBody < request.body.length
    · rw [hformat, Bool.not_true, if_neg Bool.false_ne_true, if_pos hsize]
      have hexceeds := Nat.not_le.2 hsize
      simp [hexceeds]
    · rw [hformat, Bool.not_true, if_neg Bool.false_ne_true, if_neg hsize]
      have hfits := Nat.not_lt.1 hsize
      cases hread : readFirst requestReader (textOf request.body) with
      | ok found => simp [hfits]
      | error flaw => cases flaw <;> simp
  · simp [hformat]

-- a question that holds a stray byte
example : questionOf ⟨"POST", "/evaluate", some "application/json", [0x5b, 0x22, 0xff, 0x22, 0x5d]⟩ = .error 400 := by
  decide +kernel

theorem asks_iff :
    request.Asks method question ↔
      request.method = "POST" ∧ Route.ofPath? request.path = some (.judge method) ∧ questionOf request = .ok question := by
  rw [ofPath?_eq_judge_iff, questionOf_eq_ok_iff]
  constructor
  · intro hasks
    exact ⟨hasks.method, hasks.place, hasks.format, hasks.size, hasks.body⟩
  · intro hall
    obtain ⟨hmethod, hplace, hformat, hsize, hbody⟩ := hall
    exact ⟨hmethod, hplace, hformat, hsize, hbody⟩

theorem isJson_applicationJson : MediaType.isJson "application/json" = true := by decide

theorem takeWhile_endpoint (method : Method) :
    method.endpoint.toList.takeWhile (fun char => char != '?' && char != '#') = method.endpoint.toList := by
  cases method <;> decide

theorem textOf_toUTF8 (text : String) : textOf text.toUTF8.toList = text := by
  rw [textOf, fromUTF8?_toUTF8]

/-- Every question that fits in a body can be asked, in the body that a client writes. -/
theorem asks_requestDocument (method : Method) (question : String)
    (hsize : (requestDocument question).compact.utf8ByteSize ≤ greatestBody) :
    Request.Asks ⟨"POST", method.endpoint, some "application/json", (requestDocument question).compact.toUTF8.toList⟩
      method question where
  method := rfl
  place := (congrArg String.ofList (takeWhile_endpoint method)).trans String.ofList_toList
  format := isJson_applicationJson
  size := by rwa [length_toUTF8]
  body := by
    rw [textOf_toUTF8]
    exact (recovers_request question).readFirst_compact

theorem call?_eq_some_iff {call : Call} :
    request.call? now = some call ↔ request.Asks call.method call.question ∧ call.time = now := by
  obtain ⟨method, question, time⟩ := call
  rw [asks_iff, Request.call?]
  constructor
  · intro hcall
    split at hcall
    · next hpath =>
      split at hcall
      · next hpost =>
        obtain ⟨found, hfound, hsame⟩ := Option.map_eq_some_iff.1 hcall
        obtain ⟨rfl, rfl, rfl⟩ := Call.mk.inj hsame
        cases hquestion : questionOf request with
        | ok value =>
          rw [hquestion] at hfound
          obtain rfl := Option.some.inj hfound
          exact ⟨⟨hpost, hpath, rfl⟩, rfl⟩
        | error status =>
          rw [hquestion] at hfound
          cases hfound
      · cases hcall
    · cases hcall
  · intro hasks
    obtain ⟨⟨hpost, hpath, hquestion⟩, rfl⟩ := hasks
    rw [hpath]
    dsimp only
    rw [if_pos hpost, hquestion]
    rfl

/-! ### One request -/

theorem handle_of_asks (hasks : request.Asks method question) :
    handle service now request = judge service now method question := by
  obtain ⟨hpost, hpath, hquestion⟩ := asks_iff.1 hasks
  unfold handle
  rw [hpath]
  dsimp only
  rw [if_neg (not_not_intro hpost), hquestion]

theorem handle_of_lists (hlists : request.Lists) :
    handle service now request = (failuresResponse service, service) := by
  have hpath := ofPath?_eq_failures_iff.2 hlists.place
  have hhead : ¬ request.method = "HEAD" := by
    cases hlists.method with
    | inl hget => rw [hget]; decide
    | inr hpost => rw [hpost]; decide
  unfold handle
  rw [hpath]
  dsimp only
  rw [if_neg hhead, if_pos hlists.method]

/-- A request that asks no question leaves the service as it is, whatever else it asks. -/
theorem handle_of_not_asks (hnone : ∀ method question, ¬ request.Asks method question) :
    (handle service now request).2 = service := by
  unfold handle
  split
  · rfl
  · next method hpath =>
    split
    · rfl
    · next hpost =>
      split
      · rfl
      · next question hquestion =>
        exact absurd (asks_iff.2 ⟨not_not.1 hpost, hpath, hquestion⟩) (hnone method question)
  · split
    · rfl
    · split <;> rfl

theorem handle_eq_serveAll (service : Service) (now : Timestamp) (request : Request) :
    (handle service now request).2 = service.serveAll (request.call? now).toList := by
  cases hcall : request.call? now with
  | none =>
    refine handle_of_not_asks fun method question hasks => ?_
    have hsome : request.call? now = some ⟨method, question, now⟩ := call?_eq_some_iff.2 ⟨hasks, rfl⟩
    rw [hcall] at hsome
    cases hsome
  | some call =>
    obtain ⟨method, question, time⟩ := call
    obtain ⟨hasks, rfl⟩ := call?_eq_some_iff.1 hcall
    rw [handle_of_asks hasks]
    cases method <;> rfl

/-! ### What a response tells -/

/-- The response has a status and a body that is read as a value. -/
def Response.Holds {α : Type} (response : Response) (status : Nat) (reader : Reader α) (value : α) : Prop :=
  response.status = status ∧ ∃ body, response.body = some body ∧ readWhole reader body = .ok value

/-- A response with what a document says holds that and nothing else. -/
theorem holds_written_iff {α : Type} {reader : Reader α} {document : Document} {value found : α} {status : Nat}
    (hrecovers : Recovers reader document value) :
    (Response.json status document).Holds status reader found ↔ found = value := by
  constructor
  · intro hholds
    obtain ⟨_, body, hbody, hread⟩ := hholds
    obtain rfl := Option.some.inj hbody
    rw [hrecovers.readWhole_compact] at hread
    exact (Except.ok.inj hread).symm
  · intro hfound
    obtain rfl := hfound
    exact ⟨rfl, _, rfl, hrecovers.readWhole_compact⟩

theorem not_holds_of_status {α : Type} {response : Response} {status : Nat} {reader : Reader α} {value : α}
    (hstatus : response.status ≠ status) : ¬ response.Holds status reader value :=
  fun hholds => hstatus hholds.1

/-- A fault that is not the question's is told as a failure of the server, and no other outcome is. -/
def TellsFailure {α : Type} (outcome : Except ServiceFault α) (response : Response) : Prop :=
  ∀ error, response.Holds 500 ErrorResponse.reader error ↔
    ∃ fault, outcome = .error fault ∧ (∀ cause, fault ≠ .expression cause) ∧ error = ⟨fault.message, fault.kind?⟩

def evaluateStatus : Except ServiceFault Int → Nat
  | .ok _ => 200
  | .error (.expression _) => 400
  | .error _ => 500

/-- What the response to a question for its answer tells of the outcome of the call. -/
structure TellsAnswer (outcome : Except ServiceFault Int) (response : Response) : Prop where
  status : response.status = evaluateStatus outcome
  answered : ∀ value, response = .json 200 (EvaluateResponse.document ⟨value⟩) ↔ outcome = .ok value
  read : ∀ value, fitsWord value → outcome = .ok value → response.Holds 200 EvaluateResponse.reader ⟨value⟩
  rejected : ∀ error, response.Holds 400 ErrorResponse.reader error ↔
    ∃ fault, outcome = .error (.expression fault) ∧ error = ⟨fault.message, some fault.kind⟩
  failed : TellsFailure outcome response

def validateStatus : Except ServiceFault Unit → Nat
  | .ok _ | .error (.expression _) => 200
  | .error _ => 500

/-- What the response to a question for its verdict tells of the outcome of the call. -/
structure TellsVerdict (outcome : Except ServiceFault Unit) (response : Response) : Prop where
  status : response.status = validateStatus outcome
  wellFormed : ∀ reason, response.Holds 200 ValidateResponse.reader ⟨true, reason⟩ ↔ outcome = .ok () ∧ reason = none
  malformed : ∀ reason, response.Holds 200 ValidateResponse.reader ⟨false, reason⟩ ↔
    ∃ fault, outcome = .error (.expression fault) ∧ reason = some fault.message
  failed : TellsFailure outcome response

theorem faultResponse_of_other {fault : ServiceFault} (hother : ∀ cause, fault ≠ .expression cause) :
    faultResponse fault = .json 500 (ErrorResponse.document ⟨fault.message, fault.kind?⟩) := by
  cases fault with
  | expression cause => exact absurd rfl (hother cause)
  | unsupportedInterpreter cause => rfl
  | ledger overflow => rfl

theorem tellsFailure_of_ne {α : Type} {outcome : Except ServiceFault α} {response : Response}
    (hstatus : response.status ≠ 500) (houtcome : ∀ fault, outcome = .error fault → ∃ cause, fault = .expression cause) :
    TellsFailure outcome response := by
  intro error
  refine ⟨fun hholds => absurd hholds (not_holds_of_status hstatus), fun hfault => ?_⟩
  obtain ⟨fault, hfails, hother, _⟩ := hfault
  obtain ⟨cause, hcause⟩ := houtcome fault hfails
  exact absurd hcause (hother cause)

theorem tellsFailure_fault {α : Type} {fault : ServiceFault} (hother : ∀ cause, fault ≠ .expression cause) :
    TellsFailure (.error fault : Except ServiceFault α) (faultResponse fault) := by
  intro error
  rw [faultResponse_of_other hother, holds_written_iff (ErrorResponse.recovers _)]
  constructor
  · intro herror
    exact ⟨fault, rfl, hother, herror⟩
  · intro hfault
    obtain ⟨found, hfound, _, herror⟩ := hfault
    obtain rfl := Except.error.inj hfound
    exact herror

theorem status_faultResponse {fault : ServiceFault} (hother : ∀ cause, fault ≠ .expression cause) :
    (faultResponse fault).status = 500 :=
  congrArg Response.status (faultResponse_of_other hother)

theorem holds_rejection_iff {cause : Fault} {error : ErrorResponse} :
    (faultResponse (.expression cause)).Holds 400 ErrorResponse.reader error ↔ error = ⟨cause.message, some cause.kind⟩ :=
  holds_written_iff (ErrorResponse.recovers _)

theorem json_ne_of_status {response : Response} {status : Nat} {document : Document} (hstatus : response.status ≠ status) :
    response ≠ .json status document :=
  fun hsame => hstatus (congrArg Response.status hsame)

theorem tellsAnswer_ok (value : Int) : TellsAnswer (.ok value) (evaluateResponse (.ok value)) where
  status := rfl
  answered := by
    intro found
    constructor
    · intro hsame
      have htexts := Option.some.inj (congrArg Response.body hsame)
      obtain rfl := EvaluateResponse.mk.inj (EvaluateResponse.compact_injective htexts)
      rfl
    · intro hfound
      obtain rfl := Except.ok.inj hfound
      rfl
  read := by
    intro found hfits hfound
    obtain rfl := Except.ok.inj hfound
    exact (holds_written_iff (EvaluateResponse.recovers hfits)).2 rfl
  rejected := by
    intro error
    have hstatus : (200 : Nat) ≠ 400 := by decide
    refine ⟨fun hholds => absurd hholds (not_holds_of_status hstatus), fun hfault => ?_⟩
    obtain ⟨_, hfails, _⟩ := hfault
    cases hfails
  failed := by
    have hstatus : (200 : Nat) ≠ 500 := by decide
    exact tellsFailure_of_ne hstatus fun _ hfails => by cases hfails

theorem tellsAnswer_rejected (cause : Fault) :
    TellsAnswer (.error (.expression cause)) (evaluateResponse (.error (.expression cause))) where
  status := rfl
  answered value := by
    have hstatus : (400 : Nat) ≠ 200 := by decide
    exact ⟨fun hsame => absurd hsame (json_ne_of_status hstatus), fun hanswers => by cases hanswers⟩
  read := by
    intro _ _ hanswers
    cases hanswers
  rejected := by
    intro error
    refine holds_rejection_iff.trans ⟨fun herror => ⟨cause, rfl, herror⟩, fun hfault => ?_⟩
    obtain ⟨found, hfound, herror⟩ := hfault
    obtain rfl := ServiceFault.expression.inj (Except.error.inj hfound)
    exact herror
  failed := by
    have hstatus : (400 : Nat) ≠ 500 := by decide
    exact tellsFailure_of_ne hstatus fun _ hfails => ⟨cause, (Except.error.inj hfails).symm⟩

theorem tellsAnswer_failed {fault : ServiceFault} (hother : ∀ cause, fault ≠ .expression cause) :
    TellsAnswer (.error fault) (evaluateResponse (.error fault)) where
  status := by
    cases fault with
    | expression cause => exact absurd rfl (hother cause)
    | unsupportedInterpreter cause => rfl
    | ledger overflow => rfl
  answered value := by
    have hstatus := status_faultResponse hother
    exact ⟨fun hsame => absurd hsame (json_ne_of_status (hstatus ▸ by decide)), fun hanswers => by cases hanswers⟩
  read := by
    intro _ _ hanswers
    cases hanswers
  rejected := by
    intro error
    have hstatus := status_faultResponse hother
    refine ⟨fun hholds => absurd hholds (not_holds_of_status (hstatus ▸ by decide)), fun hfault => ?_⟩
    obtain ⟨cause, hfails, _⟩ := hfault
    exact absurd (Except.error.inj hfails) (hother cause)
  failed := tellsFailure_fault hother

theorem tellsAnswer (outcome : Except ServiceFault Int) : TellsAnswer outcome (evaluateResponse outcome) := by
  cases outcome with
  | ok value => exact tellsAnswer_ok value
  | error fault =>
    by_cases hquestion : ∃ cause, fault = .expression cause
    · obtain ⟨cause, rfl⟩ := hquestion
      exact tellsAnswer_rejected cause
    · exact tellsAnswer_failed (not_exists.1 hquestion)

theorem validateResponse_failed {fault : ServiceFault} (hother : ∀ cause, fault ≠ .expression cause) :
    validateResponse (.error fault) = faultResponse fault := by
  cases fault with
  | expression cause => exact absurd rfl (hother cause)
  | unsupportedInterpreter cause => rfl
  | ledger overflow => rfl

theorem tellsVerdict_ok : TellsVerdict (.ok ()) (validateResponse (.ok ())) where
  status := rfl
  wellFormed reason := (holds_written_iff (ValidateResponse.recovers _)).trans (by simp)
  malformed reason := (holds_written_iff (ValidateResponse.recovers _)).trans (by simp)
  failed := by
    have hstatus : (200 : Nat) ≠ 500 := by decide
    exact tellsFailure_of_ne hstatus fun _ hfails => by cases hfails

theorem tellsVerdict_malformed (cause : Fault) :
    TellsVerdict (.error (.expression cause)) (validateResponse (.error (.expression cause))) where
  status := rfl
  wellFormed reason := (holds_written_iff (ValidateResponse.recovers _)).trans (by simp)
  malformed reason := (holds_written_iff (ValidateResponse.recovers _)).trans (by simp)
  failed := by
    have hstatus : (200 : Nat) ≠ 500 := by decide
    exact tellsFailure_of_ne hstatus fun _ hfails => ⟨cause, (Except.error.inj hfails).symm⟩

theorem tellsVerdict_failed {fault : ServiceFault} (hother : ∀ cause, fault ≠ .expression cause) :
    TellsVerdict (.error fault) (validateResponse (.error fault)) := by
  have hresponse := validateResponse_failed hother
  have hstatus : (validateResponse (.error fault)).status = 500 := hresponse ▸ status_faultResponse hother
  have hunread (verdict : ValidateResponse) :
      ¬ (validateResponse (.error fault)).Holds 200 ValidateResponse.reader verdict :=
    not_holds_of_status (hstatus ▸ by decide)
  refine ⟨?_, fun reason => ?_, fun reason => ?_, ?_⟩
  · cases fault with
    | expression cause => exact absurd rfl (hother cause)
    | unsupportedInterpreter cause => rfl
    | ledger overflow => rfl
  · refine ⟨fun hholds => absurd hholds (hunread _), fun hwell => ?_⟩
    cases hwell.1
  · refine ⟨fun hholds => absurd hholds (hunread _), fun hfault => ?_⟩
    obtain ⟨cause, hfails, _⟩ := hfault
    exact absurd (Except.error.inj hfails) (hother cause)
  · rw [hresponse]
    exact tellsFailure_fault hother

theorem tellsVerdict (outcome : Except ServiceFault Unit) : TellsVerdict outcome (validateResponse outcome) := by
  cases outcome with
  | ok _ => exact tellsVerdict_ok
  | error fault =>
    by_cases hquestion : ∃ cause, fault = .expression cause
    · obtain ⟨cause, rfl⟩ := hquestion
      exact tellsVerdict_malformed cause
    · exact tellsVerdict_failed (not_exists.1 hquestion)

/-! ### The list of failures -/

structure ListedFailure.Shows (line : ListedFailure) (record : FailureRecord) : Prop where
  expression : line.expression = record.expression
  endpoint : line.endpoint = record.method.endpoint
  frequency : line.frequency = record.frequency
  kind : line.kind = record.kind

/-- The response lists records, one line for each and in their order. -/
def Response.Lists (response : Response) (records : List FailureRecord) : Prop :=
  ∃ lines, response.Holds 200 (Reader.list ListedFailure.reader) lines ∧ List.Forall₂ ListedFailure.Shows lines records

theorem lists_failuresResponse (service : Service) : (failuresResponse service).Lists service.failures := by
  have hrecovers := ListedFailure.recovers_listing (service.failures.map ListedFailure.ofRecord)
  rw [List.map_map] at hrecovers
  refine ⟨_, (holds_written_iff hrecovers).2 rfl, ?_⟩
  rw [List.forall₂_map_left_iff, List.forall₂_same]
  exact fun record _ => ⟨rfl, rfl, rfl, rfl⟩

/-! ### Runs of requests -/

/-- What a request comes to, from the service before it to the service after it. -/
structure Refines (before : Service) (now : Timestamp) (request : Request) (response : Response) (after : Service) :
    Prop where
  evaluated : ∀ question, request.Asks .evaluate question →
    after = (before.evaluate now question).value.2 ∧ TellsAnswer (before.evaluate now question).value.1 response
  validated : ∀ question, request.Asks .validate question →
    after = (before.validate now question).value.2 ∧ TellsVerdict (before.validate now question).value.1 response
  listed : request.Lists → response.Lists before.failures
  unasked : (∀ method question, ¬ request.Asks method question) → after = before

theorem refines_handle (service : Service) (now : Timestamp) (request : Request) :
    Refines service now request (handle service now request).1 (handle service now request).2 where
  evaluated := by
    intro question hasks
    rw [handle_of_asks hasks]
    exact ⟨rfl, tellsAnswer _⟩
  validated := by
    intro question hasks
    rw [handle_of_asks hasks]
    exact ⟨rfl, tellsVerdict _⟩
  listed := by
    intro hlists
    rw [handle_of_lists hlists]
    exact lists_failuresResponse service
  unasked := handle_of_not_asks

section

variable (service : Service) (entry : Timestamp × Request) (rest : List (Timestamp × Request))

/-- The first request is handled, and the rest by the service after it. -/
theorem handleAll_cons : handleAll service (entry :: rest) =
    ((handle service entry.1 entry.2).1 :: (handleAll (handle service entry.1 entry.2).2 rest).1,
      (handleAll (handle service entry.1 entry.2).2 rest).2) := by
  obtain ⟨now, request⟩ := entry
  rw [handleAll]

theorem calls_cons : Request.calls (entry :: rest) = (entry.2.call? entry.1).toList ++ Request.calls rest := by
  unfold Request.calls
  rw [List.filterMap_cons]
  cases entry.2.call? entry.1 <;> rfl

end

theorem length_handleAll (service : Service) (requests : List (Timestamp × Request)) :
    (handleAll service requests).1.length = requests.length := by
  induction requests generalizing service with
  | nil => rfl
  | cons entry rest ih => rw [handleAll_cons, List.length_cons, List.length_cons, ih]

theorem handleAll_eq_serveAll (service : Service) (requests : List (Timestamp × Request)) :
    (handleAll service requests).2 = service.serveAll (Request.calls requests) := by
  induction requests generalizing service with
  | nil => rfl
  | cons entry rest ih =>
    rw [handleAll_cons, calls_cons]
    dsimp only
    rw [ih, handle_eq_serveAll]
    exact List.foldl_append.symm

/-- Each response of a run is the one of its request alone, to the service as the requests before it left it. -/
theorem refines_at (service : Service) {requests : List (Timestamp × Request)} {place : Nat} {response : Response}
    (hrequest : requests[place]? = some (now, request))
    (hresponse : (handleAll service requests).1[place]? = some response) :
    Refines (handleAll service (requests.take place)).2 now request response
      (handleAll service (requests.take (place + 1))).2 := by
  -- the requests before a later place begin with the first one, so they too lead on from the service after it
  induction requests generalizing service place with
  | nil => cases hrequest
  | cons entry rest ih =>
    rw [handleAll_cons] at hresponse
    cases place with
    | zero =>
      obtain rfl := Option.some.inj hrequest
      obtain rfl := Option.some.inj hresponse
      rw [List.take_succ_cons, handleAll_cons]
      exact refines_handle service now request
    | succ place =>
      rw [List.take_succ_cons, List.take_succ_cons, handleAll_cons, handleAll_cons]
      exact ih (handle service entry.1 entry.2).2 hrequest hresponse

structure RunRefines (service : Service) (requests : List (Timestamp × Request)) : Prop where
  answered : (handleAll service requests).1.length = requests.length
  called : (handleAll service requests).2 = service.serveAll (Request.calls requests)
  each : ∀ place now request response, requests[place]? = some (now, request) →
    (handleAll service requests).1[place]? = some response →
    Refines (handleAll service (requests.take place)).2 now request response
      (handleAll service (requests.take (place + 1))).2

theorem handleAll_refines (service : Service) (requests : List (Timestamp × Request)) : RunRefines service requests where
  answered := length_handleAll service requests
  called := handleAll_eq_serveAll service requests
  each _ _ _ _ hrequest hresponse := refines_at service hrequest hresponse

end WordSums.Http
