import WordSums.Json.Timestamp
import WordSums.Machine.History

/-!
# Histories as text

A history is a JSON object with the list of its steps, and a step an object of four strings.
-/

namespace WordSums

open WordSums.Json

namespace Step

def document (step : Step String) : Document := .object [
  ("from", .string step.source),
  ("to", .string step.target),
  ("event", .string step.event),
  ("timestamp", step.time.document)]

structure Draft where
  source : Option String := none
  target : Option String := none
  event : Option String := none
  time : Option Time.Timestamp := none

def reader : Reader (Step String) := Record.read [
  .of "from" Draft.source (fun draft value => { draft with source := some value }) Reader.string,
  .of "to" Draft.target (fun draft value => { draft with target := some value }) Reader.string,
  .of "event" Draft.event (fun draft value => { draft with event := some value }) Reader.string,
  .of "timestamp" Draft.time (fun draft value => { draft with time := some value }) Time.Timestamp.reader]
  false {} fun draft => do some ⟨← draft.source, ← draft.target, ← draft.event, ← draft.time⟩

end Step

namespace History

def document (history : History String) : Document :=
  .object [("transitions", .array (history.steps.map Step.document))]

def reader : Reader (History String) :=
  Record.read [.of "transitions" id (fun _ value => some value) (Reader.list Step.reader)] false none
    (Option.map History.mk)

end History

end WordSums
