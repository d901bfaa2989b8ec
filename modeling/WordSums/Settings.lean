import WordSums.FileContent
import WordSums.Json.Reader
import WordSums.Json.Writer

/-!
# Settings

Two settings can be made: the greatest length of a question in bytes, which is never zero, and
whether failures are recorded. They are read from a JSON object in which nothing else may stand, or
from the values alone; what is not set keeps its default.
-/

namespace WordSums

open WordSums.Json

structure Settings where
  greatestLength : UInt64 := 1024
  recording : Bool := true
deriving DecidableEq, Repr

inductive SettingsFault where
  | unreadable
  | flawed (flaw : Flaw)
  | zeroLength
deriving DecidableEq, Repr

/-- The message of settings that make no sense; the other causes are worded elsewhere. -/
def SettingsFault.message : SettingsFault → String
  | unreadable => "cannot read config file"
  | flawed _ => "malformed config"
  | zeroLength => "invalid config: max_input_len must be greater than zero"

namespace Settings

def document (settings : Settings) : Document := Document.object [
  ("max_input_len", .integer settings.greatestLength.toNat),
  ("record_errors", .boolean settings.recording)]

structure Draft where
  greatestLength : Option UInt64 := none
  recording : Option Bool := none

def members : List (Member Draft) := [
  .of "max_input_len" Draft.greatestLength (fun draft value => { draft with greatestLength := some value })
    Reader.unsigned64,
  .of "record_errors" Draft.recording (fun draft value => { draft with recording := some value }) Reader.boolean]

/-- The settings of a draft, with the default for every one that was not made. -/
def Draft.finish (draft : Draft) : Settings :=
  ⟨draft.greatestLength.getD 1024, draft.recording.getD true⟩

def reader : Reader Settings := Record.read members true {} fun draft => some draft.finish

def ofJson (text : String) : Except SettingsFault Settings :=
  match readWhole reader text with
  | .error flaw => .error (.flawed flaw)
  | .ok settings => if settings.greatestLength = 0 then .error .zeroLength else .ok settings

def ofFile (content : FileContent) : Except SettingsFault Settings :=
  match content.text? with
  | some text => ofJson text
  | none => .error .unreadable

end Settings

end WordSums
