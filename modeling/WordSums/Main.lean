import Std.Time.DateTime.Timestamp
import Std.Time.Date.PlainDate
import WordSums.Program

/-!
# The command line

The outer layer of the program: the world in which it runs. It reads the clock, the files and standard
input, prints what the run comes to, and writes the ledger back. A conversation is printed line by line as it
is read, so nothing of it is left to be printed in the end.
-/

namespace WordSums.Main

open WordSums.Time

def readClock : IO Time.Timestamp := do
  let nanos := (← Std.Time.Timestamp.now).toNanosecondsSinceUnixEpoch.val
  let second := nanos / nanosPerSecond
  let day := Std.Time.PlainDate.ofEpochDay ⟨second / 86400⟩
  return ((Date.ofParts? day.year.toInt day.month.val.toNat day.day.val.toNat).bind fun date =>
    Time.Timestamp.ofParts? date (second % 86400).toNat (nanos % nanosPerSecond).toNat).getD .epoch

def freshId : IO SnapshotId := do
  let random ← IO.getRandomBytes 16
  let bytes := random.toList.mapIdx fun index byte =>
    if index = 6 then byte % 16 + 64 else if index = 8 then byte % 64 + 128 else byte
  match SnapshotId.ofBytes? bytes with
  | some id => return id
  | none => throw (IO.userError "not enough random bytes")

def readFile (file : String) : IO FileContent := do
  try return .bytes (← IO.FS.readBinFile file).toList
  catch
    | .noFileOrDirectory _ _ _ => return .absent
    | _ => return .unreadable

def readFiles (names : List String) : IO (String → FileContent) := do
  let contents ← names.mapM fun file => return (file, ← readFile file)
  return fun file => (contents.lookup file).getD .absent

/-- The bytes of the next line of the input, with its line feed; none at its end. -/
partial def readLineBytes (input : IO.FS.Stream) (taken : ByteArray) : IO ByteArray := do
  let next ← input.read 1
  if next.isEmpty then return taken
  let taken := taken ++ next
  if next.toList = [10] then return taken else readLineBytes input taken

/-- The next line of the input, with the reading of the clock at it. -/
def readLine? (input : IO.FS.Stream) : IO (Option (Time.Timestamp × InputLine)) := do
  let bytes ← readLineBytes input .empty
  let now ← readClock
  if bytes.isEmpty then return none
  match String.fromUTF8? bytes with
  | some text => return (InputLine.ofText text).head?.map (now, ·)
  | none => return some (now, .unreadable)

/-- Prints at once. -/
def say (text : String) : IO Unit := do
  let output ← IO.getStdout
  output.putStr text
  output.flush

/-- The rest of a conversation, each part of which is printed as soon as it is known. -/
partial def converse {State : Type} (servant : Conversation.Servant State) (state : State) :
    IO (Conversation.Transcript State) := do
  match ← readLine? (← IO.getStdin) with
  | none => return ⟨"", state, true⟩
  | some entry =>
    match Conversation.hear servant state entry with
    | .over ended => return ⟨"", state, ended⟩
    | .answered output after =>
      say output
      converse servant after

/-- The world as it is. There is no client in it: every server is out of reach. -/
def world : World IO where
  files := readFiles
  now := readClock
  hold servant state := do
    say Conversation.prompt
    converse servant state
  complain reason := IO.eprintln ("error: " ++ reason)
  closing := return (← freshId, ← readClock)
  server _ _ _ := .failed .unreachable

def settle (outcome : Outcome) : IO UInt32 := do
  say outcome.output
  match outcome.written with
  | some (file, content) => IO.FS.writeFile file content
  | none => pure ()
  return outcome.status.toUInt32

end WordSums.Main

def main (arguments : List String) : IO UInt32 := do
  WordSums.Main.settle (← WordSums.Main.world.run arguments)
