import WordSums.Http.Messages
import WordSums.Service

/-!
# Commands

What can be asked of a service in words: to judge a question in one of two ways, or to list the
failures. A command is a line of text, and carrying it out yields text: an answer, a verdict, a line
for every failure, or the reason why there is none of these. That a question is not well formed is a
verdict, and no failure to reach one.
-/

namespace WordSums

open WordSums.Http WordSums.Time

inductive Command where
  | ask (method : Method) (question : String)
  | failures
deriving DecidableEq, Repr

namespace Command

def failuresWord : String := "errors"

/-- What a line begins with if it asks a question. -/
def opening (method : Method) : List Char :=
  method.label.toList ++ [' ']

/-- The line that stands for a command. -/
def line : Command → List Char
  | ask method question => opening method ++ question.toList
  | failures => failuresWord.toList

def read? (line : List Char) : Option Command :=
  match Method.all.find? fun method => (opening method).isPrefixOf line with
  | some method => some (.ask method (String.ofList (line.drop (opening method).length)))
  | none => if line = failuresWord.toList then some .failures else none

theorem read?_line (command : Command) : read? command.line = some command := by
  cases command with
  | failures => rfl
  | ask method question =>
    cases method <;> simp [read?, line, opening, Method.all, Method.label, List.isPrefixOf]

end Command

inductive CommandFault where
  | unknown
  | refused (fault : ServiceFault)
  | unreachable
deriving DecidableEq, Repr

def CommandFault.message : CommandFault → String
  | unknown => "unknown command"
  | refused fault => fault.message
  | unreachable => "request failed"

/-- What is printed in answer to a command, and whether the command succeeded. -/
structure Reply where
  output : String
  succeeded : Bool
deriving DecidableEq, Repr

namespace Reply

/-- A reply of one line. -/
def line (content : String) : Reply := ⟨content ++ "\n", true⟩

def failed (fault : CommandFault) : Reply := ⟨"error: " ++ fault.message ++ "\n", false⟩

def answer : Except ServiceFault Int → Reply
  | .ok result => line (toString result)
  | .error fault => failed (.refused fault)

def verdict : Except ServiceFault Unit → Reply
  | .ok () => line "true"
  | .error (.expression _) => line "false"
  | .error fault => failed (.refused fault)

def listedLine (listed : ListedFailure) : String :=
  "\t\"" ++ listed.expression ++ "\"; on " ++ listed.endpoint ++ "; " ++ toString listed.frequency ++ " times; " ++
    listed.kind.words ++ "\n"

def listing (records : List FailureRecord) : Reply :=
  ⟨String.join (records.map fun record => listedLine (ListedFailure.ofRecord record)), true⟩

end Reply

namespace Service

def execute (service : Service) (now : Timestamp) : Command → Reply × Service
  | .ask .evaluate question =>
    let (result, after) := (service.evaluate now question).value
    (.answer result, after)
  | .ask .validate question =>
    let (result, after) := (service.validate now question).value
    (.verdict result, after)
  | .failures => (.listing service.failures, service)

def obey (service : Service) (now : Timestamp) (line : List Char) : Reply × Service :=
  match Command.read? line with
  | some command => service.execute now command
  | none => (.failed .unknown, service)

theorem obey_line (service : Service) (now : Timestamp) (command : Command) :
    service.obey now command.line = service.execute now command := by
  simp [obey, Command.read?_line]

end Service

end WordSums
