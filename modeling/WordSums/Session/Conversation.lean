import WordSums.Session.Command
import WordSums.Text.Blank
import WordSums.Text.Lines

/-!
# Conversations

A conversation reads lines and obeys each in turn. A prompt is printed first and again after every
line; blanks around a line do not count, an empty line asks for nothing, and one line asks to leave.
The conversation also ends where the lines end, and breaks off at a line that cannot be read. Who
obeys is left open: the state it works on is handed from line to line, so that a conversation over
lines that come in two parts is the one conversation followed by the other.
-/

namespace WordSums

open WordSums.Text WordSums.Time

/-- What a reading of the input brings: a line, or nothing that could be read. -/
inductive InputLine where
  | text (content : List Char)
  | unreadable
deriving DecidableEq, Repr

def InputLine.ofText (text : String) : List InputLine :=
  (lines text.toList).map .text

namespace Conversation

/-- What is printed when a line is awaited. -/
def prompt : String := "> "

def farewell : List Char := ['\\', 'e']

/-- Who obeys the lines of a conversation, each at a reading of the clock. -/
abbrev Servant (State : Type) : Type := State → Timestamp → List Char → Reply × State

/-- What a conversation has come to: what was printed, what state it led to, and whether it was
ended rather than broken off. -/
structure Transcript (State : Type) where
  output : String
  state : State
  ended : Bool
deriving DecidableEq

variable {State : Type}

/-- Answers a line with what is printed for it and the state after it; nothing if the line asks to
leave. -/
def respond? (servant : Servant State) (state : State) (now : Timestamp) (line : List Char) :
    Option (String × State) :=
  let asked := trim line
  if asked = farewell then none
  else if asked = [] then some (prompt, state)
  else
    let (reply, after) := servant state now asked
    some (reply.output ++ prompt, after)

/-- What hearing a line comes to: the conversation is over, ended or broken off, or the line is answered. -/
inductive Heard (State : Type) where
  | over (ended : Bool)
  | answered (output : String) (after : State)

def hear (servant : Servant State) (state : State) : Timestamp × InputLine → Heard State
  | (_, .unreadable) => .over false
  | (now, .text line) =>
    match respond? servant state now line with
    | none => .over true
    | some (output, after) => .answered output after

def afterPrompt (servant : Servant State) (state : State) : List (Timestamp × InputLine) → Transcript State
  | [] => ⟨"", state, true⟩
  | entry :: rest =>
    match hear servant state entry with
    | .over ended => ⟨"", state, ended⟩
    | .answered output after =>
      let further := afterPrompt servant after rest
      { further with output := output ++ further.output }

theorem afterPrompt_text (servant : Servant State) (state : State) (now : Timestamp) (line : List Char)
    (rest : List (Timestamp × InputLine)) :
    afterPrompt servant state ((now, .text line) :: rest) =
      match respond? servant state now line with
      | none => ⟨"", state, true⟩
      | some (output, after) =>
        { afterPrompt servant after rest with output := output ++ (afterPrompt servant after rest).output } := by
  rw [afterPrompt, hear]
  cases respond? servant state now line <;> rfl

def hold (servant : Servant State) (state : State) (lines : List (Timestamp × InputLine)) : Transcript State :=
  let conversation := afterPrompt servant state lines
  { conversation with output := prompt ++ conversation.output }

end Conversation

end WordSums
