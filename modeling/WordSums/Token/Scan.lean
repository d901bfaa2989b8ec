import WordSums.Text.Width
import WordSums.Token.Recognizer

/-!
# Scanning a source

A scan has read some tokens off the start of a source and stands before the rest. Blanks are skipped
at the start and after every token, so the rest never starts with one. Taking a token either adds
one and moves on, or fails and changes nothing.
-/

namespace WordSums

open WordSums.Text

/-- How far a source has been read: the tokens so far, whether one of them was a question, the text still
to come, and its offset in bytes. -/
structure Scan where
  source : List Char
  rest : List Char
  offset : Nat
  tokens : List Token
  hasQuestion : Bool
deriving DecidableEq, Repr

namespace Scan

def skipBlanks (scan : Scan) : Scan :=
  { scan with
    rest := trimStart scan.rest
    offset := scan.offset + width (scan.rest.takeWhile isBlank) }

/-- A scan that has read nothing but the blanks at the start. -/
def start (source : List Char) : Scan :=
  skipBlanks ⟨source, source, 0, [], false⟩

/-- Nothing is left to read. -/
def isExhausted (scan : Scan) : Bool :=
  scan.rest.isEmpty

/-- What lies before the next blank of the rest. -/
def fragment (scan : Scan) : List Char :=
  firstWord scan.rest

/-- Adds a token and moves past its text and the blanks after it. -/
def push (scan : Scan) (kind : TokenKind) (taken : List Char) : Scan :=
  skipBlanks
    { scan with
      rest := scan.rest.drop taken.length
      offset := scan.offset + width taken
      tokens := scan.tokens ++ [⟨kind, String.ofList taken⟩]
      hasQuestion := scan.hasQuestion || kind = .question }

def take (set : RecognizerSet) (scan : Scan) : Except RecognizerFault Unit × Scan :=
  match set.recognize scan.rest with
  | .error fault => (.error fault, scan)
  | .ok none => (.error (.noMatch scan.offset), scan)
  | .ok (some (kind, taken)) => (.ok (), scan.push kind taken)

theorem take_eq_of_error {set : RecognizerSet} {scan after : Scan} {fault : RecognizerFault}
    (htake : scan.take set = (.error fault, after)) : after = scan := by
  unfold take at htake
  split at htake <;> simp_all

end Scan

end WordSums
