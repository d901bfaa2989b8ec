import WordSums.Pattern.Backtracking
import WordSums.Token.Basic

/-!
# Recognizers

A recognizer takes a token of one kind off the start of a text: the match that a search for its pattern
finds, if that starts right there and is not empty. A set of recognizers has one for every kind and takes a
token only if exactly one of them can; if two can, the patterns overlap. Whether any of them can is
asked of all patterns at once, written as one with bars between them. The patterns are compiled by any engine;
the standard ones are also known as they are read.
-/

namespace WordSums

/-- What is wrong with a set of recognizers or with a text given to it. -/
inductive RecognizerFault where
  | invalidPattern (kind : TokenKind)
  | matchesEmpty (kind : TokenKind)
  | missingPattern (kind : TokenKind)
  | overlap (first second : TokenKind) (text : String)
  | noMatch (offset : Nat)
deriving DecidableEq, Repr

def RecognizerFault.message : RecognizerFault → String
  | invalidPattern kind => s!"pattern for {kind.label} tokens does not compile"
  | matchesEmpty kind => s!"pattern for {kind.label} tokens matches the empty string"
  | missingPattern kind => s!"no pattern given for {kind.label} tokens"
  | overlap first second text => s!"patterns for {first.label} and {second.label} both match " ++ Text.quote text
  | noMatch offset => s!"no pattern matches the input at offset {offset}"

/-- A kind and the pattern of its tokens, as it is written and as it is searched for. -/
structure Recognizer where
  kind : TokenKind
  written : String
  search : Search

/-- The text of the token that a recognizer takes off the start of a text. -/
def Recognizer.take? (recognizer : Recognizer) (text : List Char) : Option (List Char) :=
  (recognizer.search.takes? text).map text.take

/-- Recognizers and the search for all of their patterns together. -/
structure RecognizerSet where
  recognizers : List Recognizer
  anyKind : Search

namespace RecognizerSet

section Compiling

variable (engine : Engine)

/-- Compiles the patterns in their order. A later pattern for a kind takes the place of an earlier one,
at the end. -/
def recognizers? : List Recognizer → List (TokenKind × String) → Except RecognizerFault (List Recognizer)
  | begun, [] => .ok begun
  | begun, (kind, written) :: rest =>
    match engine.compile? written with
    | none => .error (.invalidPattern kind)
    | some search =>
      if (search.find? []).isSome then .error (.matchesEmpty kind)
      else recognizers? ((begun.filter fun recognizer => recognizer.kind ≠ kind) ++ [⟨kind, written, search⟩]) rest

/-- The set of the given patterns: each must compile, none may match the empty text, every kind needs
one, and all of them must compile once more when they are written as one. -/
def ofPatterns (patterns : List (TokenKind × String)) : Except RecognizerFault RecognizerSet := do
  let recognizers ← recognizers? engine [] patterns
  match TokenKind.all.find? fun kind => !recognizers.any fun recognizer => recognizer.kind = kind with
  | some kind => .error (.missingPattern kind)
  | none =>
    match engine.compile? (Engine.writtenAsOne (recognizers.map Recognizer.written)) with
    | some anyKind => .ok ⟨recognizers, anyKind⟩
    | none => .error (.invalidPattern ((recognizers.head?.map Recognizer.kind).getD .question))

end Compiling

def matchesStart (set : RecognizerSet) (text : List Char) : Bool :=
  (set.anyKind.takes? text).isSome

/-- The one token that can be taken off the start of a text; the second recognizer that takes one
makes an overlap, which names what it would take. -/
def recognizeWith (text : List Char) (found : Option (TokenKind × List Char)) :
    List Recognizer → Except RecognizerFault (Option (TokenKind × List Char))
  | [] => .ok found
  | recognizer :: rest =>
    match recognizer.take? text, found with
    | none, _ => recognizeWith text found rest
    | some taken, none => recognizeWith text (some (recognizer.kind, taken)) rest
    | some taken, some (first, _) => .error (.overlap first recognizer.kind (String.ofList taken))

/-- The one token that can be taken off the start of a text. -/
def recognize (set : RecognizerSet) (text : List Char) : Except RecognizerFault (Option (TokenKind × List Char)) :=
  recognizeWith text none set.recognizers

/-- A word spelt out at the start of a text. -/
def spelling (text : String) : Pattern :=
  Pattern.inOrder (text.toList.map fun char => .one (.single char))

/-- The standard pattern of each kind, as it is read from its written form. -/
def standardSource : TokenKind → Pattern
  | .question => Pattern.inOrder (.anchor .textStart :: "What is".toList.map fun char => .one (.single char))
  | .number =>
    Pattern.inOrder [.anchor .textStart,
      .times (.one (.union .nothing (.range '0' '9'))) 1 none true]
  | .operand =>
    Pattern.inOrder [.anchor .textStart,
      Pattern.firstOf (["plus", "minus", "multiplied by", "divided by"].map spelling)]
  | .punctuation => Pattern.inOrder [.anchor .textStart, .one (.single '?')]

def standardRecognizer (kind : TokenKind) : Recognizer :=
  ⟨kind, kind.standardPattern, (standardSource kind).search⟩

def standard : RecognizerSet where
  recognizers := TokenKind.all.map standardRecognizer
  anyKind := (Pattern.firstOf (TokenKind.all.map standardSource)).search

/-- The standard recognizers are the ones that the standard patterns give. -/
theorem ofPatterns_standard :
    ofPatterns .backtracking (TokenKind.all.map fun kind => (kind, kind.standardPattern)) = .ok standard :=
  rfl

end RecognizerSet

end WordSums
