import WordSums.Pattern.CharSet

/-!
# Patterns

Regular expressions over characters, and what it means to match one at a place in a text. Matching
is by preference: an alternative tries its first branch before its second, a greedy repetition tries
another round before it stops and a lazy one stops before it tries another round, and the first way
through that reaches the end wins. No way leads through the same branch twice without taking a character
in between, which is why repetitions end, and why a round that takes nothing is not followed by another.
-/

namespace WordSums

open WordSums.Text

/-- A condition on a place between two characters. -/
inductive Anchor where
  | textStart
  | textEnd
  | lineStart
  | lineEnd
  | boundary
  | interior
  | wordStart
  | wordEnd
  | noWordBefore
  | noWordAfter
deriving DecidableEq, Repr

inductive Pattern where
  | empty
  | one (set : CharSet)
  | anchor (condition : Anchor)
  | both (first second : Pattern)
  | either (first second : Pattern)
  | times (body : Pattern) (least : Nat) (most : Option Nat) (greedy : Bool)
deriving DecidableEq, Repr

/-- Where a branch stands in a pattern: the turns that lead to it, the latest first. -/
abbrev Spot : Type := List Nat

/-- A place in a text: the character before it, the text after it, how many characters lie before it, and
the branches that the way has led through since it took a character. -/
structure Place where
  before : Option Char
  rest : List Char
  taken : Nat
  passed : List Spot
deriving DecidableEq, Repr

def Place.enter (place : Place) (spot : Spot) : Place :=
  { place with passed := spot :: place.passed }

def Anchor.holds (anchor : Anchor) (place : Place) : Bool :=
  let wordBefore := place.before.any isWordCharacter
  let wordAfter := place.rest.head?.any isWordCharacter
  match anchor with
  | textStart => place.before.isNone
  | textEnd => place.rest.isEmpty
  | lineStart => place.before.all (· == '\n')
  | lineEnd => place.rest.head?.all (· == '\n')
  | boundary => wordBefore != wordAfter
  | interior => wordBefore == wordAfter
  | wordStart => !wordBefore && wordAfter
  | wordEnd => wordBefore && !wordAfter
  | noWordBefore => !wordBefore
  | noWordAfter => !wordAfter

/-- A way to match something at a place and then go on: the result is the place where everything
that follows has ended, by the preferred way. -/
abbrev Matcher : Type := (Place → Option Place) → Place → Option Place

namespace Matcher

/-- Two ways to go on from a branch; the first one is preferred. -/
def branch (spot : Spot) (first second : Place → Option Place) (place : Place) : Option Place :=
  if spot ∈ place.passed then none
  else (first (place.enter spot)).orElse fun _ => second (place.enter spot)

/-- Another round is tried first when greedy, and stopping first when not. -/
def prefer (greedy : Bool) (spot : Spot) (round stop : Place → Option Place) : Place → Option Place :=
  if greedy then branch spot round stop else branch spot stop round

/-- Any number of rounds. A round leads back to the same branch, so it takes a character: there can be no
more of them than characters. -/
def anyNumber (round : Matcher) (spot : Spot) (greedy : Bool) : Nat → Matcher
  | 0, next => prefer greedy spot (fun _ => none) next
  | bound + 1, next => prefer greedy spot (round (anyNumber round spot greedy bound next)) next

def onceOrMore (round : Matcher) (spot : Spot) (greedy : Bool) : Matcher := fun next =>
  round fun reached => anyNumber round spot greedy reached.rest.length next reached

/-- A fixed number of rounds, the first of which has the given index. -/
def exactly (round : Nat → Matcher) : Nat → Nat → Matcher
  | _, 0, next => next
  | index, count + 1, next => round index (exactly round (index + 1) count next)

/-- No more than a number of rounds, the first of which has the given index. -/
def atMost (round : Nat → Matcher) (spot : Spot) (greedy : Bool) : Nat → Nat → Matcher
  | _, 0, next => next
  | index, count + 1, next =>
    prefer greedy ((2 * index + 1) :: spot) (round index (atMost round spot greedy (index + 1) count next)) next

/-- Rounds between two bounds, the upper of which may be missing. If a round may take nothing, whether there
is one at all is decided at a branch of its own. -/
def rounds (round : Nat → Matcher) (spot : Spot) (hollow : Bool) (least : Nat) (most : Option Nat) (greedy : Bool) :
    Matcher :=
  match most, least with
  | some most, least => fun next => exactly round 0 least (atMost round spot greedy least (most - least) next)
  | none, 0 => fun next place =>
    if hollow then prefer greedy (0 :: spot) (onceOrMore (round 0) spot greedy next) next place
    else anyNumber (round 0) spot greedy place.rest.length next place
  | none, least + 1 => fun next => exactly round 0 least (onceOrMore (round least) spot greedy next)

end Matcher

namespace Pattern

/-- Whether a pattern may match without taking a character. -/
def isHollow : Pattern → Bool
  | empty => true
  | one _ => false
  | anchor _ => true
  | both first second => first.isHollow && second.isHollow
  | either first second => first.isHollow || second.isHollow
  | times body least _ _ => least == 0 || body.isHollow

/-- Matches a pattern at a place and goes on from where it ends. -/
def run : Pattern → Spot → Matcher
  | .empty, _, next, place => next place
  | .one set, _, next, place =>
    match place.rest with
    | char :: rest => if set.contains char then next ⟨some char, rest, place.taken + 1, []⟩ else none
    | [] => none
  | .anchor condition, _, next, place => if condition.holds place then next place else none
  | .both first second, spot, next, place => first.run (0 :: spot) (second.run (1 :: spot) next) place
  | .either first second, spot, next, place =>
    Matcher.branch spot (first.run (0 :: spot) next) (second.run (1 :: spot) next) place
  | .times body least most greedy, spot, next, place =>
    Matcher.rounds (fun index => body.run ((2 * index + 2) :: spot)) spot body.isHollow least most greedy next place

/-- Where the preferred match at a place ends; the place is given by the character before it, the text after
it and the number of characters before it. -/
def matchAt? (pattern : Pattern) (before : Option Char) (text : List Char) (taken : Nat) : Option Nat :=
  (pattern.run [] some ⟨before, text, taken, []⟩).map Place.taken

/-- How many characters the preferred match at the start of a text takes. -/
def matchStart? (pattern : Pattern) (text : List Char) : Option Nat :=
  pattern.matchAt? none text 0

/-- The preferred match at the leftmost place from which there is one: how many characters lie
before it, and how many before its end. -/
def searchFrom? (pattern : Pattern) (before : Option Char) : List Char → Nat → Option (Nat × Nat)
  | [], taken => (pattern.matchAt? before [] taken).map (taken, ·)
  | char :: rest, taken =>
    match pattern.matchAt? before (char :: rest) taken with
    | some last => some (taken, last)
    | none => searchFrom? pattern (some char) rest (taken + 1)

/-- The leftmost match in a text. -/
def search? (pattern : Pattern) (text : List Char) : Option (Nat × Nat) :=
  pattern.searchFrom? none text 0

/-- The first alternative that matches, in the order of the list. -/
def firstOf : List Pattern → Pattern
  | [] => one .nothing
  | [pattern] => pattern
  | pattern :: rest => either pattern (firstOf rest)

def inOrder : List Pattern → Pattern
  | [] => empty
  | [pattern] => pattern
  | pattern :: rest => both pattern (inOrder rest)

end Pattern

end WordSums
