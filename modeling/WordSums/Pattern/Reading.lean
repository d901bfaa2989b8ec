import WordSums.Text.Decimal
import WordSums.Text.Hexadecimal
import WordSums.Pattern.Basic

/-!
# Reading patterns

Patterns are written as usual: a backslash takes away a sign's meaning or names a class, brackets
hold a set, parentheses group, a bar separates alternatives, and `*`, `+`, `?` and counts in braces
repeat the item before them, lazily if a `?` follows. A group may carry flags, alone or for its own
body, and may be named; no name may be used twice. Where the verbose flag is set, blanks mean nothing
and neither do remarks, which go from a number sign to the end of the line. What does not follow these
rules is no pattern; in particular there is no looking around and no reference back. Some things that
can be said in such patterns are left out: classes of characters by their Unicode properties, lines that
end in a carriage return, and matching bytes instead of characters. Nor is there a limit to the size of a
pattern.
-/

namespace WordSums

open WordSums.Text

/-- How signs are to be understood from some place on. -/
structure Flags where
  caseless : Bool := false
  multiline : Bool := false
  dotAll : Bool := false
  swapGreed : Bool := false
  verbose : Bool := false
deriving DecidableEq, Repr

/-- A text without the blanks and remarks at its start. A remark that no line feed ends takes in the
whole text. -/
def dropRemarks : (inRemark : Bool) → List Char → List Char
  | _, [] => []
  | true, char :: rest => dropRemarks (char != '\n') rest
  | false, char :: rest =>
    if isBlank char then dropRemarks false rest
    else if char = '#' then dropRemarks true rest
    else char :: rest

/-- Where reading goes on in a text. -/
def Flags.skip (flags : Flags) (text : List Char) : List Char :=
  if flags.verbose then dropRemarks false text else text

/-- A set with its case variants, if case does not count. -/
def Flags.fold (flags : Flags) (set : CharSet) : CharSet :=
  if flags.caseless then .caseless set else set

namespace Pattern.Reading

/-- What a backslash and the signs after it stand for. -/
inductive Escape where
  | literal (char : Char)
  | oneOf (set : CharSet)
  | place (condition : Anchor)
deriving Repr

/-- The character with the given code point in hexadecimal. -/
def hexChar? (digits : List Char) : Option Char := do
  let code ← hexNumber? digits
  if digits ≠ [] ∧ digits.length ≤ 8 ∧ code.isValidChar then some (Char.ofNat code) else none

/-- A code point in braces, or in a fixed number of digits without them. -/
def hexEscape? (count : Nat) : List Char → Option (Char × List Char)
  | '\x7b' :: rest =>
    match rest.dropWhile (· != '\x7d') with
    | _ :: after => (hexChar? (rest.takeWhile (· != '\x7d'))).map (·, after)
    | [] => none
  | rest => if count ≤ rest.length then (hexChar? (rest.take count)).map (·, rest.drop count) else none

/-- The edge of a word that a name in braces stands for. -/
def wordEdge? : String → Option Anchor
  | "start" => some .wordStart
  | "end" => some .wordEnd
  | "start-half" => some .noWordBefore
  | "end-half" => some .noWordAfter
  | _ => none

/-- A boundary, after its letter. Braces behind it name an edge, unless they hold a count. -/
def boundary? : List Char → Option (Escape × List Char)
  | '\x7b' :: rest =>
    let label := rest.takeWhile fun char => char.isAlpha || char == '-'
    if label = [] then some (.place .boundary, '\x7b' :: rest)
    else match wordEdge? (String.ofList label), rest.drop label.length with
      | some condition, '\x7d' :: rest => some (.place condition, rest)
      | _, _ => none
  | rest => some (.place .boundary, rest)

/-- What stands after a backslash. Letters and digits without a meaning of their own are refused;
all other ASCII characters stand for themselves. -/
def escape? : List Char → Option (Escape × List Char)
  | [] => none
  | 'd' :: rest => some (.oneOf .digit, rest)
  | 's' :: rest => some (.oneOf .blank, rest)
  | 'w' :: rest => some (.oneOf .word, rest)
  | 'D' :: rest => some (.oneOf (.compl .digit), rest)
  | 'S' :: rest => some (.oneOf (.compl .blank), rest)
  | 'W' :: rest => some (.oneOf (.compl .word), rest)
  | 'A' :: rest => some (.place .textStart, rest)
  | 'z' :: rest => some (.place .textEnd, rest)
  | 'b' :: rest => boundary? rest
  | 'B' :: rest => some (.place .interior, rest)
  | '<' :: rest => some (.place .wordStart, rest)
  | '>' :: rest => some (.place .wordEnd, rest)
  | 'a' :: rest => some (.literal '\x07', rest)
  | 'f' :: rest => some (.literal '\x0c', rest)
  | 't' :: rest => some (.literal '\t', rest)
  | 'n' :: rest => some (.literal '\n', rest)
  | 'r' :: rest => some (.literal '\r', rest)
  | 'v' :: rest => some (.literal '\x0b', rest)
  | 'x' :: rest => (hexEscape? 2 rest).map fun found => (.literal found.1, found.2)
  | 'u' :: rest => (hexEscape? 4 rest).map fun found => (.literal found.1, found.2)
  | 'U' :: rest => (hexEscape? 8 rest).map fun found => (.literal found.1, found.2)
  | char :: rest => if char.isAlphanum ∨ 0x80 ≤ char.toNat then none else some (.literal char, rest)

/-- The sets that have a name inside brackets. -/
def namedSet? (label : String) : Option CharSet :=
  let upper := CharSet.range 'A' 'Z'
  let lower := CharSet.range 'a' 'z'
  let numeral := CharSet.range '0' '9'
  let alpha := CharSet.union upper lower
  match label with
  | "alnum" => some (.union alpha numeral)
  | "alpha" => some alpha
  | "ascii" => some (.range '\x00' '\x7f')
  | "blank" => some (.union (.single ' ') (.single '\t'))
  | "cntrl" => some (.union (.range '\x00' '\x1f') (.single '\x7f'))
  | "digit" => some numeral
  | "graph" => some (.range '!' '~')
  | "lower" => some lower
  | "print" => some (.range ' ' '~')
  | "punct" => some (.diff (.range '!' '~') (.union alpha numeral))
  | "space" => some (.union (.range '\t' '\r') (.single ' '))
  | "upper" => some upper
  | "word" => some (.union (.union alpha numeral) (.single '_'))
  | "xdigit" => some (.union numeral (.union (.range 'A' 'F') (.range 'a' 'f')))
  | _ => none

/-- A named set inside brackets, after its opening bracket. Case variants are in before it is complemented. -/
def namedItem? (flags : Flags) : List Char → Option (CharSet × List Char)
  | ':' :: rest =>
    let label := rest.takeWhile (· != ':')
    match rest.drop label.length with
    | ':' :: ']' :: after =>
      match label with
      | '^' :: positive => (namedSet? (String.ofList positive)).map fun set => (.compl (flags.fold set), after)
      | _ => (namedSet? (String.ofList label)).map (·, after)
    | _ => none
  | _ => none

/-- One sign inside brackets: a character of its own or an escape. -/
def setSign? : List Char → Option (Escape × List Char)
  | '\\' :: rest => escape? rest
  | char :: rest => some (.literal char, rest)
  | [] => none

/-- One item inside brackets: a range if a hyphen and its upper end follow, else a single sign. -/
def setItem? (flags : Flags) (text : List Char) : Option (CharSet × List Char) :=
  match setSign? text with
  | none | some (.place _, _) => none
  | some (.oneOf set, rest) =>
    match flags.skip rest with
    | '-' :: after =>
      match flags.skip after with
      | ']' :: _ | '-' :: _ => some (set, '-' :: after)
      | _ => none
    | rest => some (set, rest)
  | some (.literal low, rest) =>
    match flags.skip rest with
    | '-' :: after =>
      match flags.skip after with
      | ']' :: _ | '-' :: _ => some (.single low, '-' :: after)
      | upper =>
        match setSign? upper with
        | some (.literal high, rest) => if low ≤ high then some (.range low high, rest) else none
        | _ => none
    | rest => some (.single low, rest)

abbrev SetOperation : Type := CharSet → CharSet → CharSet

/-- The set of a finished pair of brackets: complemented if it was to be, once its case variants are
in. -/
def finishSet (flags : Flags) (negated : Bool) (set : CharSet) : CharSet :=
  if negated then .compl (flags.fold set) else flags.fold set

/-- Leading hyphens, and a closing bracket as the very first sign, stand for themselves. -/
def leadingItems (flags : Flags) (text : List Char) : CharSet × List Char :=
  match flags.skip text with
  | '-' :: rest => (.single '-', rest.dropWhile fun char => char == '-' || flags.verbose && isBlank char)
  | ']' :: rest => (.single ']', rest)
  | rest => (.nothing, rest)

/-- Whether a set is complemented, its leading items and the text after them. -/
def setOpening (flags : Flags) (text : List Char) : Bool × CharSet × List Char :=
  match flags.skip text with
  | '^' :: rest => (true, leadingItems flags rest)
  | rest => (false, leadingItems flags rest)

/-- The inside of a pair of brackets up to its end. The operations are applied from left to right,
each to everything before it, and to sets that have their case variants in. -/
def setBody? (flags : Flags) :
    Nat → Bool → Option (SetOperation × CharSet) → CharSet → List Char → Option (CharSet × List Char)
  | 0, _, _, _, _ => none
  | bound + 1, negated, pending, items, text =>
    let settled := match pending with
      | some (operation, left) => operation (flags.fold left) (flags.fold items)
      | none => items
    let text := flags.skip text
    match text with
    | [] => none
    | ']' :: rest => some (finishSet flags negated settled, rest)
    | '&' :: '&' :: rest => setBody? flags bound negated (some (.inter, settled)) .nothing rest
    | '-' :: '-' :: rest => setBody? flags bound negated (some (.diff, settled)) .nothing rest
    | '~' :: '~' :: rest => setBody? flags bound negated (some (.symmDiff, settled)) .nothing rest
    | '[' :: rest =>
      match namedItem? flags rest with
      | some (set, rest) => setBody? flags bound negated pending (.union items set) rest
      | none =>
        let (inverted, leading, rest) := setOpening flags rest
        match setBody? flags bound inverted none leading rest with
        | some (set, rest) => setBody? flags bound negated pending (.union items set) rest
        | none => none
    | _ =>
      match setItem? flags text with
      | some (set, rest) => setBody? flags bound negated pending (.union items set) rest
      | none => none

/-- A set in brackets, after its opening bracket. -/
def set? (flags : Flags) (text : List Char) : Option (CharSet × List Char) :=
  let (negated, leading, rest) := setOpening flags text
  setBody? flags (rest.length + 1) negated none leading rest

inductive Opening where
  | flags (flags : Flags)
  | group (flags : Flags) (label : Option String)
deriving Repr

/-- Switches one flag, given by its letter. Some flags can only be left as they are. -/
def switchFlag? (flags : Flags) (setting : Bool) : Char → Option Flags
  | 'u' => if setting then some flags else none
  | 'R' => if setting then none else some flags
  | 'i' => some { flags with caseless := setting }
  | 'm' => some { flags with multiline := setting }
  | 's' => some { flags with dotAll := setting }
  | 'U' => some { flags with swapGreed := setting }
  | 'x' => some { flags with verbose := setting }
  | _ => none

/-- Flag letters up to the colon that opens a group or the parenthesis that ends them. A hyphen
switches the letters after it off; no letter may stand twice. -/
def flagLetters? (flags : Flags) (setting : Bool) (seen : List Char) : List Char → Option (Opening × List Char)
  | [] => none
  | ':' :: rest => if setting || seen.head? != some '-' then some (.group flags none, rest) else none
  | ')' :: rest => if seen ≠ [] ∧ seen.head? ≠ some '-' then some (.flags flags, rest) else none
  | '-' :: rest => if setting then flagLetters? flags false ('-' :: seen) rest else none
  | letter :: rest =>
    if letter ∈ seen then none
    else match switchFlag? flags setting letter with
      | some switched => flagLetters? switched setting (letter :: seen) rest
      | none => none

/-- A group's name up to its closing bracket: letters, digits, underscores and a few signs, no digit
or sign first. -/
def groupLabel? (text : List Char) : Option (String × List Char) :=
  let label := text.takeWhile (· != '>')
  let startsWell := label.head?.any fun char => char == '_' || isWordCharacter char && !isDecimalDigit char
  if startsWell && label.all (fun char => isWordCharacter char || char == '.' || char == '[' || char == ']') then
    match text.drop label.length with
    | _ :: rest => some (String.ofList label, rest)
    | [] => none
  else none

def opening? (flags : Flags) (text : List Char) : Option (Opening × List Char) :=
  match flags.skip text with
  | '?' :: 'P' :: '<' :: rest => (groupLabel? rest).map fun found => (.group flags (some found.1), found.2)
  | '?' :: '<' :: rest => (groupLabel? rest).map fun found => (.group flags (some found.1), found.2)
  | '?' :: rest => flagLetters? flags true [] rest
  | rest => some (.group flags none, rest)

/-- A count inside braces. -/
def count? (flags : Flags) (text : List Char) : Option (Nat × List Char) :=
  let text := trimStart (flags.skip text)
  let digits := text.takeWhile Char.isDigit
  if digits = [] then none
  else some (digitsValue 0 digits, trimStart (flags.skip (text.drop digits.length)))

/-- The bounds of a repetition, and the text after them; none when no repetition follows, and an
empty answer when it is malformed. -/
def bounds? (flags : Flags) : List Char → Option (Option ((Nat × Option Nat) × List Char))
  | '*' :: rest => some (some ((0, none), rest))
  | '+' :: rest => some (some ((1, none), rest))
  | '?' :: rest => some (some ((0, some 1), rest))
  | '\x7b' :: rest => some do
    let (least, rest) ← count? flags rest
    match rest with
    | '\x7d' :: rest => some ((least, some least), flags.skip rest)
    | ',' :: rest =>
      match trimStart (flags.skip rest) with
      | '\x7d' :: rest => some ((least, none), flags.skip rest)
      | rest =>
        let (most, rest) ← count? flags rest
        match rest with
        | '\x7d' :: rest => if least ≤ most then some ((least, some most), flags.skip rest) else none
        | _ => none
    | _ => none
  | _ => none

/-- A pattern that asks for one character of a set. -/
def literal (flags : Flags) (char : Char) : Pattern :=
  .one (flags.fold (.single char))

/-- A single item other than a group. -/
def item? (flags : Flags) : List Char → Option (Pattern × List Char)
  | [] => none
  | '.' :: rest => some (.one (if flags.dotAll then .anything else .anyButNewline), rest)
  | '^' :: rest => some (.anchor (if flags.multiline then .lineStart else .textStart), rest)
  | '$' :: rest => some (.anchor (if flags.multiline then .lineEnd else .textEnd), rest)
  | '[' :: rest => (set? flags rest).map fun found => (.one found.1, found.2)
  | '\\' :: rest =>
    (escape? rest).map fun found =>
      match found.1 with
      | .literal char => (literal flags char, found.2)
      | .oneOf set => (.one set, found.2)
      | .place condition => (.anchor condition, found.2)
  | char :: rest => some (literal flags char, rest)

/-- The alternatives before the last bar and the items since, latest first; a missing item is a
place where flags were set, which nothing can repeat. -/
structure Progress where
  earlier : List Pattern
  items : List (Option Pattern)
  labels : List String

/-- The alternatives with the latest one finished. -/
def Progress.finish (progress : Progress) : List Pattern :=
  progress.earlier ++ [Pattern.inOrder (progress.items.reverse.filterMap id)]

/-- Reads alternatives up to the end of the text or of the group. The result is the pattern, the
group names used so far and the rest of the text. -/
def body? : Nat → Flags → Progress → List Char → Option (Pattern × List String × List Char)
  | 0, _, _, _ => none
  | bound + 1, flags, progress, text =>
    let text := flags.skip text
    match bounds? flags text with
    | some none => none
    | some (some ((least, most), rest)) =>
      match progress.items with
      | some item :: items =>
        let (greedy, rest) := match rest with
          | '?' :: rest => (flags.swapGreed, rest)
          | rest => (!flags.swapGreed, rest)
        body? bound flags { progress with items := some (.times item least most greedy) :: items } rest
      | _ => none
    | none =>
      match text with
      | [] | ')' :: _ => some (Pattern.firstOf progress.finish, progress.labels, text)
      | '|' :: rest => body? bound flags { progress with earlier := progress.finish, items := [] } rest
      | '(' :: rest =>
        match opening? flags rest with
        | none => none
        | some (.flags flags, rest) => body? bound flags { progress with items := none :: progress.items } rest
        | some (.group inner label, rest) =>
          if label.any (· ∈ progress.labels) then none
          else match body? bound inner ⟨[], [], label.toList ++ progress.labels⟩ rest with
            | some (pattern, labels, ')' :: rest) =>
              body? bound flags { progress with items := some pattern :: progress.items, labels := labels } rest
            | _ => none
      | _ =>
        match item? flags text with
        | some (pattern, rest) => body? bound flags { progress with items := some pattern :: progress.items } rest
        | none => none

end Pattern.Reading

def Pattern.read? (text : List Char) : Option Pattern :=
  match Pattern.Reading.body? (text.length + 1) {} ⟨[], [], []⟩ text with
  | some (pattern, _, []) => some pattern
  | _ => none

end WordSums
