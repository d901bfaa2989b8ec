import WordSums.Json.Numeral
import WordSums.Text.Hexadecimal
import WordSums.Text.Width

/-!
# Reading JSON

Readers take one value of a known shape off the start of a text. A text is read strictly from left
to right, and the first thing that is wrong decides the flaw: a value of another shape is noticed
where it stands, before anything behind it is looked at. A scalar of another shape is read to its
end first, so that a malformed one counts as malformed; an array or an object of another shape is
refused at its opening bracket.
-/

namespace WordSums.Json

open WordSums.Text

/-- The four characters that may stand between tokens. -/
def isSpace (char : Char) : Bool :=
  char == ' ' || char == '\n' || char == '\t' || char == '\r'

def skipSpaces (text : List Char) : List Char :=
  text.dropWhile isSpace

/-- The code unit of four hexadecimal digits; a text of less than four bytes ends too early. -/
def codeUnit (text : List Char) : Except Flaw (Nat × List Char) :=
  if width (text.take 4) < 4 then .error .ended
  else match hexNumber? (text.take 4) with
    | some unit => .ok (unit, text.drop 4)
    | none => .error .malformed

/-- Whether a code unit is the first of a pair. -/
def isLeading (unit : Nat) : Bool := 0xd800 ≤ unit && unit ≤ 0xdbff

/-- Whether a code unit is the second of a pair. -/
def isTrailing (unit : Nat) : Bool := 0xdc00 ≤ unit && unit ≤ 0xdfff

/-- The character of an escaped code unit, with the second unit of its pair if it takes two. -/
def unicodeEscape (text : List Char) : Except Flaw (Char × List Char) := do
  let (unit, rest) ← codeUnit text
  if isTrailing unit then .error .malformed
  else if isLeading unit then
    match rest with
    | '\\' :: 'u' :: rest => do
      let (second, rest) ← codeUnit rest
      if isTrailing second then .ok (Char.ofNat (0x10000 + (unit - 0xd800) * 0x400 + (second - 0xdc00)), rest)
      else .error .malformed
    | [] | ['\\'] => .error .ended
    | _ => .error .malformed
  else .ok (Char.ofNat unit, rest)

/-- The character of an escape, after its backslash. -/
def escape : List Char → Except Flaw (Char × List Char)
  | [] => .error .ended
  | '"' :: rest => .ok ('"', rest)
  | '\\' :: rest => .ok ('\\', rest)
  | '/' :: rest => .ok ('/', rest)
  | 'b' :: rest => .ok ('\x08', rest)
  | 'f' :: rest => .ok ('\x0c', rest)
  | 'n' :: rest => .ok ('\n', rest)
  | 'r' :: rest => .ok ('\r', rest)
  | 't' :: rest => .ok ('\t', rest)
  | 'u' :: rest => unicodeEscape rest
  | _ => .error .malformed

/-- The characters of a string up to its closing quote. The bound is a number of characters. -/
def stringBody : Nat → List Char → Except Flaw (List Char × List Char)
  | _, [] => .error .ended
  | 0, _ => .error .malformed
  | bound + 1, char :: rest =>
    if char = '"' then .ok ([], rest)
    else if char = '\\' then do
      let (meant, rest) ← escape rest
      let (others, rest) ← stringBody bound rest
      .ok (meant :: others, rest)
    else if char.toNat < 0x20 then .error .malformed
    else do
      let (others, rest) ← stringBody bound rest
      .ok (char :: others, rest)

def quotedRest (text : List Char) : Except Flaw (List Char × List Char) :=
  stringBody text.length text

def fixed : List Char → List Char → Except Flaw (List Char)
  | [], text => .ok text
  | _ :: _, [] => .error .ended
  | expected :: word, char :: rest => if char = expected then fixed word rest else .error .malformed

/-- The flaw of a value that is not of the shape asked for. -/
def otherShape : List Char → Flaw
  | 'n' :: rest => flawOr (fixed ['u', 'l', 'l'] rest)
  | 't' :: rest => flawOr (fixed ['r', 'u', 'e'] rest)
  | 'f' :: rest => flawOr (fixed ['a', 'l', 's', 'e'] rest)
  | '"' :: rest => flawOr (quotedRest rest)
  | '[' :: _ | '\x7b' :: _ => .mismatched
  | [] => .ended
  | char :: rest => if char = '-' ∨ char.isDigit then flawOr (Numeral.read (char :: rest)) else .malformed
where
  /-- The flaw met on the way, or else that of the shape. -/
  flawOr {α : Type} : Except Flaw α → Flaw
    | .error flaw => flaw
    | .ok _ => .mismatched

/-- A colon and the spaces before it. -/
def colon (text : List Char) : Except Flaw (List Char) :=
  match skipSpaces text with
  | ':' :: rest => .ok rest
  | [] => .error .ended
  | _ => .error .malformed

/-! ### Values that are not asked for -/

/-- A string is passed over without asking what its escapes stand for. -/
def passString : Nat → List Char → Except Flaw (List Char)
  | _, [] => .error .ended
  | 0, _ => .error .malformed
  | bound + 1, char :: rest =>
    if char = '"' then .ok rest
    else if char = '\\' then
      match rest with
      | 'u' :: rest => do
        let (_, rest) ← codeUnit rest
        passString bound rest
      | mark :: rest =>
        if mark ∈ ['"', '\\', '/', 'b', 'f', 'n', 'r', 't'] then passString bound rest else .error .malformed
      | [] => .error .ended
    else if char.toNat < 0x20 then .error .malformed
    else passString bound rest

def passDigits (text : List Char) : Except Flaw (List Char) :=
  let digits := text.takeWhile Char.isDigit
  if digits = [] then .error .malformed else .ok (text.drop digits.length)

/-- The exponent of a number, if there is one. -/
def passExponent : List Char → Except Flaw (List Char)
  | 'e' :: rest | 'E' :: rest =>
    match rest with
    | '+' :: rest | '-' :: rest => passDigits rest
    | _ => passDigits rest
  | text => .ok text

def passNumber (text : List Char) : Except Flaw (List Char) := do
  let digits := text.takeWhile Char.isDigit
  if digits = [] ∨ 1 < digits.length ∧ digits.head? = some '0' then .error .malformed
  else match text.drop digits.length with
    | '.' :: rest => passExponent (← passDigits rest)
    | rest => passExponent rest

mutual

/-- Passes over a value of any shape. The bound is a number of characters. -/
def passValue : Nat → List Char → Except Flaw (List Char)
  | 0, _ => .error .malformed
  | bound + 1, text =>
    match skipSpaces text with
    | [] => .error .ended
    | 'n' :: rest => fixed ['u', 'l', 'l'] rest
    | 't' :: rest => fixed ['r', 'u', 'e'] rest
    | 'f' :: rest => fixed ['a', 'l', 's', 'e'] rest
    | '"' :: rest => passString rest.length rest
    | '[' :: rest =>
      match skipSpaces rest with
      | ']' :: rest => .ok rest
      | _ => passItems bound rest
    | '\x7b' :: rest =>
      match skipSpaces rest with
      | '\x7d' :: rest => .ok rest
      | _ => passMembers bound rest
    | '-' :: rest => passNumber rest
    | char :: rest => if char.isDigit then passNumber (char :: rest) else .error .malformed

/-- Passes over the items of an array up to its end. -/
def passItems : Nat → List Char → Except Flaw (List Char)
  | 0, _ => .error .malformed
  | bound + 1, text => do
    match skipSpaces (← passValue bound text) with
    | ',' :: rest => passItems bound rest
    | ']' :: rest => .ok rest
    | [] => .error .ended
    | _ => .error .malformed

/-- Passes over the members of an object up to its end. -/
def passMembers : Nat → List Char → Except Flaw (List Char)
  | 0, _ => .error .malformed
  | bound + 1, text =>
    match skipSpaces text with
    | '"' :: rest => do
      let rest ← colon (← passString rest.length rest)
      match skipSpaces (← passValue bound rest) with
      | ',' :: rest => passMembers bound rest
      | '\x7d' :: rest => .ok rest
      | [] => .error .ended
      | _ => .error .malformed
    | [] => .error .ended
    | _ => .error .malformed

end

/-! ### Values of a known shape -/

namespace Reader

variable {α : Type}

def string : Reader String := fun text =>
  match skipSpaces text with
  | '"' :: rest => do
    let (chars, rest) ← quotedRest rest
    .ok (String.ofList chars, rest)
  | rest => .error (otherShape rest)

/-- Reads a value that is written as a string. -/
def written (meaning : List Char → Option α) : Reader α := fun text => do
  let (string, rest) ← string text
  match meaning string.toList with
  | some value => .ok (value, rest)
  | none => .error .mismatched

def numeral : Reader Numeral := fun text =>
  match skipSpaces text with
  | char :: rest =>
    if char = '-' ∨ char.isDigit then Numeral.read (char :: rest) else .error (otherShape (char :: rest))
  | [] => .error .ended

def number (meaning : Numeral → Option α) : Reader α := fun text => do
  let (numeral, rest) ← numeral text
  match meaning numeral with
  | some value => .ok (value, rest)
  | none => .error .mismatched

def unsigned32 : Reader UInt32 := number fun
  | .natural value => if value < UInt32.size then some (UInt32.ofNat value) else none
  | _ => none

def unsigned64 : Reader UInt64 := number fun
  | .natural value => some (UInt64.ofNat value)
  | _ => none

def word : Reader Int := number fun
  | .natural value => if (value : Int) ≤ greatestWord then some value else none
  | .negative value => some value
  | .other => none

def boolean : Reader Bool := fun text =>
  match skipSpaces text with
  | 't' :: rest => return (true, ← fixed ['r', 'u', 'e'] rest)
  | 'f' :: rest => return (false, ← fixed ['a', 'l', 's', 'e'] rest)
  | rest => .error (otherShape rest)

def optional (reader : Reader α) : Reader (Option α) := fun text =>
  match skipSpaces text with
  | 'n' :: rest => return (none, ← fixed ['u', 'l', 'l'] rest)
  | rest => do
    let (value, rest) ← reader rest
    .ok (some value, rest)

/-- Reads one of several names, given as a string or as an object whose only member has that name
and is null. -/
def label (meaning : String → Option α) : Reader α := fun text =>
  let named := written fun chars => meaning (String.ofList chars)
  match skipSpaces text with
  | '"' :: rest => named ('"' :: rest)
  | '\x7b' :: rest => do
    let (value, rest) ← named rest
    match skipSpaces (← colon rest) with
    | 'n' :: rest =>
      match skipSpaces (← fixed ['u', 'l', 'l'] rest) with
      | '\x7d' :: rest => .ok (value, rest)
      | [] => .error .ended
      | _ => .error .malformed
    | rest => .error (otherShape rest)
  | [] => .error .ended
  | _ => .error .malformed

/-- Where the next item of an array begins: after a comma unless it is the first. The answer is none
at the end of the array. -/
def nextItem (first : Bool) (text : List Char) : Except Flaw (Option (List Char) × List Char) :=
  match skipSpaces text with
  | [] => .error .ended
  | ']' :: rest => .ok (none, rest)
  | ',' :: rest =>
    if first then .ok (some (',' :: rest), [])
    else match skipSpaces rest with
      | [] => .error .ended
      | ']' :: _ => .error .malformed
      | rest => .ok (some rest, [])
  | rest => if first then .ok (some rest, []) else .error .malformed

/-- Reads the items of an array up to its end. The bound is a number of characters. -/
def items (item : Reader α) : Nat → Bool → Reader (List α)
  | 0, _ => fun _ => .error .malformed
  | bound + 1, first => fun text => do
    match ← nextItem first text with
    | (none, rest) => .ok ([], rest)
    | (some text, _) =>
      let (value, rest) ← item text
      let (values, rest) ← items item bound false rest
      .ok (value :: values, rest)

def list (item : Reader α) : Reader (List α) := fun text =>
  match skipSpaces text with
  | '[' :: rest => items item (rest.length + 1) true rest
  | rest => .error (otherShape rest)

end Reader

/-! ### Records -/

/-- A member of a record under construction: its name, whether it is there already, and how to read
it. -/
structure Member (Draft : Type) where
  label : String
  isSet : Draft → Bool
  fill : Draft → Reader Draft

/-- A member of which is said how it is found in a draft, how it is put there and how it is read. -/
def Member.of {Draft α : Type} (label : String) (get : Draft → Option α)
    (set : Draft → α → Draft) (reader : Reader α) :
    Member Draft where
  label := label
  isSet draft := (get draft).isSome
  fill draft text := do
    let (value, rest) ← reader text
    .ok (set draft value, rest)

namespace Record

variable {Draft α : Type}

/-- The name of the next member of an object, after a comma unless it is the first. The answer is
none at the end of the object. -/
def nextLabel (first : Bool) (text : List Char) : Except Flaw (Option (List Char) × List Char) :=
  let opened : List Char → Except Flaw (Option (List Char) × List Char) := fun
    | '"' :: rest => do
      let (label, rest) ← quotedRest rest
      .ok (some label, rest)
    | [] => .error .ended
    | _ => .error .malformed
  match skipSpaces text with
  | [] => .error .ended
  | '\x7d' :: rest => .ok (none, rest)
  | ',' :: rest => if first then .error .malformed else opened (skipSpaces rest)
  | rest => if first then opened rest else .error .malformed

/-- Reads members up to the end of an object. A member given twice does not fit; one that is not
known is passed over, or does not fit if the record is strict. The bound is a number of characters.
-/
def members (known : List (Member Draft)) (strict : Bool) : Nat → Bool → Draft → Reader Draft
  | 0, _, _ => fun _ => .error .malformed
  | bound + 1, first, draft => fun text => do
    match ← nextLabel first text with
    | (none, rest) => .ok (draft, rest)
    | (some label, rest) =>
      match known.find? fun member => member.label.toList == label with
      | some member =>
        if member.isSet draft then .error .mismatched
        else do
          let (filled, rest) ← member.fill draft (← colon rest)
          members known strict bound false filled rest
      | none =>
        if strict then .error .mismatched
        else do
          let rest ← colon rest
          members known strict bound false draft (← passValue (rest.length + 1) rest)

/-- Reads members from an array, in their order. The array may stop early, but not go on after the
last. -/
def positions : List (Member Draft) → Bool → Draft → Reader Draft
  | [], _, draft => fun text =>
    match skipSpaces text with
    | ']' :: rest => .ok (draft, rest)
    | [] => .error .ended
    | _ => .error .malformed
  | member :: known, first, draft => fun text => do
    match ← Reader.nextItem first text with
    | (none, rest) => .ok (draft, rest)
    | (some text, _) =>
      let (filled, rest) ← member.fill draft text
      positions known false filled rest

/-- Reads a record, given as an object or as an array. What was read must make a value in the end.
-/
def read (known : List (Member Draft)) (strict : Bool) (blank : Draft)
    (finish : Draft → Option α) : Reader α := fun text => do
  let (draft, rest) ← match skipSpaces text with
    | '\x7b' :: rest => members known strict (rest.length + 1) true blank rest
    | '[' :: rest => positions known true blank rest
    | rest => .error (otherShape rest)
  match finish draft with
  | some value => .ok (value, rest)
  | none => .error .mismatched

end Record

/-- Reads a value and leaves whatever follows it. -/
def readFirst {α : Type} (reader : Reader α) (text : String) : Except Flaw α :=
  (reader text.toList).map Prod.fst

/-- Reads a value that is the whole text but for spaces. -/
def readWhole {α : Type} (reader : Reader α) (text : String) : Except Flaw α := do
  let (value, rest) ← reader text.toList
  if skipSpaces rest = [] then .ok value else .error .malformed

end WordSums.Json
