import WordSums.Text.Decimal
import WordSums.Text.Hexadecimal

/-!
# Writing JSON

A document knows how to write itself in a layout: on one line without blanks, or spread over lines
with two blanks for every level of nesting. Members of an object are written in the order in which
they are given. Inside a string only the quote, the backslash and the control characters are
escaped, with the short escapes where there are any.
-/

namespace WordSums.Json

open WordSums.Text

inductive Layout where
  | compact
  | spread (depth : Nat)
deriving DecidableEq, Repr

namespace Layout

def inner : Layout → Layout
  | compact => compact
  | spread depth => spread (depth + 1)

/-- What separates a line from the one before it. -/
def lineBreak : Layout → List Char
  | compact => []
  | spread depth => '\n' :: List.replicate (2 * depth) ' '

/-- What separates a member's name from its value. -/
def colon : Layout → List Char
  | compact => [':']
  | spread _ => [':', ' ']

end Layout

/-- A document, as the text it has in a layout. -/
abbrev Document : Type := Layout → List Char

/-- One character inside a string. -/
def escapedChar (char : Char) : List Char :=
  if char = '"' then ['\\', '"']
  else if char = '\\' then ['\\', '\\']
  else if char = '\x08' then ['\\', 'b']
  else if char = '\x0c' then ['\\', 'f']
  else if char = '\n' then ['\\', 'n']
  else if char = '\r' then ['\\', 'r']
  else if char = '\t' then ['\\', 't']
  else if char.toNat < 0x20 then '\\' :: 'u' :: '0' :: '0' :: byteDigits (UInt8.ofNat char.toNat)
  else [char]

def written (text : List Char) : List Char :=
  '"' :: (text.flatMap escapedChar ++ ['"'])

namespace Document

def string (text : String) : Document := fun _ => written text.toList

def integer (number : Int) : Document := fun _ =>
  if number < 0 then '-' :: decimal number.natAbs else decimal number.natAbs

def boolean (value : Bool) : Document := fun _ => (if value then "true" else "false").toList

/-- Items between two brackets; without items, nothing stands between them. -/
def enclosed (opening closing : Char) (items : List Document) : Document := fun layout =>
  match items with
  | [] => [opening, closing]
  | _ =>
    opening :: (List.intercalate [','] (items.map fun item => layout.inner.lineBreak ++ item layout.inner) ++
      layout.lineBreak ++ [closing])

def array (items : List Document) : Document := enclosed '[' ']' items

def member (entry : String × Document) : Document := fun layout =>
  written entry.1.toList ++ layout.colon ++ entry.2 layout

def object (members : List (String × Document)) : Document := enclosed '\x7b' '\x7d' (members.map member)

def compact (document : Document) : String := String.ofList (document .compact)

def pretty (document : Document) : String := String.ofList (document (.spread 0))

end Document

end WordSums.Json
