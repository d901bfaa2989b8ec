/-!
# Bodies

A body is bytes. It is read as the text of which these are the UTF-8 form, but nothing asks for the whole to
be such a form: what a reader passes over may hold any bytes, and so may what follows the value it reads. A
byte that begins no character is therefore put in the text as something that is malformed in just the places
where such a byte is, the escape of half a pair behind a sign that may stand in strings only.
-/

namespace WordSums.Http

def strayByte : List Char := "\uFFFD\\udc00".toList

/-- The character whose UTF-8 form the bytes begin with: the shortest start that is one. -/
def firstChar? (bytes : List UInt8) : Option Char :=
  [1, 2, 3, 4].findSome? fun size =>
    (String.fromUTF8? ⟨(bytes.take size).toArray⟩).bind fun text => text.toList.head?

/-- The characters that bytes stand for. The first bytes may belong to a character that is already taken, and
their number is given. -/
def charsOf : Nat → List UInt8 → List Char
  | _, [] => []
  | pending + 1, _ :: rest => charsOf pending rest
  | 0, byte :: rest =>
    match firstChar? (byte :: rest) with
    | some char => char :: charsOf (char.utf8Size - 1) rest
    | none => strayByte ++ charsOf 0 rest

def textOf (bytes : List UInt8) : String :=
  match String.fromUTF8? ⟨bytes.toArray⟩ with
  | some text => text
  | none => String.ofList (charsOf 0 bytes)

end WordSums.Http
