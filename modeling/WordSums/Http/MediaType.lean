/-!
# Media types

The name of a body's format: a type and a subtype, then parameters. Only the question whether it is
a JSON format is asked, and only well-formed names are: a type and a subtype made of the signs that
tokens may have, and parameters with a name and a value, which may be quoted. A format is a JSON
format if its type is `application` and its subtype is `json` up to a last plus sign, or after it.
-/

namespace WordSums.Http.MediaType

def isTokenChar (char : Char) : Bool :=
  char.isAlphanum || "!#$%&'*+-.^_`|~".toList.contains char

/-- The signs that may stand in a quoted value. -/
def isQuotedChar (char : Char) : Bool :=
  0x20 ≤ char.toNat && char.toNat < 0x7f

/-- A quoted value up to its closing quote, which may not come first. -/
def quotedValue? (first : Bool) : List Char → Option (List Char)
  | [] => none
  | char :: rest =>
    if char = '"' ∧ !first then some rest
    else if isQuotedChar char then quotedValue? false rest
    else none

/-- Whether parameters are well formed, from behind a semicolon on. -/
def areParameters : Nat → List Char → Bool
  | 0, _ => false
  | _, [] => true
  | bound + 1, ' ' :: rest => areParameters bound rest
  | bound + 1, text =>
    let label := text.takeWhile isTokenChar
    match text.drop label.length with
    | '=' :: '"' :: rest =>
      !label.isEmpty && match quotedValue? true rest with
        | none => false
        | some rest =>
          match rest.dropWhile (· == ' ') with
          | [] => true
          | ';' :: rest => areParameters bound rest
          | _ => false
    | '=' :: rest =>
      let value := rest.takeWhile isTokenChar
      !label.isEmpty && match rest.drop value.length with
        | [] => true
        | ';' :: rest => !value.isEmpty && areParameters bound rest
        | _ => false
    | _ => false

/-- Type and subtype of a well-formed name, in lower case. -/
def split? (text : List Char) : Option (List Char × List Char) :=
  let type := text.takeWhile isTokenChar
  match text.drop type.length with
  | '/' :: rest =>
    let subtype := rest.takeWhile isTokenChar
    let parameters := rest.drop subtype.length
    let wellFormed : Bool := match parameters with
      | [] => true
      | ';' :: rest => !subtype.isEmpty && areParameters (rest.length + 1) rest
      | _ => false
    if type ≠ [] ∧ wellFormed then some (type.map Char.toLower, subtype.map Char.toLower) else none
  | _ => none

/-- What stands before and after the last plus sign of a subtype; one at the very start does not
count. -/
def suffixSplit (subtype : List Char) : List Char × Option (List Char) :=
  let suffix := (subtype.reverse.takeWhile (· != '+')).reverse
  if suffix.length + 1 < subtype.length then (subtype.take (subtype.length - suffix.length - 1), some suffix)
  else (subtype, none)

def isJson (text : String) : Bool :=
  match split? text.toList with
  | none => false
  | some (type, subtype) =>
    let (base, suffix) := suffixSplit subtype
    type == "application".toList && (base == "json".toList || suffix == some "json".toList)

end WordSums.Http.MediaType
