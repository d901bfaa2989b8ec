import WordSums.Json.Reader
import WordSums.Json.Writer
import WordSums.Token.Basic

/-!
# Tokens as text

A token is a JSON object of its kind and its text.
-/

namespace WordSums.Token

open WordSums.Json

def document (token : Token) : Document := .object [("kind", .string token.kind.label), ("text", .string token.text)]

structure Draft where
  kind : Option TokenKind := none
  text : Option String := none

def reader : Reader Token := Record.read [
  .of "kind" Draft.kind (fun draft value => { draft with kind := some value }) (Reader.label TokenKind.ofLabel?),
  .of "text" Draft.text (fun draft value => { draft with text := some value }) Reader.string]
  false {} fun draft => do some ⟨← draft.kind, ← draft.text⟩

end WordSums.Token
