import WordSums.Text.Hexadecimal
import WordSums.Text.Printable

/-!
# Quoted text

The form in which a message shows a piece of someone else's text: between double quotes, with the
quote and the backslash escaped, the common controls in their short form, and everything that cannot
be shown as it is by its code point in braces. The single quote stays as it is.
-/

namespace WordSums.Text

def quotedChar (char : Char) : List Char :=
  if char = '\x00' then ['\\', '0']
  else if char = '\t' then ['\\', 't']
  else if char = '\r' then ['\\', 'r']
  else if char = '\n' then ['\\', 'n']
  else if char = '"' then ['\\', '"']
  else if char = '\\' then ['\\', '\\']
  else if !extendsGrapheme char && isPrintable char then [char]
  else ['\\', 'u', '\x7b'] ++ hexDigits char.toNat ++ ['\x7d']

/-- A text between double quotes, each character in its quoted form. -/
def quoted (text : List Char) : List Char :=
  '"' :: (text.flatMap quotedChar ++ ['"'])

def quote (text : String) : String :=
  String.ofList (quoted text.toList)

end WordSums.Text
