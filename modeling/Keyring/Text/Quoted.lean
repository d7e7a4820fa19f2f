import Keyring.Text.Hex
import Keyring.Text.Printable

/-!
Texts between double quotes, for messages.

* `Quoted.encodeChar`: one character; quotes, backslashes and what is not printable are escaped.
* `quoted`: a text between quotes.
* `quotedOption`: `Some("…")` or `None`.
-/

namespace Keyring

/-- The quoted form of one character. -/
def Quoted.encodeChar (c : Char) : List Char :=
  if c = '"' then ['\\', '"']
  else if c = '\\' then ['\\', '\\']
  else if c = '\n' then ['\\', 'n']
  else if c = '\r' then ['\\', 'r']
  else if c = '\t' then ['\\', 't']
  else if c = '\x00' then ['\\', '0']
  else if isPrintable c then [c]
  else ['\\', 'u', '\x7b'] ++ Hex.digits c.toNat ++ ['\x7d']

/-- A text between quotes. -/
def quoted (s : String) : String :=
  String.ofList ('"' :: (s.toList.flatMap Quoted.encodeChar ++ ['"']))

/-- A text that may be missing. -/
def quotedOption : Option String → String
  | some s => "Some(" ++ quoted s ++ ")"
  | none => "None"

end Keyring
