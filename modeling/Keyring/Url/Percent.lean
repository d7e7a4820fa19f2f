import Keyring.Text.Hex
import Keyring.Text.Utf8

/-!
Percent encoding.

Each part of an address has a set of characters that may not stand in it as they are; their UTF-8
octets are written as `%` and two digits.

* `Percent.encode`: a text with the characters of a set encoded.
* `Percent.decode`: octets with every well-formed triple decoded.
-/

namespace Keyring.Percent

/-- Control characters and everything beyond ASCII. -/
def isControl (c : Char) : Bool := c.toNat < 0x20 || 0x7E < c.toNat

/-- What is encoded in a fragment. -/
def inFragment (c : Char) : Bool :=
  isControl c || c = ' ' || c = '"' || c = '<' || c = '>' || c = '\x60'

/-- What is encoded in a query. -/
def inQuery (c : Char) : Bool :=
  isControl c || c = ' ' || c = '"' || c = '#' || c = '<' || c = '>'

/-- What is encoded in the query of an address of a special scheme. -/
def inSpecialQuery (c : Char) : Bool := inQuery c || c = '\''

/-- What is encoded in a path. -/
def inPath (c : Char) : Bool :=
  inFragment c || c = '#' || c = '?' || c = '\x7b' || c = '\x7d'

/-- What is encoded in a user's name or password. -/
def inUser (c : Char) : Bool :=
  inPath c || c = '/' || c = ':' || c = ';' || c = '=' || c = '@' || c = '[' || c = '\\' || c = ']'
    || c = '^' || c = '|'

/-- An octet as `%` and two digits. -/
def triple (b : UInt8) : List Char :=
  ['%', Hex.upperDigit (b.toNat / 16), Hex.upperDigit (b.toNat % 16)]

/-- A text with the characters of a set encoded. -/
def encode (set : Char → Bool) (cs : List Char) : List Char :=
  cs.flatMap fun c => if set c then (Utf8.encodeChar c).flatMap triple else [c]

/-- Octets with every well-formed triple decoded; a `%` without two digits stands for itself. -/
def decode : List UInt8 → List UInt8
  | 0x25 :: a :: b :: r =>
    match Hex.octetValue? a, Hex.octetValue? b with
    | some x, some y => UInt8.ofNat (x * 16 + y) :: decode r
    | _, _ => 0x25 :: decode (a :: b :: r)
  | b :: r => b :: decode r
  | [] => []

end Keyring.Percent
