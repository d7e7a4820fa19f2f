import Keyring.Decimal.Shortest
import Keyring.Text.Hex

/-!
JSON values and their compact text.

* `Json.Value`: a value. An object keeps all its members in order, repeated names too.
* `Json.writeText`: a text between quotes, with only what has to be escaped escaped.
* `Json.Value.render`: a value without any blanks.
-/

namespace Keyring.Json

/-- A number as it is read: whole numbers of 64 bits are exact, all others are floats. -/
inductive Number where
  /-- A whole number that is not negative. -/
  | natural (n : UInt64)
  /-- A negative whole number, not below −2^63. -/
  | negative (n : Int)
  /-- Any other number. -/
  | float (x : Float)
  deriving Repr, BEq, Inhabited

/-- A JSON value. -/
inductive Value where
  | null
  | bool (b : Bool)
  | number (n : Number)
  | text (s : String)
  | list (vs : List Value)
  | object (members : List (String × Value))
  deriving Repr, BEq, Inhabited

/-- The value of a whole number of 64 bits. -/
def Value.natural (n : UInt64) : Value := .number (.natural n)

/-! ### Writing -/

/-- One character of a text between quotes. Quotes, backslashes and control characters are escaped,
the common ones by a letter. -/
def escape (c : Char) : List Char :=
  if c = '"' then ['\\', '"']
  else if c = '\\' then ['\\', '\\']
  else if c = '\n' then ['\\', 'n']
  else if c = '\r' then ['\\', 'r']
  else if c = '\t' then ['\\', 't']
  else if c = '\x08' then ['\\', 'b']
  else if c = '\x0c' then ['\\', 'f']
  else if c.toNat < 0x20 then
    ['\\', 'u', '0', '0', Hex.digit (c.toNat / 16), Hex.digit (c.toNat % 16)]
  else [c]

/-- A text between quotes. -/
def writeText (s : String) : List Char := '"' :: (s.toList.flatMap escape ++ ['"'])

/-- A number as text. -/
def Number.write : Number → List Char
  | .natural n => Nat.toDigits 10 n.toNat
  | .negative n => '-' :: Nat.toDigits 10 n.natAbs
  | .float x => (Decimal.render .message x).toList

mutual

/-- A value without any blanks. -/
def Value.write : Value → List Char
  | .null => ['n', 'u', 'l', 'l']
  | .bool true => ['t', 'r', 'u', 'e']
  | .bool false => ['f', 'a', 'l', 's', 'e']
  | .number n => n.write
  | .text s => writeText s
  | .list vs => '[' :: writeElements vs
  | .object ms => '\x7b' :: writeMembers ms

/-- The elements of a list and its closing bracket. -/
def writeElements : List Value → List Char
  | [] => [']']
  | [v] => v.write ++ [']']
  | v :: w :: r => v.write ++ ',' :: writeElements (w :: r)

/-- The members of an object and its closing brace. -/
def writeMembers : List (String × Value) → List Char
  | [] => ['\x7d']
  | [(k, v)] => writeText k ++ ':' :: (v.write ++ ['\x7d'])
  | (k, v) :: m :: r => writeText k ++ ':' :: (v.write ++ ',' :: writeMembers (m :: r))

end

/-- A value without any blanks. -/
def Value.render (v : Value) : String := String.ofList v.write

end Keyring.Json
