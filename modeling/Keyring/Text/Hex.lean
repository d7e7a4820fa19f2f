/-!
Hexadecimal digits and numbers.

* `Hex.digit`, `Hex.upperDigit`: the digit of a number below sixteen.
* `Hex.value?`: the number that a digit of either case stands for.
* `Hex.digits`: a number in lower-case digits, without leading zeros.
* `Hex.pair`: an octet in two lower-case digits.
-/

namespace Keyring.Hex

/-- The lower-case digit of a number below sixteen. -/
def digit (n : Nat) : Char := if n < 10 then Char.ofNat (0x30 + n) else Char.ofNat (0x61 + (n - 10))

/-- The upper-case digit of a number below sixteen. -/
def upperDigit (n : Nat) : Char :=
  if n < 10 then Char.ofNat (0x30 + n) else Char.ofNat (0x41 + (n - 10))

/-- The number that an octet stands for as a digit. -/
def octetValue? (b : UInt8) : Option Nat :=
  if 0x30 ≤ b && b ≤ 0x39 then some (b.toNat - 0x30)
  else if 0x61 ≤ b && b ≤ 0x66 then some (b.toNat - 0x61 + 10)
  else if 0x41 ≤ b && b ≤ 0x46 then some (b.toNat - 0x41 + 10)
  else none

/-- The number that a character stands for as a digit. -/
def value? (c : Char) : Option Nat :=
  if c.toNat < 0x80 then octetValue? (UInt8.ofNat c.toNat) else none

/-- A number in lower-case digits, `0` for zero. -/
def digits (n : Nat) : List Char :=
  if n < 16 then [digit n] else digits (n / 16) ++ [digit (n % 16)]

/-- An octet in two lower-case digits. -/
def pair (b : UInt8) : List Char := [digit (b.toNat / 16), digit (b.toNat % 16)]

end Keyring.Hex
