/-!
Whole numbers of 64 bits in decimal digits.

* `Decimal.parse64`: the number that digits, after at most one plus sign, stand for.
* `Decimal.NaturalFault.message`: the wording of what is wrong with a text.
-/

namespace Keyring.Decimal

/-- Why a text is no number of 64 bits. -/
inductive NaturalFault where
  | noDigits
  | badDigit
  | tooLarge
  deriving Repr, DecidableEq

/-- The wording of a fault. -/
def NaturalFault.message : NaturalFault → String
  | .noDigits => "cannot parse integer from empty string"
  | .badDigit => "invalid digit found in string"
  | .tooLarge => "number too large to fit in target type"

/-- A number continued by digits. The first digit that is none or that makes it too large decides.
-/
def parseDigits (n : Nat) : List Char → Except NaturalFault Nat
  | [] => .ok n
  | c :: r =>
    if '0' ≤ c && c ≤ '9' then
      let m := n * 10 + (c.toNat - '0'.toNat)
      if m < UInt64.size then parseDigits m r else .error .tooLarge
    else .error .badDigit

/-- The number that a text stands for. -/
def parse64 (cs : List Char) : Except NaturalFault Nat :=
  match cs with
  | [] => .error .noDigits
  | ['+'] => .error .badDigit
  | '+' :: r => parseDigits 0 r
  | cs => parseDigits 0 cs

end Keyring.Decimal
