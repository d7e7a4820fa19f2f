import Keyring.Text.Hex

/-!
Object identifiers: the two first numbers in one octet, then numbers in base 128.

* `Asn1.ObjectId.render`: the numbers with points between them.
* `Asn1.ObjectId.narrowNumbers?`, `Asn1.ObjectId.renderNarrow`: the numbers where each has 32 bits.
* `Asn1.ObjectId.rsaEncryption`, `Asn1.ObjectId.rsaName`: the identifier of RSA keys, as octets and
  as numbers with points between them.
-/

namespace Keyring.Asn1.ObjectId

/-- 1.2.840.113549.1.1.1, the identifier of RSA keys. -/
def rsaEncryption : List UInt8 := [0x2A, 0x86, 0x48, 0x86, 0xF7, 0x0D, 0x01, 0x01, 0x01]

/-- The identifier of RSA keys with points between its numbers. -/
def rsaName : String := "1.2.840.113549.1.1.1"

/-- The groups of octets that make the numbers: each ends with an octet below 128. -/
def groups (s : List UInt8) : List (List UInt8) := go [] s
where
  /-- The groups, `group` being the beginning of the first one in reverse. -/
  go (group : List UInt8) : List UInt8 → List (List UInt8)
    | [] => []
    | b :: r => if b < 0x80 then (b :: group).reverse :: go [] r else go (b :: group) r

/-- The octets after the last group, which has not ended. -/
def unended (s : List UInt8) : List UInt8 := (s.reverse.takeWhile (0x80 ≤ ·)).reverse

/-- The number of a group, seven bits an octet. -/
def groupValue (g : List UInt8) : Nat := g.foldl (fun n b => n * 128 + b.toNat % 128) 0

/-- Texts with points between them. -/
def dotted (parts : List Nat) : String :=
  String.ofList ((parts.map (Nat.toDigits 10)).intersperse ['.']).flatten

/-- Octets in hexadecimal with blanks between them. -/
def spelled (s : List UInt8) : String :=
  String.ofList ((s.map Hex.pair).intersperse [' ']).flatten

/-- The numbers with points between them. The first two come from the first octet. If a number has
more than 64 bits, the octets are spelled instead. A group that has not ended gives the lowest 64
bits of a number. -/
def render : List UInt8 → String
  | [] => ""
  | [0x00] => "0"
  | b :: r =>
    let gs := groups r
    let rest := unended r
    if gs.any (9 < ·.length) then spelled (b :: r)
    else
      dotted (b.toNat / 40 :: b.toNat % 40 :: gs.map groupValue
        ++ if rest.isEmpty then [] else [groupValue rest % UInt64.size])

/-! ### Numbers of 32 bits -/

/-- The lowest 32 bits of the number of a group. A group has at most five octets, of which the last
is then below 16. -/
def narrowValue? (g : List UInt8) : Option Nat :=
  if g.length ≤ 4 || (g.length = 5 && g.getLast?.all (· < 16)) then
    some (groupValue g % UInt32.size)
  else none

/-- The numbers of an identifier, each in 32 bits, if it has three to 39 octets. -/
def narrowNumbers? (s : List UInt8) : Option (List Nat) :=
  match s with
  | [] => none
  | b :: r =>
    let gs := groups r
    if r.length < 2 || 38 < r.length || 120 ≤ b || gs.flatten.length ≠ r.length then none
    else (gs.mapM narrowValue?).map fun ns => b.toNat / 40 :: b.toNat % 40 :: ns

/-- The numbers of 32 bits with points between them. -/
def renderNarrow (s : List UInt8) : String := dotted ((narrowNumbers? s).getD [])

end Keyring.Asn1.ObjectId
