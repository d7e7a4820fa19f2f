import Keyring.Number

/-!
The distinguished encoding of ASN.1, where every value is written in one way only.

Keys are read in this encoding: lengths are as short as can be, nothing is left over, and only tags
that are in use occur.

* `Asn1.Der.read?`: the first element of some octets.
* `Asn1.Der.readAs?`, `Asn1.Der.only?`: an element with a given tag, and nothing after it.
* `Asn1.Der.readUnsigned?`: a whole number that is not negative.
* `Asn1.Der.write`, `Asn1.Der.writeUnsigned`: the encoding itself.
-/

namespace Keyring.Asn1.Der

/-- The octets of tags. -/
def integerTag : UInt8 := 0x02
def bitStringTag : UInt8 := 0x03
def octetStringTag : UInt8 := 0x04
def nullTag : UInt8 := 0x05
def objectIdTag : UInt8 := 0x06
def sequenceTag : UInt8 := 0x30

/-- The tags that are in use: some universal ones, and those of one octet in the other classes. -/
def isTag (b : UInt8) : Bool :=
  if b < 0x40 then
    [0x01, 0x02, 0x03, 0x04, 0x05, 0x06, 0x09, 0x0A, 0x0C, 0x12, 0x13, 0x14, 0x15, 0x16, 0x17, 0x18,
      0x1A, 0x1E, 0x30, 0x31].contains b
  else b.toNat % 32 ≠ 31

/-- The greatest length. -/
def lengthLimit : Nat := 0xFFFFFFF

/-- A length as short as can be, and what follows it. -/
def readLength? : List UInt8 → Option (Nat × List UInt8)
  | [] => none
  | b :: r =>
    if b < 0x80 then some (b.toNat, r)
    else
      let count := b.toNat - 0x80
      let n := Number.ofOctets (r.take count)
      if count = 0 || 4 < count || r.length < count then none
      else if n < 0x80 || n < Nat.pow 256 (count - 1) || lengthLimit < n then none
      else some (n, r.drop count)

/-- The tag and the content of the first element, and what follows it. -/
def read? : List UInt8 → Option (UInt8 × List UInt8 × List UInt8)
  | [] => none
  | b :: r => do
    let (n, s) ← readLength? r
    if !isTag b || s.length < n then none else some (b, s.take n, s.drop n)

/-- The content of the first element if it has this tag, and what follows it. -/
def readAs? (tag : UInt8) (s : List UInt8) : Option (List UInt8 × List UInt8) := do
  let (t, content, r) ← read? s
  if t = tag then some (content, r) else none

/-- The content of an element with this tag that nothing follows. All of it has at most as many
octets as the greatest length. -/
def only? (tag : UInt8) (s : List UInt8) : Option (List UInt8) := do
  let (content, r) ← readAs? tag s
  if r.isEmpty && s.length ≤ lengthLimit then some content else none

/-- Whether octets are a whole number that is not negative, as short as can be. -/
def isUnsigned : List UInt8 → Bool
  | [] => false
  | [b] => b < 0x80
  | a :: b :: _ => a < 0x80 && !(a = 0 && b < 0x80)

/-- A whole number that is not negative, and what follows it. -/
def readUnsigned? (s : List UInt8) : Option (Nat × List UInt8) := do
  let (content, r) ← readAs? integerTag s
  if isUnsigned content then some (Number.ofOctets content, r) else none

/-- The octets of a string of whole octets. -/
def wholeBits? : List UInt8 → Option (List UInt8)
  | 0x00 :: r => some r
  | _ => none

/-! ### Writing -/

/-- A length as short as can be. -/
def writeLength (n : Nat) : List UInt8 :=
  if n < 0x80 then [UInt8.ofNat n]
  else
    let count := Number.octetSize n
    UInt8.ofNat (0x80 + count) :: Number.toOctets count n

/-- An element. -/
def write (tag : UInt8) (content : List UInt8) : List UInt8 :=
  tag :: (writeLength content.length ++ content)

/-- The octets of a whole number: the top bit of the first one is zero. -/
def unsignedOctets (n : Nat) : List UInt8 := Number.toOctets (Number.bitSize n / 8 + 1) n

/-- A whole number. -/
def writeUnsigned (n : Nat) : List UInt8 := write integerTag (unsignedOctets n)

end Keyring.Asn1.Der
