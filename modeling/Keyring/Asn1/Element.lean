import Keyring.Number

/-!
Elements of ASN.1 as certificates are read: a tag, a length and so many octets.

The length may be written with more octets than needed, but not left open unless said otherwise.
What an element is taken for depends on the number of its tag alone, unless said otherwise.

* `Asn1.Element.read?`: the first element of some octets.
* `Asn1.skipTagged?`: passes over an element, even one whose length is left open.
* `Asn1.readSequence?`, `Asn1.readObjectId?`, `Asn1.readBitString?`, …: elements of a known kind.
-/

namespace Keyring.Asn1

/-- The classes of tags. -/
inductive TagClass where
  | universal
  | application
  | context
  | personal
  deriving Repr, DecidableEq

/-- An element. -/
structure Element where
  /-- the class of its tag -/
  tagClass : TagClass
  /-- whether it says that it consists of elements -/
  constructed : Bool
  /-- the number of its tag -/
  tag : Nat
  /-- what it holds -/
  content : List UInt8
  deriving Repr, DecidableEq

/-- The numbers of the tags in use. -/
def Tag.boolean : Nat := 1
def Tag.integer : Nat := 2
def Tag.bitString : Nat := 3
def Tag.octetString : Nat := 4
def Tag.sequence : Nat := 16
def Tag.shortTime : Nat := 23
def Tag.longTime : Nat := 24

/-- The class in the first octet of a tag. -/
def tagClassOf (b : UInt8) : TagClass :=
  if b < 0x40 then .universal
  else if b < 0x80 then .application
  else if b < 0xC0 then .context
  else .personal

/-- The number of a tag of several octets: at most five, of which 32 bits count. -/
def readLongTag? : (left : Nat) → (seen : Nat) → List UInt8 → Option (Nat × List UInt8)
  | 0, _, _ => none
  | _ + 1, _, [] => none
  | left + 1, seen, b :: r =>
    let n := (seen * 128 + b.toNat % 128) % UInt32.size
    if b < 0x80 then some (n, r) else readLongTag? left n r

/-- A tag's class, whether it says that its element is constructed, and its number. -/
def readTag? : List UInt8 → Option (TagClass × Bool × Nat × List UInt8)
  | [] => none
  | b :: r =>
    let constructed := b.toNat / 32 % 2 = 1
    if b.toNat % 32 = 31 then
      (readLongTag? 5 0 r).map fun (n, r) => (tagClassOf b, constructed, n, r)
    else some (tagClassOf b, constructed, b.toNat % 32, r)

/-- A length: one octet below 128, or the number of octets that it takes and these. -/
def readLength? : List UInt8 → Option (Nat × List UInt8)
  | [] => none
  | b :: r =>
    if b < 0x80 then some (b.toNat, r)
    else if b = 0x80 || b = 0xFF then none
    else
      let count := b.toNat - 0x80
      let n := Number.ofOctets (r.take count)
      if r.length < count || UInt64.size ≤ n then none else some (n, r.drop count)

/-- The tag and the length of an element, and what follows them. -/
def readHeader? (s : List UInt8) : Option (TagClass × Bool × Nat × Nat × List UInt8) := do
  let (c, constructed, tag, s) ← readTag? s
  let (n, s) ← readLength? s
  return (c, constructed, tag, n, s)

/-- The first element, and what follows it. -/
def Element.read? (s : List UInt8) : Option (Element × List UInt8) := do
  let (c, constructed, tag, n, s) ← readHeader? s
  if s.length < n then none else some (⟨c, constructed, tag, s.take n⟩, s.drop n)

/-- The first element if its tag has this number. -/
def readTagged? (tag : Nat) (s : List UInt8) : Option (Element × List UInt8) := do
  let (e, r) ← Element.read? s
  if e.tag = tag then some (e, r) else none

/-- The content of the first element if its tag has this number and it is not constructed. -/
def readPrimitive? (tag : Nat) (s : List UInt8) : Option (List UInt8 × List UInt8) := do
  let (e, r) ← readTagged? tag s
  if e.constructed then none else some (e.content, r)

/-! ### Lengths left open -/

/-- The deepest nesting of elements whose length is left open. -/
def openLimit : Nat := 50

/-- What follows the mark that ends an element whose length is left open, after its header; `level`
such elements have not ended yet. Each step takes octets, so `fuel` need not exceed their number. -/
def afterOpen? : (fuel : Nat) → (level : Nat) → List UInt8 → Option (List UInt8)
  | 0, _, _ => none
  | fuel + 1, level, s => do
    let (_, constructed, tag, s) ← readTag? s
    if openLimit ≤ level then none
    else if s.head? = some 0x80 then
      if constructed then afterOpen? fuel (level + 1) s.tail else none
    else
      let (n, s) ← readLength? s
      if s.length < n then none
      else if n = 0 && tag = 0 then
        if level ≤ 1 then some s else afterOpen? fuel (level - 1) s
      else afterOpen? fuel level (s.drop n)

/-- What follows the first element if its tag has this number. Its length may be left open. -/
def skipTagged? (tag : Nat) (s : List UInt8) : Option (List UInt8) := do
  let (_, constructed, t, r) ← readTag? s
  if t ≠ tag then none
  else if r.head? = some 0x80 then
    if constructed then afterOpen? r.length 1 r.tail else none
  else (Element.read? s).map (·.2)

/-! ### Elements of a known kind -/

/-- What a sequence holds. -/
def readSequence? (s : List UInt8) : Option (List UInt8 × List UInt8) :=
  (readTagged? Tag.sequence s).map fun (e, r) => (e.content, r)

/-- The octets of an object identifier. Any element that does not say that it is constructed is
taken for one. -/
def readObjectId? (s : List UInt8) : Option (List UInt8 × List UInt8) := do
  let (e, r) ← Element.read? s
  if e.constructed then none else some (e.content, r)

/-- The number of zero bits at the low end of an octet. -/
def trailingZeros (b : UInt8) : Nat :=
  ((List.range 8).find? fun i => b.toNat.testBit i).getD 8

/-- Whether octets are a string of bits: the number of bits of the last octet that do not count,
which are zero, and the octets. -/
def isBitString : List UInt8 → Bool
  | [] => false
  | [n] => n = 0
  | n :: r => (r.getLast?.map trailingZeros).all (n.toNat ≤ ·)

/-- The octets of a string of bits. -/
def readBitString? (s : List UInt8) : Option (List UInt8 × List UInt8) := do
  let (content, r) ← readPrimitive? Tag.bitString s
  if isBitString content then some (content.tail, r) else none

/-- The octets of a whole number in its shortest form. -/
def isShortest : List UInt8 → Bool
  | [] => false
  | [_] => true
  | a :: b :: _ => !(a = 0 && b < 0x80) && !(a = 0xFF && 0x80 ≤ b)

end Keyring.Asn1
