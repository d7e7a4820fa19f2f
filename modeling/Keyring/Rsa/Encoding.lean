import Keyring.Asn1.Der
import Keyring.Asn1.ObjectId
import Keyring.Rsa.Key

/-!
RSA keys in the distinguished encoding.

* `Rsa.PublicKey.ofInfo?`: the public key in the subject's key of a certificate.
* `Rsa.PrivateKey.ofNumbers?`: the private key in the sequence of its numbers (PKCS#1).
* `Rsa.KeyInfo.read?`: a private key of any algorithm with the identifier of that (PKCS#8).
* `Rsa.PrivateKey.ofInfo?`: the private key in such a wrapping.
* `Rsa.PublicKey.toInfo`: the encoding of a public key.
-/

namespace Keyring.Rsa

open Asn1

/-! ### Algorithms -/

/-- The identifier of an algorithm and its parameters. -/
structure Algorithm where
  /-- the octets of the identifier -/
  oid : List UInt8
  /-- the tag and the content of the parameters -/
  parameters : Option (UInt8 × List UInt8)
  deriving Repr, DecidableEq

/-- RSA, whose parameters are null. -/
def Algorithm.rsa : Algorithm := ⟨ObjectId.rsaEncryption, some (Der.nullTag, [])⟩

/-- An algorithm, and what follows it. -/
def Algorithm.read? (s : List UInt8) : Option (Algorithm × List UInt8) := do
  let (content, r) ← Der.readAs? Der.sequenceTag s
  let (oid, rest) ← Der.readAs? Der.objectIdTag content
  if (ObjectId.narrowNumbers? oid).isNone then none
  else if rest.isEmpty then some (⟨oid, none⟩, r)
  else
    let (tag, value, rest) ← Der.read? rest
    if rest.isEmpty then some (⟨oid, some (tag, value)⟩, r) else none

/-! ### Public keys -/

/-- The key in the sequence of its numbers. -/
def PublicKey.ofNumbers? (s : List UInt8) : Option PublicKey := do
  let content ← Der.only? Der.sequenceTag s
  let (modulus, rest) ← Der.readUnsigned? content
  let (exponent, rest) ← Der.readUnsigned? rest
  if rest.isEmpty then some ⟨modulus, exponent⟩ else none

/-- The key in an element that names the algorithm. -/
def PublicKey.ofInfo? (s : List UInt8) : Option PublicKey := do
  let content ← Der.only? Der.sequenceTag s
  let (algorithm, rest) ← Algorithm.read? content
  let bits ← Der.only? Der.bitStringTag rest
  let numbers ← Der.wholeBits? bits
  let key ← PublicKey.ofNumbers? numbers
  if algorithm = .rsa && key.isUsable then some key else none

/-- The sequence of a key's numbers. -/
def PublicKey.toNumbers (k : PublicKey) : List UInt8 :=
  Der.write Der.sequenceTag (Der.writeUnsigned k.modulus ++ Der.writeUnsigned k.exponent)

/-- A key in an element that names the algorithm. -/
def PublicKey.toInfo (k : PublicKey) : List UInt8 :=
  Der.write Der.sequenceTag
    (Der.write Der.sequenceTag
        (Der.write Der.objectIdTag ObjectId.rsaEncryption ++ Der.write Der.nullTag [])
      ++ Der.write Der.bitStringTag (0x00 :: k.toNumbers))

/-! ### Private keys -/

/-- The key in the sequence of its numbers: modulus, exponents, factors, and three numbers that
follow from these and are not used. -/
def PrivateKey.ofNumbers? (s : List UInt8) : Option PrivateKey := do
  let content ← Der.only? Der.sequenceTag s
  let (version, s) ← Der.readUnsigned? content
  let (modulus, s) ← Der.readUnsigned? s
  let (exponent, s) ← Der.readUnsigned? s
  let (secret, s) ← Der.readUnsigned? s
  let (first, s) ← Der.readUnsigned? s
  let (second, s) ← Der.readUnsigned? s
  let (_, s) ← Der.readUnsigned? s
  let (_, s) ← Der.readUnsigned? s
  let (_, s) ← Der.readUnsigned? s
  let key : PrivateKey := ⟨⟨modulus, exponent⟩, secret, first, second⟩
  if version = 0 && s.isEmpty && key.isSound then some key else none

/-- A private key of any algorithm. -/
structure KeyInfo where
  /-- the algorithm -/
  algorithm : Algorithm
  /-- the octets of the key -/
  key : List UInt8
  deriving Repr, DecidableEq

/-- The octets of tags of attributes. -/
def isContextTag (b : UInt8) : Bool := 0x80 ≤ b && b < 0xC0

/-- Whether octets are elements with tags of their context, each of which holds one element. Each
takes octets, so `fuel` need not exceed their number. -/
def areAttributes : (fuel : Nat) → List UInt8 → Bool
  | 0, s => s.isEmpty
  | fuel + 1, s =>
    s.isEmpty ||
      match Der.read? s with
      | some (tag, content, r) =>
        isContextTag tag && tag.toNat / 32 % 2 = 1 && (Der.read? content).any (·.2.2.isEmpty)
          && areAttributes fuel r
      | none => false

/-- What follows the elements whose tags in their context are below one. Each takes octets, so
`fuel` need not exceed their number. -/
def skipAttributes? : (fuel : Nat) → List UInt8 → Option (List UInt8)
  | 0, s => some s
  | fuel + 1, s =>
    match s with
    | [] => some []
    | b :: _ =>
      if isContextTag b && b.toNat % 32 = 0 then do
        let (_, _, r) ← Der.read? s
        skipAttributes? fuel r
      else some s

/-- Whether octets are what may follow a key: attributes, and in version 1 the public key. -/
def isKeyTail (version : Nat) (s : List UInt8) : Bool :=
  match skipAttributes? s.length s with
  | none => false
  | some [] => version = 0
  | some (b :: r) =>
    if isContextTag b && b.toNat % 32 = 1 then
      match Der.read? (b :: r) with
      | some (_, content, rest) =>
        version = 1 && b = 0x81 && (Der.wholeBits? content).isSome && areAttributes rest.length rest
      | none => false
    else version = 0 && areAttributes (b :: r).length (b :: r)

/-- A private key with the identifier of its algorithm. -/
def KeyInfo.read? (s : List UInt8) : Option KeyInfo := do
  let content ← Der.only? Der.sequenceTag s
  let (version, s) ← Der.readUnsigned? content
  let (algorithm, s) ← Algorithm.read? s
  let (key, s) ← Der.readAs? Der.octetStringTag s
  if version ≤ 1 && isKeyTail version s then some ⟨algorithm, key⟩ else none

/-- The key in an element that names the algorithm. -/
def PrivateKey.ofInfo? (s : List UInt8) : Option PrivateKey := do
  let info ← KeyInfo.read? s
  if info.algorithm = .rsa then PrivateKey.ofNumbers? info.key else none

/-- The sequence of a key's numbers; the last three are given. -/
def PrivateKey.toNumbers (k : PrivateKey) (extra : List Nat) : List UInt8 :=
  Der.write Der.sequenceTag
    (([0, k.publicKey.modulus, k.publicKey.exponent, k.secret, k.first, k.second] ++ extra).flatMap
      Der.writeUnsigned)

/-- A private key with the identifier of its algorithm. -/
def KeyInfo.write (algorithm : List UInt8) (key : List UInt8) : List UInt8 :=
  Der.write Der.sequenceTag
    (Der.writeUnsigned 0
      ++ Der.write Der.sequenceTag (Der.write Der.objectIdTag algorithm ++ Der.write Der.nullTag [])
      ++ Der.write Der.octetStringTag key)

end Keyring.Rsa
