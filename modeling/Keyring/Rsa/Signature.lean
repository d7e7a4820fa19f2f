import Keyring.Asn1.Der
import Keyring.Rsa.Key
import Keyring.Sha256

/-!
RSA signatures of SHA-256 digests (RFC 8017, RSASSA-PKCS1-v1_5).

* `Rsa.encodedMessage`: the block that is signed: padding, the name of the digest, the digest.
* `Rsa.isBlockOf`: whether a block is that of a digest, part by part.
* `Rsa.PublicKey.verifies`: whether a signature of a message is one of the key.
* `Rsa.PrivateKey.sign`: the signature of a message. The secret exponent is applied to a blinded
  block; the factors shorten the way where the second has an inverse modulo the first. The result is
  tested with the public exponent before it leaves.
-/

namespace Keyring.Rsa

/-- The encoding of a digest's name, which precedes the digest. -/
def digestName : List UInt8 :=
  [0x30, 0x31, 0x30, 0x0D, 0x06, 0x09, 0x60, 0x86, 0x48, 0x01, 0x65, 0x03, 0x04, 0x02, 0x01, 0x05,
    0x00, 0x04, 0x20]

/-- The least number of octets of a modulus that a block fits in. -/
def leastSize : Nat := 62

/-- The block of so many octets for a message. -/
def encodedMessage (size : Nat) (message : List UInt8) : List UInt8 :=
  [0x00, 0x01] ++ List.replicate (size - 54) 0xFF ++ [0x00] ++ digestName ++ Sha256.digest message

/-- Whether a block is that of a digest. It has to be long enough for one; then its parts are looked
at, each by itself: the two octets that it begins with, the digest at its end, the name before it,
the zero before that, and the padding. -/
def isBlockOf (digest block : List UInt8) : Bool :=
  let size := block.length
  let named := digestName.length + digest.length
  if _h : named + 11 ≤ size then
    block[0] = 0x00 && block[1] = 0x01
      && block.drop (size - digest.length) = digest
      && (block.drop (size - named)).take digestName.length = digestName
      && block[size - named - 1] = 0x00
      && ((block.drop 2).take (size - named - 3)).all (· = 0xFF)
  else false

/-- Whether a signature of a message is one of the key: it is below the modulus, has as many octets,
and its power is the block of the message's digest. Nothing is below zero, so that no power is taken
modulo zero. -/
def PublicKey.verifies (k : PublicKey) (message signature : List UInt8) : Bool :=
  let s := Number.ofOctets signature
  if k.modulus ≤ s || signature.length ≠ k.size then false
  else
    match Number.toOctets? k.size (Number.powMod s k.exponent k.modulus) with
    | some block => isBlockOf (Sha256.digest message) block
    | none => false

/-- Why a message is not signed. -/
inductive SigningFault where
  /-- The block does not fit the modulus. -/
  | tooLong
  /-- The result does not fit the public exponent. -/
  | inconsistent
  deriving Repr, DecidableEq

/-- The wording of a fault. -/
def SigningFault.message : SigningFault → String
  | .tooLong => "message too long"
  | .inconsistent => "internal error"

/-- A number to the secret exponent modulo the modulus, by the factors where they allow it. The
difference of the two powers may be below zero. It is then enlarged by the first factor, again and
again until it is not; what this comes to is its remainder, written here at once. -/
def PrivateKey.power (k : PrivateKey) (c : Nat) : Nat :=
  match Number.inverse? k.second k.first with
  | none => Number.powMod c k.secret k.publicKey.modulus
  | some inverse =>
    let m₁ := Number.powMod c (k.secret % (k.first - 1)) k.first
    let m₂ := Number.powMod c (k.secret % (k.second - 1)) k.second
    let h := (((m₁ : Int) - m₂) % k.first).toNat * inverse % k.first
    h * k.second + m₂

/-- The secret exponent applied to a number that is blinded by a factor, and the blinding taken off
again. -/
def PrivateKey.blindPower (k : PrivateKey) (blinding c : Nat) : Nat :=
  let n := k.publicKey.modulus
  let blinded := c * Number.powMod blinding k.publicKey.exponent n % n
  match Number.inverse? blinding n with
  | some inverse => k.power blinded * inverse % n
  | none => k.power blinded

/-- The signature of a message. The blinding factor is any number that has an inverse modulo the
modulus; it does not show in a signature. -/
def PrivateKey.sign (k : PrivateKey) (blinding : Nat) (message : List UInt8) :
    Except SigningFault (List UInt8) :=
  let size := k.publicKey.size
  if size < leastSize then .error .tooLong
  else
    let c := Number.ofOctets (encodedMessage size message)
    let m := k.blindPower blinding c
    if Number.powMod m k.publicKey.exponent k.publicKey.modulus = c then
      .ok (Number.toOctets size m)
    else .error .inconsistent

end Keyring.Rsa
