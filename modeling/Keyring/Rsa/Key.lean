import Keyring.Number

/-!
RSA keys.

* `Rsa.PublicKey`, `Rsa.PrivateKey`: a key as its numbers; any numbers make one.
* `Rsa.PublicKey.isUsable`, `Rsa.PrivateKey.isSound`: what is asked of keys that are read.
-/

namespace Keyring.Rsa

/-- The public half of a key. -/
structure PublicKey where
  /-- the modulus -/
  modulus : Nat
  /-- the public exponent -/
  exponent : Nat
  deriving Repr, DecidableEq

/-- The number of octets of the modulus. -/
def PublicKey.size (k : PublicKey) : Nat := Number.octetSize k.modulus

/-- The greatest number of bits of a modulus. -/
def modulusBits : Nat := 4096

/-- The greatest public exponent. -/
def greatestExponent : Nat := 0x1FFFFFFFF

/-- Whether the numbers can be those of a key: both are odd, the exponent is below the modulus, and
neither is too large. -/
def PublicKey.isUsable (k : PublicKey) : Bool :=
  Number.bitSize k.modulus ≤ modulusBits && k.exponent < k.modulus && k.modulus % 2 = 1
    && k.exponent % 2 = 1 && 2 ≤ k.exponent && k.exponent ≤ greatestExponent

/-- A key with its secret numbers. -/
structure PrivateKey where
  /-- the public half -/
  publicKey : PublicKey
  /-- the secret exponent -/
  secret : Nat
  /-- the first factor of the modulus -/
  first : Nat
  /-- the second factor of the modulus -/
  second : Nat
  deriving Repr, DecidableEq

/-- Whether the numbers belong together: the factors make the modulus, and the two exponents cancel
out modulo each factor less one. The factors need not be prime. -/
def PrivateKey.isSound (k : PrivateKey) : Bool :=
  let product := k.publicKey.exponent * k.secret
  k.publicKey.isUsable && 1 < k.first && 1 < k.second && k.first * k.second = k.publicKey.modulus
    && product % (k.first - 1) = 1 && product % (k.second - 1) = 1

end Keyring.Rsa
