import Mathlib.Tactic
import Keyring.Proofs.Number.Powers
import Keyring.Proofs.Rsa.Verification

/-!
What a signature leaves open.

* `PublicKey.Signs.digest_eq`: it belongs to one digest, whatever the numbers of the key are.
* `PublicKey.Signs.of_digest_eq`: it signs every message with this digest.
* `PublicKey.IsProper`: the modulus is a product of distinct primes, and the exponent has no
  common divisor with any of them less one.
* `PublicKey.Signs.eq`: with such a key a message has one signature at most.
-/

namespace Keyring.Rsa

open Number (ofOctets)

/-! ### One digest -/

/-- The number of a block tells the digest that the block ends with. -/
lemma digest_eq_of_encodedMessage {size : ℕ} {m m' : List UInt8} (hsize : leastSize ≤ size)
    (h : ofOctets (encodedMessage size m) = ofOctets (encodedMessage size m')) :
    Sha256.digest m = Sha256.digest m' := by
  have hlength : (encodedMessage size m).length = (encodedMessage size m').length := by
    rw [encodedMessage_length m hsize, encodedMessage_length m' hsize]
  exact List.append_cancel_left ((Number.ofOctets_inj hlength).mp h)

namespace PublicKey

variable {k : PublicKey} {m m' s s' : List UInt8}

/-- **A signature belongs to one digest**: all messages that it is a signature of have the same. -/
theorem Signs.digest_eq (h : k.Signs m s) (h' : k.Signs m' s) :
    Sha256.digest m = Sha256.digest m' :=
  digest_eq_of_encodedMessage h.room (h.power.symm.trans h'.power)

/-- A signature of one message is a signature of every message with the same digest. -/
lemma Signs.of_digest_eq (h : k.Signs m s) (hd : Sha256.digest m = Sha256.digest m') :
    k.Signs m' s where
  room := h.room
  length := h.length
  range := h.range
  power := by rw [h.power, encodedMessage, encodedMessage, hd]

/-! ### One signature -/

/-- The modulus is the product of distinct primes, and the exponent has no common divisor with any
of them less one. -/
structure IsProper (k : PublicKey) (primes : Finset ℕ) : Prop where
  prime : ∀ p ∈ primes, p.Prime
  modulus : k.modulus = ∏ p ∈ primes, p
  coprime : ∀ p ∈ primes, k.exponent.Coprime (p - 1)

/-- The exponent of a proper key is zero only if its modulus is too short for a block. -/
lemma IsProper.exponent_ne_zero {primes : Finset ℕ} (h : k.IsProper primes)
    (hroom : leastSize ≤ k.size) : k.exponent ≠ 0 := by
  intro hzero
  -- zero has a common divisor with every number but one, so that two is the only prime
  have htwo : ∀ p ∈ primes, p = 2 := fun p hp => by
    have hcoprime := h.coprime p hp
    rw [hzero, Nat.coprime_zero_left] at hcoprime
    omega
  have hdvd : k.modulus ∣ 2 := by
    rw [h.modulus]
    exact Finset.prod_primes_dvd 2 (fun p hp => (h.prime p hp).prime)
      fun p hp => (htwo p hp).dvd
  have hsmall : k.modulus < 256 ^ 1 := (Nat.le_of_dvd two_pos hdvd).trans_lt (by decide)
  have hsize : k.size ≤ 1 := Number.octetSize_le_iff.mpr hsmall
  rw [leastSize] at hroom
  omega

/-- **A message has one signature at most** with a proper key. -/
theorem Signs.eq {primes : Finset ℕ} (hk : k.IsProper primes) (h : k.Signs m s)
    (h' : k.Signs m s') : s = s' := by
  refine (Number.ofOctets_inj (h.length.trans h'.length.symm)).mp ?_
  exact Number.eq_of_pow_mod_eq hk.prime hk.modulus hk.coprime (hk.exponent_ne_zero h.room)
    h.range h'.range (h.power.trans h'.power.symm)

end PublicKey

end Keyring.Rsa
