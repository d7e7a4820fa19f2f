import Mathlib.NumberTheory.LucasLehmer
import Mathlib.Tactic
import Keyring.Proofs.Number.Powers
import Keyring.Proofs.Result
import Keyring.Proofs.Rsa.Signing
import Keyring.Proofs.Rsa.Uniqueness

/-!
The way by the factors, and the blinding, do not show in a signature.

* `PrivateKey.IsProper`: the numbers of a key belong together, and its factors are distinct primes.
* `IsProper.pow_mul_modEq`: the two exponents of such a key cancel out, also for multiples of a
  factor.
* `IsProper.power_eq`: the way by the factors gives the power.
* `IsProper.blindPower_eq`: so it does with every blinding.
* `IsProper.sign_eq`: what is signed with such a key.
* `Signer.sign_regardless_of_blinding`: so a signer answers with the same octets each time.
-/

namespace Keyring.Rsa

open Number (inverse? ofOctets powMod powMod_eq_pow toOctets)

/-! ### The number of a block -/

/-- The number of a block is below every modulus of its size, since the block begins with a zero. -/
lemma ofOctets_encodedMessage_lt {n : ℕ} (message : List UInt8)
    (h : leastSize ≤ Number.octetSize n) :
    ofOctets (encodedMessage (Number.octetSize n) message) < n := by
  have hlength := encodedMessage_length message h
  obtain ⟨rest, hrest⟩ : ∃ rest, encodedMessage (Number.octetSize n) message = 0x00 :: rest :=
    ⟨_, rfl⟩
  rw [hrest, List.length_cons] at hlength
  have hzero : ofOctets (0x00 :: rest) = ofOctets rest := by simp [ofOctets]
  have hlarge : ¬ n < 256 ^ rest.length := by
    rw [← Number.octetSize_le_iff]
    omega
  rw [hrest, hzero]
  exact (Number.ofOctets_lt rest).trans_le (not_lt.mp hlarge)

/-! ### Two remainders -/

/-- A number that is put together from two remainders leaves the first of them. -/
lemma joined_modEq {p q inverse : ℕ} (hp : 0 < p) (h : q * inverse ≡ 1 [MOD p]) (m₁ m₂ : ℕ) :
    (((m₁ : ℤ) - m₂) % p).toNat * inverse % p * q + m₂ ≡ m₁ [MOD p] := by
  have hdiff : ((((m₁ : ℤ) - m₂) % p).toNat : ℤ) = (m₁ - m₂) % p :=
    Int.toNat_of_nonneg (Int.emod_nonneg _ (by omega))
  have hinverse : (q : ℤ) * inverse ≡ 1 [ZMOD p] := by
    exact_mod_cast Int.natCast_modEq_iff.mpr h
  rw [← Int.natCast_modEq_iff]
  push_cast
  rw [hdiff]
  calc ((m₁ : ℤ) - m₂) % p * inverse % p * q + m₂
      ≡ (m₁ - m₂) * inverse * q + m₂ [ZMOD p] := by
        refine Int.ModEq.add_right _ (Int.ModEq.mul_right _ ?_)
        exact (Int.mod_modEq _ _).trans ((Int.mod_modEq _ _).mul_right _)
    _ = (m₁ - m₂) * (q * inverse) + m₂ := by ring
    _ ≡ (m₁ - m₂) * 1 + m₂ [ZMOD p] := (hinverse.mul_left _).add_right _
    _ = m₁ := by ring

namespace PrivateKey

variable {k : PrivateKey} {blinding : ℕ} {message : List UInt8}

/-- The numbers of a key belong together, and its factors are distinct primes. -/
structure IsProper (k : PrivateKey) : Prop where
  sound : k.isSound = true
  first : k.first.Prime
  second : k.second.Prime
  ne : k.first ≠ k.second

/-- The exponents cancel out modulo each factor less one. -/
lemma exponents_of_isSound (h : k.isSound = true) :
    k.publicKey.exponent * k.secret % (k.first - 1) = 1
      ∧ k.publicKey.exponent * k.secret % (k.second - 1) = 1 := by
  simp only [isSound, Bool.and_eq_true, decide_eq_true_eq] at h
  exact ⟨h.1.2, h.2⟩

namespace IsProper

/-! ### Both factors -/

lemma coprime (h : k.IsProper) : k.first.Coprime k.second :=
  (Nat.coprime_primes h.first h.second).mpr h.ne

lemma modulus_pos (h : k.IsProper) : 0 < k.publicKey.modulus := by
  rw [← (factors_of_isSound h.sound).2.2]
  exact Nat.mul_pos h.first.pos h.second.pos

lemma modEq_modulus (h : k.IsProper) {x y : ℕ} (hfirst : x ≡ y [MOD k.first])
    (hsecond : x ≡ y [MOD k.second]) : x ≡ y [MOD k.publicKey.modulus] := by
  rw [← (factors_of_isSound h.sound).2.2]
  exact (Nat.modEq_and_modEq_iff_modEq_mul h.coprime).mp ⟨hfirst, hsecond⟩

/-- **The exponents cancel out**, for all numbers. -/
theorem pow_mul_modEq (h : k.IsProper) (x : ℕ) :
    x ^ (k.publicKey.exponent * k.secret) ≡ x [MOD k.publicKey.modulus] := by
  obtain ⟨hfirst, hsecond⟩ := exponents_of_isSound h.sound
  exact h.modEq_modulus (Number.pow_mul_modEq h.first hfirst x)
    (Number.pow_mul_modEq h.second hsecond x)

/-- The public half of a proper key is proper. -/
lemma publicKey (h : k.IsProper) : k.publicKey.IsProper {k.first, k.second} := by
  obtain ⟨hfirst, hsecond⟩ := exponents_of_isSound h.sound
  have hcoprime : ∀ n, k.publicKey.exponent * k.secret % n = 1 → k.publicKey.exponent.Coprime n :=
    fun n hn => by
      have hone : 1 ≡ k.publicKey.exponent * k.secret [MOD n] := by
        simpa [hn] using Nat.mod_modEq (k.publicKey.exponent * k.secret) n
      exact Nat.coprime_of_mul_modEq_one _ hone.symm
  refine ⟨?_, ?_, ?_⟩
  · simp [h.first, h.second]
  · rw [Finset.prod_pair h.ne, (factors_of_isSound h.sound).2.2]
  · simpa using ⟨hcoprime _ hfirst, hcoprime _ hsecond⟩

/-! ### The power -/

/-- **The way by the factors gives the power.** The second factor has an inverse modulo the first,
so the way is always taken. -/
theorem power_eq (h : k.IsProper) (c : ℕ) :
    k.power c = c ^ k.secret % k.publicKey.modulus := by
  obtain ⟨hfirst, hsecond⟩ := exponents_of_isSound h.sound
  have hlt := power_lt h.sound c
  obtain ⟨inverse, hinverse⟩ := Number.exists_inverse?_eq_some h.coprime.symm
  have hone := Number.inverse?_eq_some h.first.pos hinverse
  suffices hmod : k.power c ≡ c ^ k.secret [MOD k.publicKey.modulus] by
    rw [← Nat.mod_eq_of_lt hlt]
    exact hmod
  simp only [power, hinverse, powMod_eq_pow]
  refine h.modEq_modulus ?_ ?_
  · calc _ ≡ c ^ (k.secret % (k.first - 1)) % k.first [MOD k.first] :=
          joined_modEq h.first.pos hone _ _
      _ ≡ c ^ (k.secret % (k.first - 1)) [MOD k.first] := Nat.mod_modEq _ _
      _ ≡ c ^ k.secret [MOD k.first] := Number.pow_mod_modEq h.first hfirst c
  · calc _ ≡ c ^ (k.secret % (k.second - 1)) % k.second [MOD k.second] := by
          simp [Nat.ModEq]
      _ ≡ c ^ (k.secret % (k.second - 1)) [MOD k.second] := Nat.mod_modEq _ _
      _ ≡ c ^ k.secret [MOD k.second] := Number.pow_mod_modEq h.second hsecond c

/-- **A blinding is taken off again**, whichever factor without a common divisor it is made with. -/
theorem blindPower_eq (h : k.IsProper) (hb : blinding.Coprime k.publicKey.modulus) (c : ℕ) :
    k.blindPower blinding c = c ^ k.secret % k.publicKey.modulus := by
  obtain ⟨inverse, hinverse⟩ := Number.exists_inverse?_eq_some hb
  have hone := Number.inverse?_eq_some h.modulus_pos hinverse
  simp only [blindPower, hinverse, powMod_eq_pow, h.power_eq]
  set n := k.publicKey.modulus
  set e := k.publicKey.exponent
  set d := k.secret
  suffices hmod : (c * (blinding ^ e % n) % n) ^ d % n * inverse ≡ c ^ d [MOD n] from hmod
  have hblinded : c * (blinding ^ e % n) % n ≡ c * blinding ^ e [MOD n] :=
    (Nat.mod_modEq _ _).trans ((Nat.mod_modEq _ _).mul_left c)
  calc (c * (blinding ^ e % n) % n) ^ d % n * inverse
      ≡ (c * (blinding ^ e % n) % n) ^ d * inverse [MOD n] := (Nat.mod_modEq _ _).mul_right _
    _ ≡ (c * blinding ^ e) ^ d * inverse [MOD n] := (hblinded.pow d).mul_right _
    _ = c ^ d * blinding ^ (e * d) * inverse := by rw [mul_pow, ← pow_mul]
    _ ≡ c ^ d * blinding * inverse [MOD n] := ((h.pow_mul_modEq blinding).mul_left _).mul_right _
    _ = c ^ d * (blinding * inverse) := mul_assoc _ _ _
    _ ≡ c ^ d * 1 [MOD n] := hone.mul_left _
    _ = c ^ d := mul_one _

/-! ### Signing -/

/-- **What is signed with a proper key** is the power of the block, whatever the blinding: the test
with the public exponent succeeds. -/
theorem sign_eq (h : k.IsProper) (hsize : leastSize ≤ k.publicKey.size)
    (hb : blinding.Coprime k.publicKey.modulus) (message : List UInt8) :
    k.sign blinding message = .ok (toOctets k.publicKey.size
      (ofOctets (encodedMessage k.publicKey.size message) ^ k.secret % k.publicKey.modulus)) := by
  have hblock : ofOctets (encodedMessage k.publicKey.size message) < k.publicKey.modulus :=
    ofOctets_encodedMessage_lt message hsize
  rw [sign]
  simp only [not_lt.mpr hsize, if_false, h.blindPower_eq hb]
  generalize ofOctets (encodedMessage k.publicKey.size message) = c at hblock
  have htest : powMod (c ^ k.secret % k.publicKey.modulus) k.publicKey.exponent
      k.publicKey.modulus = c := by
    calc powMod (c ^ k.secret % k.publicKey.modulus) k.publicKey.exponent k.publicKey.modulus
        = (c ^ k.secret) ^ k.publicKey.exponent % k.publicKey.modulus := by
          rw [powMod_eq_pow, ← Nat.pow_mod]
      _ = c ^ (k.publicKey.exponent * k.secret) % k.publicKey.modulus := by
          rw [← pow_mul, Nat.mul_comm]
      _ = c % k.publicKey.modulus := h.pow_mul_modEq c
      _ = c := Nat.mod_eq_of_lt hblock
  rw [if_pos htest]

/-- **Each message has one signature**, the octets of the secret power of its block. -/
theorem exists_signature (h : k.IsProper) (hsize : leastSize ≤ k.publicKey.size)
    (message : List UInt8) :
    ∃ signature : List UInt8, signature.length = k.publicKey.size
      ∧ ofOctets signature
        = ofOctets (encodedMessage k.publicKey.size message) ^ k.secret % k.publicKey.modulus
      ∧ ∀ blinding : ℕ, blinding.Coprime k.publicKey.modulus →
        k.sign blinding message = .ok signature := by
  set m := ofOctets (encodedMessage k.publicKey.size message) ^ k.secret % k.publicKey.modulus
    with hm
  have hfits : m < 256 ^ k.publicKey.size :=
    (Nat.mod_lt _ h.modulus_pos).trans (Number.octetSize_le_iff.mp le_rfl)
  refine ⟨toOctets k.publicKey.size m, Number.toOctets_length _ _, ?_, fun blinding hb => ?_⟩
  · rw [Number.ofOctets_toOctets, Nat.mod_eq_of_lt hfits]
  · rw [h.sign_eq hsize hb, hm]

end IsProper

end PrivateKey

/-! ### A key with two Mersenne primes -/

/-- The key with the factors 2^521 - 1 and 2^127 - 1. -/
def mersenneKey : PrivateKey where
  publicKey := ⟨(2 ^ 521 - 1) * (2 ^ 127 - 1), 65537⟩
  secret := (1 + 10880 * ((2 ^ 521 - 2) * (2 ^ 127 - 2))) / 65537
  first := 2 ^ 521 - 1
  second := 2 ^ 127 - 1

lemma mersenneKey_isProper : mersenneKey.IsProper where
  sound := by decide +kernel
  first := lucas_lehmer_sufficiency 521 (by norm_num) (by norm_num)
  second := lucas_lehmer_sufficiency 127 (by norm_num) (by norm_num)
  ne := by decide +kernel

/-- Octets as an armoured block with the label `A`, in one line. -/
def armoured (der : List UInt8) : String :=
  let data := Base64.encode .standard der
  let padding := List.replicate ((4 - data.length % 4) % 4) Base64.pad
  String.ofList ((Pem.beginMarker ++ [0x41] ++ Pem.hyphens ++ [0x0A] ++ data ++ padding ++ [0x0A]
    ++ Pem.endMarker ++ [0x41] ++ Pem.hyphens).map fun b : UInt8 => Char.ofNat b.toNat)

lemma ofPem_mersenneKey :
    PrivateKey.ofPem (armoured (mersenneKey.toNumbers [0, 0, 0])) = .ok mersenneKey := by
  rw [PrivateKey.ofPem, armoured, String.toList_ofList]
  exact eq_ok_iff_toOption.mpr (by decide +kernel)

end Keyring.Rsa

namespace Keyring.Signer

variable {pem : String} {key : Rsa.PrivateKey} {signer : Signer}

/-- **Signing depends neither on the blinding nor on the way by the factors.** Take a signer with a
private key that was read. If its factors are distinct primes and the modulus has room for a block,
then each content has one signature: it has as many octets as the modulus, its number is that of the
block to the secret exponent modulo the modulus, and it is the answer for every factor of blinding
that has an inverse, as all those have that signing is done with. Without room for a block nothing
is signed. -/
theorem sign_regardless_of_blinding (hkey : Rsa.PrivateKey.ofPem pem = .ok key)
    (hsigner : signer.key = some key) :
    (key.first.Prime → key.second.Prime → key.first ≠ key.second →
        Rsa.leastSize ≤ key.publicKey.size → ∀ content : List UInt8, ∃ signature : List UInt8,
        signature.length = key.publicKey.size
          ∧ Number.ofOctets signature
            = Number.ofOctets (Rsa.encodedMessage key.publicKey.size content) ^ key.secret
              % key.publicKey.modulus
          ∧ ∀ blinding : ℕ, blinding.Coprime key.publicKey.modulus →
            signer.sign blinding content = .ok signature)
      ∧ (key.publicKey.size < Rsa.leastSize → ∀ (blinding : ℕ) (content : List UInt8),
        signer.sign blinding content = .error (.signature (.signing .tooLong))) := by
  have hsign : ∀ blinding content, signer.sign blinding content
      = (key.sign blinding content).mapError fun f => .signature (.signing f) := by
    intro blinding content
    rw [sign, hsigner]
  constructor
  · intro hfirst hsecond hne hroom content
    have hproper : key.IsProper :=
      ⟨Rsa.PrivateKey.isSound_of_ofPem hkey, hfirst, hsecond, hne⟩
    obtain ⟨signature, hlength, hnumber, hsigned⟩ := hproper.exists_signature hroom content
    refine ⟨signature, hlength, hnumber, fun blinding hb => ?_⟩
    rw [hsign, hsigned blinding hb, Except.mapError]
  · intro hshort blinding content
    rw [hsign, Rsa.PrivateKey.sign]
    simp [hshort, Except.mapError]

/-- A key with the factors 3 and 5. Its modulus has no room for a block. -/
def shortKey : Rsa.PrivateKey := ⟨⟨15, 3⟩, 3, 3, 5⟩

/-- With the two Mersenne primes blinding by 2 and by 3 comes to the same; with the factors 3 and 5
nothing is signed. -/
theorem sign_regardless_of_blinding_sample :
    Rsa.PrivateKey.ofPem (Rsa.armoured (Rsa.mersenneKey.toNumbers [0, 0, 0])) = .ok Rsa.mersenneKey
      ∧ (∃ signature : List UInt8, signature.length = 81
        ∧ sign ⟨"a", some Rsa.mersenneKey⟩ 2 [0x61] = .ok signature
        ∧ sign ⟨"a", some Rsa.mersenneKey⟩ 3 [0x61] = .ok signature)
      ∧ Rsa.PrivateKey.ofPem (Rsa.armoured (shortKey.toNumbers [0, 0, 0])) = .ok shortKey
      ∧ sign ⟨"a", some shortKey⟩ 2 [0x61] = .error (.signature (.signing .tooLong)) := by
  have hshort : Rsa.PrivateKey.ofPem (Rsa.armoured (shortKey.toNumbers [0, 0, 0]))
      = .ok shortKey := by
    rw [Rsa.PrivateKey.ofPem, Rsa.armoured, String.toList_ofList]
    exact eq_ok_iff_toOption.mpr (by decide +kernel)
  have hproper := Rsa.mersenneKey_isProper
  have hkey : key ⟨"a", some Rsa.mersenneKey⟩ = some Rsa.mersenneKey := rfl
  have hother : key ⟨"a", some shortKey⟩ = some shortKey := rfl
  obtain ⟨hsigns, -⟩ := sign_regardless_of_blinding Rsa.ofPem_mersenneKey hkey
  obtain ⟨signature, hlength, -, hsigned⟩ :=
    hsigns hproper.first hproper.second hproper.ne (by decide +kernel) [0x61]
  have hsize : Rsa.mersenneKey.publicKey.size = 81 := by decide +kernel
  obtain ⟨-, hrefused⟩ := sign_regardless_of_blinding hshort hother
  exact ⟨Rsa.ofPem_mersenneKey, ⟨signature, hlength.trans hsize, hsigned 2 (by decide +kernel),
    hsigned 3 (by decide +kernel)⟩, hshort, hrefused (by decide +kernel) 2 [0x61]⟩

end Keyring.Signer
