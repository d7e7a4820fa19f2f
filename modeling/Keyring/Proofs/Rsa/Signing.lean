import Mathlib.Tactic
import Keyring.Proofs.Rsa.Verification
import Keyring.Signer

/-!
What a private key signs, its public half accepts.

* `PrivateKey.isSound_of_ofPem`: the numbers of a key that was read belong together.
* `raise`: a number enlarged until it is not below zero; `PrivateKey.power_eq_raise`: the way by the
  factors may take the difference of its two powers so.
* `PrivateKey.power_lt`, `PrivateKey.blindPower_lt`: the number of a signature is below the modulus.
* `PrivateKey.signs_of_sign`: what comes out of signing is a signature. Nothing is asked of the
  factors but that they make the modulus, since the result is tested before it leaves.
-/

namespace Keyring.Rsa

open Number (ofOctets toOctets)

/-! ### A difference below zero -/

/-- A number to which `p` is added until it is not below zero. -/
def raise (p : ℕ) (m : ℤ) : ℤ := if m < 0 ∧ 0 < p then raise p (m + p) else m
termination_by (-m).toNat

lemma raise_nonneg {p : ℕ} (hp : 0 < p) (m : ℤ) : 0 ≤ raise p m := by
  fun_induction raise p m with
  | case1 m h ih => exact ih
  | case2 m h => exact not_lt.mp fun hm => h ⟨hm, hp⟩

/-- Adding leaves the remainder. -/
lemma raise_emod (p : ℕ) (m : ℤ) : raise p m % p = m % p := by
  fun_induction raise p m with
  | case1 m h ih => rw [ih, Int.add_emod_right]
  | case2 m h => rfl

namespace PrivateKey

variable {k : PrivateKey} {message signature : List UInt8} {blinding : ℕ}

/-! ### Keys that were read -/

lemma isSound_of_ofNumbers? {s : List UInt8} (h : ofNumbers? s = some k) : k.isSound = true := by
  simp only [ofNumbers?, Option.bind_eq_bind, Option.bind_eq_some_iff, Prod.exists] at h
  obtain ⟨_, -, _, _, -, _, _, -, _, _, -, _, _, -, _, _, -, _, _, -, _, _, -, _, _, -, _, _, -, h⟩
    := h
  split_ifs at h with hsound
  obtain rfl := Option.some.inj h
  exact (Bool.and_eq_true_iff.mp hsound).2

lemma isSound_of_ofInfo? {s : List UInt8} (h : ofInfo? s = some k) : k.isSound = true := by
  obtain ⟨info, -, h⟩ := Option.bind_eq_some_iff.mp h
  split_ifs at h
  exact isSound_of_ofNumbers? h

lemma isSound_of_ofDer {der : List UInt8} (h : ofDer der = .ok k) : k.isSound = true := by
  rw [ofDer] at h
  cases hi : ofInfo? der with
  | some key =>
      obtain rfl : key = k := by simpa [hi] using h
      exact isSound_of_ofInfo? hi
  | none =>
      cases hn : ofNumbers? der with
      | some key =>
          obtain rfl : key = k := by simpa [hi, hn] using h
          exact isSound_of_ofNumbers? hn
      | none =>
          simp only [hi, hn] at h
          cases ho : otherAlgorithm? der <;> simp [ho] at h

/-- **The numbers of a key that was read belong together.** -/
theorem isSound_of_ofPem {text : String} (h : ofPem text = .ok k) : k.isSound = true := by
  rw [ofPem] at h
  cases hp : Pem.contents (Utf8.encode text.toList) with
  | error f => simp [hp] at h
  | ok der => exact isSound_of_ofDer (by simpa [hp] using h)

lemma factors_of_isSound (h : k.isSound = true) :
    1 < k.first ∧ 1 < k.second ∧ k.first * k.second = k.publicKey.modulus := by
  simp only [isSound, Bool.and_eq_true, decide_eq_true_eq] at h
  exact ⟨h.1.1.1.1.2, h.1.1.1.2, h.1.1.2⟩

/-! ### The number of a signature -/

/-- **The way by the factors may enlarge the difference**: adding the first factor until it is not
below zero comes to the same as the remainder. -/
theorem power_eq_raise {inverse : ℕ} (hfirst : 0 < k.first)
    (h : Number.inverse? k.second k.first = some inverse) (c : ℕ) :
    k.power c =
      (raise k.first
          (Number.powMod c (k.secret % (k.first - 1)) k.first
            - Number.powMod c (k.secret % (k.second - 1)) k.second)).toNat
        * inverse % k.first * k.second
        + Number.powMod c (k.secret % (k.second - 1)) k.second := by
  simp only [power, h]
  generalize (Number.powMod c _ k.first : ℤ) - Number.powMod c _ k.second = m
  have hsame : (m % k.first).toNat ≡ (raise k.first m).toNat [MOD k.first] := by
    rw [← Int.natCast_modEq_iff, Int.toNat_of_nonneg (Int.emod_nonneg _ (by omega)),
      Int.toNat_of_nonneg (raise_nonneg hfirst m)]
    exact (Int.mod_modEq m _).trans (raise_emod k.first m).symm
  rw [(hsame.mul_right inverse : _ % _ = _ % _)]

/-- A power that was taken is below the modulus, by the factors or without them. -/
lemma power_lt (h : k.isSound = true) (c : ℕ) : k.power c < k.publicKey.modulus := by
  obtain ⟨hfirst, hsecond, hproduct⟩ := factors_of_isSound h
  have hpow : ∀ b e n, 0 < n → Number.powMod b e n < n := by
    intro b e n hn
    rw [Number.powMod_eq]
    exact Nat.mod_lt _ hn
  rw [power]
  cases Number.inverse? k.second k.first with
  | none =>
      refine hpow _ _ _ ?_
      rw [← hproduct]
      positivity
  | some inverse =>
      dsimp only
      have hm := hpow c (k.secret % (k.second - 1)) k.second (by omega)
      generalize Number.powMod c (k.secret % (k.second - 1)) k.second = m at hm
      have hh : ∀ x, x % k.first + 1 ≤ k.first := fun x => Nat.mod_lt x (by omega)
      rw [← hproduct]
      calc _ < (_ % k.first) * k.second + k.second := Nat.add_lt_add_left hm _
        _ = (_ % k.first + 1) * k.second := (Nat.succ_mul _ _).symm
        _ ≤ k.first * k.second := Nat.mul_le_mul_right _ (hh _)

/-- A power that was taken with a blinding is below the modulus. -/
lemma blindPower_lt (h : k.isSound = true) (blinding c : ℕ) :
    k.blindPower blinding c < k.publicKey.modulus := by
  have hpos : 0 < k.publicKey.modulus := Nat.zero_lt_of_lt (power_lt h c)
  rw [blindPower]
  cases Number.inverse? blinding k.publicKey.modulus with
  | none => exact power_lt h _
  | some inverse => exact Nat.mod_lt _ hpos

/-! ### Signing -/

/-- **What a key signs is a signature**, in the sense of `PublicKey.Signs`. -/
theorem signs_of_sign (h : k.isSound = true) (hs : k.sign blinding message = .ok signature) :
    k.publicKey.Signs message signature := by
  have hrange := blindPower_lt h blinding (ofOctets (encodedMessage k.publicKey.size message))
  rw [sign] at hs
  dsimp only at hs
  split_ifs at hs with hsize hpower
  obtain rfl := Except.ok.inj hs
  have hnumber : ofOctets (toOctets k.publicKey.size
      (k.blindPower blinding (ofOctets (encodedMessage k.publicKey.size message))))
      = k.blindPower blinding (ofOctets (encodedMessage k.publicKey.size message)) := by
    rw [Number.ofOctets_toOctets]
    exact Nat.mod_eq_of_lt (hrange.trans (Number.octetSize_le_iff.mp le_rfl))
  refine ⟨not_lt.mp hsize, Number.toOctets_length _ _, ?_, ?_⟩
  · rw [hnumber]
    exact hrange
  · rw [hnumber]
    exact (Number.powMod_eq _ _ _).symm.trans hpower

end PrivateKey

end Keyring.Rsa
