import Mathlib.Algebra.BigOperators.Associated
import Mathlib.Data.Nat.ChineseRemainder
import Mathlib.FieldTheory.Finite.Basic
import Mathlib.Tactic
import Keyring.Number

/-!
Inverses and powers modulo primes and products of distinct primes.

* `bezout_eq`: what is found beside the greatest common divisor makes this divisor.
* `inverse?_eq_some`, `exists_inverse?_eq_some`: an inverse that is found is one, and there is one
  for every number without a common divisor.
* `pow_modEq_pow`: exponents count modulo the prime less one, also for multiples of the prime.
* `pow_mul_modEq`: two exponents that cancel out there give every number back.
* `modEq_prod`: what is congruent modulo distinct primes is so modulo their product.
* `eq_of_pow_mod_eq`: a power with such an exponent tells numbers below the product apart.
-/

namespace Keyring.Number

/-! ### Inverses -/

/-- What is found is the greatest common divisor, and the multiples that make it. -/
lemma bezout_eq (a b : ℕ) :
    (bezout a b).1 = a.gcd b
      ∧ (a : ℤ) * (bezout a b).2.1 + b * (bezout a b).2.2 = a.gcd b := by
  fun_induction bezout a b with
  | case1 b => simp
  | case2 a b ha g x y hrec ih =>
      rw [hrec] at ih
      obtain ⟨hg, hxy⟩ := ih
      rw [Nat.gcd_rec]
      refine ⟨hg, ?_⟩
      have hdiv : (b : ℤ) = a * (b / a : ℕ) + (b % a : ℕ) := by
        exact_mod_cast (Nat.div_add_mod b a).symm
      rw [← hxy]
      linear_combination x * hdiv

variable {a n x : ℕ}

/-- An inverse that is found is one. -/
lemma inverse?_eq_some (hn : 0 < n) (h : inverse? a n = some x) : a * x ≡ 1 [MOD n] := by
  obtain ⟨hg, hxy⟩ := bezout_eq (a % n) n
  rw [inverse?] at h
  generalize bezout (a % n) n = r at h hg hxy
  obtain ⟨g, u, v⟩ := r
  dsimp only at h hg hxy
  split_ifs at h with hone
  obtain rfl := Option.some.inj h
  have hu : ((u % (n : ℤ)).toNat : ℤ) = u % n :=
    Int.toNat_of_nonneg (Int.emod_nonneg u (by omega))
  rw [← hg, hone] at hxy
  rw [← Int.natCast_modEq_iff]
  push_cast at hxy ⊢
  rw [hu]
  calc (a : ℤ) * (u % n) ≡ a % n * u [ZMOD n] :=
        ((Int.mod_modEq a n).symm).mul (Int.mod_modEq u n)
    _ ≡ a % n * u + n * v [ZMOD n] := by simp [Int.ModEq]
    _ = 1 := hxy

/-- There is an inverse of a number without a common divisor. -/
lemma exists_inverse?_eq_some (h : a.Coprime n) : ∃ x, inverse? a n = some x := by
  have hg : (bezout (a % n) n).1 = 1 := by
    rw [(bezout_eq _ _).1, ← Nat.gcd_rec, Nat.gcd_comm]
    exact h
  exact ⟨_, by rw [inverse?]; exact if_pos hg⟩

/-! ### Powers modulo a prime -/

lemma powMod_eq_pow (b e n : ℕ) : powMod b e n = b ^ e % n := powMod_eq b e n

variable {p d e : ℕ}

/-- **Exponents count modulo the prime less one**, unless they are zero. -/
theorem pow_modEq_pow (hp : p.Prime) (hd : d ≠ 0) (he : e ≠ 0) (h : d ≡ e [MOD p - 1]) (x : ℕ) :
    x ^ d ≡ x ^ e [MOD p] := by
  wlog hle : d ≤ e generalizing d e with hflip
  · exact (hflip he hd h.symm (Nat.le_of_not_le hle)).symm
  by_cases hx : p ∣ x
  · -- a multiple of the prime has no inverse, but its powers are all multiples
    have hzero : ∀ n, n ≠ 0 → x ^ n ≡ 0 [MOD p] := fun n hn =>
      Nat.modEq_zero_iff_dvd.mpr (dvd_pow hx hn)
    exact (hzero d hd).trans (hzero e he).symm
  · obtain ⟨k, hk⟩ := (Nat.modEq_iff_dvd' hle).mp h
    have hfermat : x ^ (p - 1) ≡ 1 [MOD p] := by
      rw [← Nat.totient_prime hp]
      exact Nat.ModEq.pow_totient ((Nat.Prime.coprime_iff_not_dvd hp).mpr hx).symm
    calc x ^ d = x ^ d * 1 ^ k := by rw [one_pow, mul_one]
      _ ≡ x ^ d * (x ^ (p - 1)) ^ k [MOD p] := (hfermat.symm.pow k).mul_left _
      _ = x ^ e := by rw [← pow_mul, ← pow_add, ← hk, Nat.add_sub_cancel' hle]

/-- Two exponents that cancel out modulo the prime less one give every number back. -/
lemma pow_mul_modEq (hp : p.Prime) (h : e * d % (p - 1) = 1) (x : ℕ) :
    x ^ (e * d) ≡ x [MOD p] := by
  have hone : 1 ≡ e * d [MOD p - 1] := by
    simpa [h] using Nat.mod_modEq (e * d) (p - 1)
  have hne : e * d ≠ 0 := by
    intro hzero
    simp [hzero] at h
  simpa using pow_modEq_pow hp hne one_ne_zero hone.symm x

/-- An exponent with an inverse modulo the prime less one may be reduced modulo it. -/
lemma pow_mod_modEq (hp : p.Prime) (h : e * d % (p - 1) = 1) (x : ℕ) :
    x ^ (d % (p - 1)) ≡ x ^ d [MOD p] := by
  have hmod : d % (p - 1) ≠ 0 := by
    intro hzero
    simp [Nat.mul_mod, hzero] at h
  have hne : d ≠ 0 := by
    rintro rfl
    exact hmod (Nat.zero_mod _)
  exact pow_modEq_pow hp hmod hne (Nat.mod_modEq d (p - 1)) x

/-- An exponent without a common divisor has a partner. -/
lemma exists_mul_modEq_one (hp : p.Prime) (h : e.Coprime (p - 1)) :
    ∃ d ≠ 0, e * d ≡ 1 [MOD p - 1] := by
  by_cases hone : 1 < p - 1
  · obtain ⟨d, -, hd⟩ := Nat.exists_mul_mod_eq_one_of_coprime h hone
    refine ⟨d, ?_, by rw [Nat.ModEq, hd, Nat.mod_eq_of_lt hone]⟩
    rintro rfl
    simp at hd
  · have htwo := hp.two_le
    have hpred : p - 1 = 1 := by omega
    exact ⟨1, one_ne_zero, by rw [hpred]; exact Nat.modEq_one⟩

/-- **A power tells numbers apart modulo a prime**, if its exponent has no common divisor with the
prime less one. -/
theorem modEq_of_pow_modEq (hp : p.Prime) (h : e.Coprime (p - 1)) (he : e ≠ 0) {x y : ℕ}
    (hxy : x ^ e ≡ y ^ e [MOD p]) : x ≡ y [MOD p] := by
  obtain ⟨d, hd, hone⟩ := exists_mul_modEq_one hp h
  have hback : ∀ z, z ^ (e * d) ≡ z [MOD p] := fun z => by
    simpa using pow_modEq_pow hp (Nat.mul_ne_zero he hd) one_ne_zero hone z
  calc x ≡ x ^ (e * d) [MOD p] := (hback x).symm
    _ = (x ^ e) ^ d := pow_mul x e d
    _ ≡ (y ^ e) ^ d [MOD p] := hxy.pow d
    _ = y ^ (e * d) := (pow_mul y e d).symm
    _ ≡ y [MOD p] := hback y

/-! ### Products of distinct primes -/

variable {primes : Finset ℕ}

/-- What is congruent modulo distinct primes is so modulo their product. -/
lemma modEq_prod (hprimes : ∀ p ∈ primes, p.Prime) {x y : ℕ} (h : ∀ p ∈ primes, x ≡ y [MOD p]) :
    x ≡ y [MOD ∏ p ∈ primes, p] := by
  wlog hle : x ≤ y generalizing x y with hflip
  · exact (hflip (fun p hp => (h p hp).symm) (Nat.le_of_not_le hle)).symm
  rw [Nat.modEq_iff_dvd' hle]
  exact Finset.prod_primes_dvd (y - x) (fun p hp => (hprimes p hp).prime)
    fun p hp => (Nat.modEq_iff_dvd' hle).mp (h p hp)

/-- **A power tells the numbers below a product of distinct primes apart**, if its exponent has no
common divisor with any of the primes less one. -/
theorem eq_of_pow_mod_eq (hprimes : ∀ p ∈ primes, p.Prime) (hn : n = ∏ p ∈ primes, p)
    (h : ∀ p ∈ primes, e.Coprime (p - 1)) (he : e ≠ 0) {x y : ℕ} (hx : x < n) (hy : y < n)
    (hxy : x ^ e % n = y ^ e % n) : x = y := by
  have hmod : ∀ p ∈ primes, x ≡ y [MOD p] := fun p hp => by
    have hdvd : p ∣ n := hn ▸ Finset.dvd_prod_of_mem _ hp
    exact modEq_of_pow_modEq (hprimes p hp) (h p hp) he (Nat.ModEq.of_dvd hdvd hxy)
  exact (hn ▸ modEq_prod hprimes hmod : x ≡ y [MOD n]).eq_of_lt_of_lt hx hy

end Keyring.Number
