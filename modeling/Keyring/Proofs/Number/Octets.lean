import Mathlib.Tactic
import Keyring.Number

/-!
Numbers and their big-endian octets.

* `toOctets_ofOctets`, `ofOctets_toOctets`: each way undoes the other, as far as the width goes.
* `ofOctets_inj`: octets of one length are told apart by their number.
* `octetSize_le_iff`: what fits into so many octets.
-/

namespace Keyring.Number

/-! ### The number of some octets -/

@[simp]
lemma ofOctets_nil : ofOctets [] = 0 := rfl

/-- A last octet is worth itself, and all before it move up. -/
@[simp]
lemma ofOctets_append_singleton (s : List UInt8) (b : UInt8) :
    ofOctets (s ++ [b]) = ofOctets s * 256 + b.toNat := by
  simp [ofOctets]

/-- The number that `n` octets make is below `256 ^ n`. -/
lemma ofOctets_lt (s : List UInt8) : ofOctets s < 256 ^ s.length := by
  induction s using List.reverseRecOn with
  | nil => simp
  | append_singleton s b ih =>
      have hb := b.toNat_lt
      rw [ofOctets_append_singleton, List.length_append, List.length_singleton, pow_succ]
      omega

/-! ### The octets of a number -/

/-- The last octet is the remainder, and those before it are the octets of the quotient. -/
lemma toOctets_succ (width n : ℕ) :
    toOctets (width + 1) n = toOctets width (n / 256) ++ [UInt8.ofNat n] := by
  have hshift : ∀ i ∈ List.range width,
      UInt8.ofNat (n >>> (8 * (width + 1 - 1 - i)))
        = UInt8.ofNat ((n / 256) >>> (8 * (width - 1 - i))) := by
    intro i hi
    have hlt := List.mem_range.mp hi
    have hplace : 8 * (width + 1 - 1 - i) = 8 + 8 * (width - 1 - i) := by omega
    rw [hplace, Nat.shiftRight_add, show n >>> 8 = n / 256 from Nat.shiftRight_eq_div_pow n 8]
  rw [toOctets, List.range_succ, List.map_append, List.map_congr_left hshift]
  simp [toOctets]

/-- The number of octets is that of what they show of a number. -/
theorem ofOctets_toOctets (width n : ℕ) : ofOctets (toOctets width n) = n % 256 ^ width := by
  induction width generalizing n with
  | zero => simp [toOctets, Nat.mod_one]
  | succ width ih =>
      rw [toOctets_succ, ofOctets_append_singleton, ih, pow_succ, mul_comm (256 ^ width),
        Nat.mod_mul, UInt8.toNat_ofNat']
      omega

/-- Octets are those of their number. -/
theorem toOctets_ofOctets (s : List UInt8) : toOctets s.length (ofOctets s) = s := by
  induction s using List.reverseRecOn with
  | nil => rfl
  | append_singleton s b ih =>
      have hb := b.toNat_lt
      have hdiv : (ofOctets s * 256 + b.toNat) / 256 = ofOctets s := by omega
      have hlast : UInt8.ofNat (ofOctets s * 256 + b.toNat) = b := by
        apply UInt8.toNat_inj.mp
        rw [UInt8.toNat_ofNat']
        omega
      rw [List.length_append, List.length_singleton, ofOctets_append_singleton, toOctets_succ, hdiv,
        ih, hlast]

/-- Octets of one length are told apart by their number. -/
theorem ofOctets_inj {s t : List UInt8} (h : s.length = t.length) :
    ofOctets s = ofOctets t ↔ s = t := by
  constructor
  · intro heq
    rw [← toOctets_ofOctets s, ← toOctets_ofOctets t, heq, h]
  · rintro rfl
    rfl

/-! ### The size of a number -/

/-- A number has at most so many bits as it is below a power of two. -/
lemma bitSize_le_iff {n width : ℕ} : bitSize n ≤ width ↔ n < 2 ^ width := by
  rw [bitSize]
  split_ifs with hn
  · simp [hn]
  · rw [Nat.succ_le_iff, Nat.log2_lt hn]

/-- **A number fits into so many octets** as it is below a power of 256. -/
theorem octetSize_le_iff {n width : ℕ} : octetSize n ≤ width ↔ n < 256 ^ width := by
  have hpow : (256 : ℕ) ^ width = 2 ^ (8 * width) := by rw [pow_mul]; rfl
  rw [hpow, ← bitSize_le_iff, octetSize]
  omega

lemma toOctets?_eq_some {width n : ℕ} (h : n < 256 ^ width) :
    toOctets? width n = some (toOctets width n) := by
  rw [toOctets?, if_pos (octetSize_le_iff.mpr h)]

end Keyring.Number
