/-!
Numbers as octets and modulo others.

* `Number.ofOctets`, `Number.toOctets`, `Number.toOctets?`: big-endian octets.
* `Number.bitSize`, `Number.octetSize`: the number of bits and octets of a number.
* `Number.powMod`: a power modulo a number, `powMod_eq`.
* `Number.inverse?`: an inverse modulo a number.
-/

namespace Keyring.Number

/-- The number of big-endian octets. -/
def ofOctets (s : List UInt8) : Nat := s.foldl (fun n b => n * 256 + b.toNat) 0

/-- A number in so many big-endian octets. -/
def toOctets (width n : Nat) : List UInt8 :=
  (List.range width).map fun i => UInt8.ofNat (n >>> (8 * (width - 1 - i)))

/-- A number takes as many octets as it is given. -/
theorem toOctets_length (width n : Nat) : (toOctets width n).length = width := by
  simp [toOctets]

/-- The number of bits of a number, none for zero. -/
def bitSize (n : Nat) : Nat := if n = 0 then 0 else n.log2 + 1

/-- The number of octets of a number, none for zero. -/
def octetSize (n : Nat) : Nat := (bitSize n + 7) / 8

/-- A number in so many big-endian octets, if it fits. -/
def toOctets? (width n : Nat) : Option (List UInt8) :=
  if octetSize n ≤ width then some (toOctets width n) else none

/-- A power modulo a number, by squaring. -/
def powMod (b e n : Nat) : Nat :=
  if e = 0 then 1 % n
  else
    let h := powMod (b * b % n) (e / 2) n
    if e % 2 = 1 then h * b % n else h
termination_by e
decreasing_by omega

/-- Squaring gives the power. -/
theorem powMod_eq (b e n : Nat) : powMod b e n = b.pow e % n := by
  show powMod b e n = b ^ e % n
  fun_induction powMod b e n with
  | case1 => rfl
  | case2 b e he h hodd ih =>
    have hp : b ^ e = (b * b) ^ (e / 2) * b := by
      rw [← Nat.pow_two, ← Nat.pow_mul, ← Nat.pow_succ]
      congr 1
      omega
    show h * b % n = b ^ e % n
    rw [show h = _ from ih, ← Nat.pow_mod, hp, Nat.mod_mul_mod]
  | case3 b e he h hodd ih =>
    have hp : b ^ e = (b * b) ^ (e / 2) := by
      rw [← Nat.pow_two, ← Nat.pow_mul]
      congr 1
      omega
    show h = b ^ e % n
    rw [show h = _ from ih, ← Nat.pow_mod, hp]

/-- Numbers `x` and `y` with `a * x + b * y = gcd a b`, and that divisor. -/
def bezout (a b : Nat) : Nat × Int × Int :=
  if _h : a = 0 then (b, 0, 1)
  else
    let (g, x, y) := bezout (b % a) a
    (g, y - (b / a : Nat) * x, x)
termination_by a
decreasing_by exact Nat.mod_lt _ (Nat.pos_of_ne_zero _h)

/-- The inverse of `a` modulo `n`, if there is one. -/
def inverse? (a n : Nat) : Option Nat :=
  let (g, x, _) := bezout (a % n) n
  if g = 1 then some (x % (n : Int)).toNat else none

end Keyring.Number
