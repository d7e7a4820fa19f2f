/-!
Punycode (RFC 3492): a label with any characters written in letters, digits and hyphens.

The characters that need no encoding come first; the others follow as numbers that say where each is
inserted and how far its code point lies above the one before.

* `Punycode.decode?`: the label of a code.
* `Punycode.encode`: the code of a label.
-/

namespace Keyring.Punycode

/-- The number of digits. -/
def base : Nat := 36

/-- The first code point that needs encoding. -/
def firstCode : Nat := 128

/-- The bias before the first number. -/
def firstBias : Nat := 72

/-- The bias of a number whose first digit carries the bias `k`. -/
def biasFrom (k delta : Nat) : Nat :=
  if 455 < delta then biasFrom (k + base) (delta / 35) else k + 36 * delta / (delta + 38)
termination_by delta
decreasing_by exact Nat.div_lt_self (by omega) (by omega)

/-- The bias after a number `delta`, `count` characters being in place. -/
def adapt (delta count : Nat) (first : Bool) : Nat :=
  let delta := if first then delta / 700 else delta / 2
  biasFrom 0 (delta + delta / count)

/-- The least digit at place `k` that is followed by another one. -/
def threshold (k bias : Nat) : Nat := min (max (k - bias) 1) 26

/-- No digit below one is followed by another. -/
theorem one_le_threshold (k bias : Nat) : 1 ≤ threshold k bias := by
  simp only [threshold]
  omega

/-- The number of a digit. -/
def digit? (c : Char) : Option Nat :=
  if 'a' ≤ c && c ≤ 'z' then some (c.toNat - 'a'.toNat)
  else if 'A' ≤ c && c ≤ 'Z' then some (c.toNat - 'A'.toNat)
  else if '0' ≤ c && c ≤ '9' then some (c.toNat - '0'.toNat + 26)
  else none

/-- The digit of a number below 36. -/
def digit (n : Nat) : Char := if n < 26 then Char.ofNat (0x61 + n) else Char.ofNat (0x30 + (n - 26))

/-! ### Reading -/

/-- A number of digits with the lowest first, and the digits after it. The weight of a digit fits in
32 bits. -/
def readNumber? (bias : Nat) : (k weight : Nat) → List Char → Option (Nat × List Char)
  | _, _, [] => none
  | k, weight, c :: r => do
    let d ← digit? c
    let t := threshold k bias
    if d < t then some (d * weight, r)
    else if UInt32.size ≤ weight * (base - t) then none
    else
      let (n, r) ← readNumber? bias (k + base) (weight * (base - t)) r
      some (d * weight + n, r)

/-- Reading a number takes digits. -/
theorem readNumber?_length {bias k weight n : Nat} {s r : List Char}
    (h : readNumber? bias k weight s = some (n, r)) : r.length < s.length := by
  induction s generalizing k weight n with
  | nil => simp [readNumber?] at h
  | cons c s ih =>
    simp only [readNumber?, Option.bind_eq_bind, Option.bind_eq_some_iff] at h
    obtain ⟨d, -, h⟩ := h
    split at h
    · simp only [Option.some.injEq, Prod.mk.injEq] at h
      simp [h.2]
    · split at h
      · exact nomatch h
      simp only [Option.bind_eq_some_iff, Option.some.injEq, Prod.mk.injEq] at h
      obtain ⟨⟨m, t⟩, hm, -, rfl⟩ := h
      have : t.length < s.length := ih hm
      simp only [List.length_cons]
      omega

/-- Inserts the characters that the numbers of a code describe into `out`. -/
def insertAll (code place bias : Nat) (first : Bool) (out : List Nat) (s : List Char) :
    Option (List Nat) :=
  if s.isEmpty then some out
  else
    match _h : readNumber? bias base 1 s with
    | none => none
    | some (n, r) =>
      let count := out.length + 1
      let code := code + (place + n) / count
      let place := (place + n) % count
      if 0x10FFFF < code then none
      else
        insertAll code (place + 1) (adapt n count first) false
          (out.take place ++ code :: out.drop place) r
termination_by s.length
decreasing_by exact readNumber?_length _h

/-- The characters before the last hyphen, and those after it. A hyphen in front separates nothing:
it stays with what follows it. -/
def splitLast (s : List Char) : List Char × List Char :=
  let tail := (s.reverse.takeWhile (· ≠ '-')).reverse
  if s.length ≤ tail.length + 1 then ([], s) else (s.take (s.length - tail.length - 1), tail)

/-- The label of a code. -/
def decode? (s : List Char) : Option (List Char) := do
  let (plain, digits) := splitLast s
  if plain.any (firstCode ≤ ·.toNat) then none
  else
    let codes ← insertAll firstCode 0 firstBias true (plain.map Char.toNat) digits
    codes.mapM fun n => if n.isValidChar then some (Char.ofNat n) else none

/-! ### Writing -/

/-- The digits of a number, the lowest first. -/
def writeNumber (bias k n : Nat) : List Char :=
  let t := threshold k bias
  if n < t then [digit n]
  else digit (t + (n - t) % (base - t)) :: writeNumber bias (k + base) ((n - t) / (base - t))
termination_by n
decreasing_by
  have h₁ := one_le_threshold k bias
  have h₂ := Nat.div_le_self (n - threshold k bias) (base - threshold k bias)
  omega

/-- How far the encoding has come. -/
structure Progress where
  /-- what the next number starts from -/
  delta : Nat
  /-- the bias -/
  bias : Nat
  /-- the number of characters in place -/
  count : Nat
  /-- whether no number has been written -/
  first : Bool
  /-- what has been written, the last digit first -/
  out : List Char

/-- Writes a number for every place of the code point `code` in a label. -/
def writeCode (code : Nat) (p : Progress) (c : Char) : Progress :=
  if c.toNat < code then { p with delta := p.delta + 1 }
  else if c.toNat = code then
    { delta := 0
      bias := adapt p.delta (p.count + 1) p.first
      count := p.count + 1
      first := false
      out := (writeNumber p.bias base p.delta).reverse ++ p.out }
  else p

/-- Writes the numbers of all code points from `code` on, one code point after the other. -/
def writeCodes (label : List Char) : (codes : List Nat) → (code : Nat) → Progress → Progress
  | [], _, p => p
  | m :: ms, code, p =>
    let p := { p with delta := p.delta + (m - code) * (p.count + 1) }
    let p := label.foldl (writeCode m) p
    writeCodes label ms (m + 1) { p with delta := p.delta + 1 }

/-- The code points of a label that need encoding, in order and each once. -/
def codesOf (label : List Char) : List Nat :=
  ((label.map Char.toNat).filter (firstCode ≤ ·)).mergeSort.eraseDups

/-- The code of a label. -/
def encode (label : List Char) : List Char :=
  let plain := label.filter (·.toNat < firstCode)
  let start : Progress :=
    { delta := 0, bias := firstBias, count := plain.length, first := true
      out := if plain.isEmpty then [] else '-' :: plain.reverse }
  (writeCodes label (codesOf label) firstCode start).out.reverse

end Keyring.Punycode
