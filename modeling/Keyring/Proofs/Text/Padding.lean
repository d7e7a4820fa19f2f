import Mathlib.Tactic
import Keyring.Proofs.Text.Base64

/-!
Base64 with padding: what is written is read.

* `fill`: the symbols of some octets, the last group filled up.
* `decode_fill`: they are read as these octets.
* `isSymbol_of_mem_fill`: they are symbols and the sign of padding.
-/

namespace Keyring.Base64

variable {a : Alphabet} {bytes : List UInt8}

/-- An alphabet with padding. -/
def Alphabet.filled (a : Alphabet) : Style := ⟨a, true⟩

/-- The symbols of some octets, with as much padding as the last group needs. -/
def fill (a : Alphabet) (bytes : List UInt8) : List UInt8 :=
  encode a bytes ++ List.replicate ((4 - (encode a bytes).length % 4) % 4) pad

lemma fill_nil : fill a [] = [] := by simp [fill, encode]

/-- Three octets more are a full group more. -/
lemma fill_cons (x y z : UInt8) (r : List UInt8) :
    fill a (x :: y :: z :: r) = a.symbol (x.toNat / 4)
      :: a.symbol (x.toNat % 4 * 16 + y.toNat / 16) :: a.symbol (y.toNat % 16 * 4 + z.toNat / 64)
      :: a.symbol (z.toNat % 64) :: fill a r := by
  have hlength : (4 - (encode a (x :: y :: z :: r)).length % 4) % 4
      = (4 - (encode a r).length % 4) % 4 := by
    simp only [encode, List.length_cons]
    omega
  rw [fill, hlength, encode]
  rfl

lemma fill_ne_nil (h : bytes ≠ []) : fill a bytes ≠ [] := by
  simp [fill, encode_ne_nil h]

lemma length_fill (a : Alphabet) (bytes : List UInt8) : (fill a bytes).length % 4 = 0 := by
  rw [fill, List.length_append, List.length_replicate]
  omega

/-- Symbols are split from the padding after them, where it may stand. -/
lemma splitTail_go_fill {offset place : ℕ} {vs : List ℕ} (h : ∀ v ∈ vs, v < 64)
    (hplace : 2 ≤ place + vs.length) (k : ℕ) :
    splitTail.go a offset place (vs.map a.symbol ++ List.replicate k pad)
      = .ok (vs.map fun v => (a.symbol v, v), k) := by
  induction vs generalizing place with
  | nil =>
      cases k with
      | zero => rfl
      | succ k =>
          have hlate : ¬ place < 2 := not_lt.mpr (by simpa using hplace)
          have hall : (List.replicate k pad).all (· = pad) = true := by simp
          rw [List.map_nil, List.nil_append, List.replicate_succ, splitTail.go, if_pos rfl,
            if_neg hlate, if_pos hall, List.length_replicate]
          rfl
  | cons v vs ih =>
      have hv := h v List.mem_cons_self
      have hlater : 2 ≤ place + 1 + vs.length := by
        rw [List.length_cons] at hplace
        omega
      rw [List.map_cons, List.cons_append, splitTail.go, if_neg (a.symbol_ne_pad hv),
        a.read_symbol hv]
      simp only [ok_bind, ih (fun u hu => h u (List.mem_cons_of_mem _ hu)) hlater]
      rfl

/-- A last group that stands for some octets has two to four numbers. -/
lemma exists_numbers {vs : List ℕ} (h : tailOctets? vs = some bytes) :
    (∃ w x, vs = [w, x] ∧ x % 16 = 0) ∨ (∃ w x y, vs = [w, x, y] ∧ y % 4 = 0)
      ∨ ∃ w x y z, vs = [w, x, y, z] := by
  unfold tailOctets? at h
  split at h
  · split_ifs at h with hx
    exact .inl ⟨_, _, rfl, hx⟩
  · split_ifs at h with hy
    exact .inr (.inl ⟨_, _, _, rfl, hy⟩)
  · exact .inr (.inr ⟨_, _, _, _, rfl⟩)
  · cases h

/-- The symbols of a last group, filled up, stand for the octets of their numbers. -/
lemma decodeTail_fill (offset : ℕ) {vs : List ℕ} (h : ∀ v ∈ vs, v < 64)
    (ht : tailOctets? vs = some bytes) :
    decodeTail a.filled offset
      (vs.map a.symbol ++ List.replicate ((4 - (vs.map a.symbol).length % 4) % 4) pad)
      = .ok bytes := by
  have htwo : 2 ≤ 0 + vs.length := by
    rcases exists_numbers ht with ⟨w, x, rfl, -⟩ | ⟨w, x, y, rfl, -⟩ | ⟨w, x, y, z, rfl⟩ <;> simp
  have hsplit : splitTail a.filled.alphabet offset
      (vs.map a.symbol ++ List.replicate ((4 - (vs.map a.symbol).length % 4) % 4) pad)
      = .ok (vs.map fun v => (a.symbol v, v), (4 - (vs.map a.symbol).length % 4) % 4) :=
    splitTail_go_fill h htwo _
  rw [decodeTail, hsplit, ok_bind]
  rcases exists_numbers ht with ⟨w, x, rfl, hx⟩ | ⟨w, x, y, rfl, hy⟩ | ⟨w, x, y, z, rfl⟩
  · simpa [tailOctets?, Style.takes, Alphabet.filled, hx] using ht
  · simpa [tailOctets?, Style.takes, Alphabet.filled, hy] using ht
  · simpa [tailOctets?, Style.takes, Alphabet.filled] using ht

/-- What is written for at most three octets is read. -/
lemma decodeGroups_fill_last (bytes : List UInt8) (offset : ℕ) (hne : bytes ≠ [])
    (hlen : bytes.length ≤ 3) : decodeGroups a.filled offset (fill a bytes) = .ok bytes := by
  obtain ⟨vs, hvs, hencode, htail, hfour⟩ := tailOctets?_of_encode (a := a) hne hlen
  have hread := decodeTail_fill (a := a) offset hvs htail
  rw [← hencode, ← fill] at hread
  have hgroup : (fill a bytes).length ≤ 4 := by
    rw [fill, List.length_append, List.length_replicate, hencode, List.length_map]
    omega
  have hlast : decodeGroups a.filled offset (fill a bytes)
      = decodeTail a.filled offset (fill a bytes) := by
    have hsome := fill_ne_nil (a := a) hne
    generalize fill a bytes = s at hgroup hsome
    match s with
    | [] => contradiction
    | [_] => rfl
    | [_, _] => rfl
    | [_, _, _] => rfl
    | [_, _, _, _] => rfl
    | _ :: _ :: _ :: _ :: _ :: _ => simp at hgroup; omega
  rw [hlast, hread]

/-- **What is written is read.** -/
theorem decodeGroups_fill (offset : ℕ) :
    decodeGroups a.filled offset (fill a bytes) = .ok bytes := by
  fun_induction encode a bytes generalizing offset with
  | case1 =>
      rw [fill_nil]
      rfl
  | case2 p => exact decodeGroups_fill_last [p] offset (by simp) (by simp)
  | case3 p q => exact decodeGroups_fill_last [p, q] offset (by simp) (by simp)
  | case4 p q r rest ih =>
      by_cases hrest : rest = []
      · subst hrest
        exact decodeGroups_fill_last [p, q, r] offset (by simp) (by simp)
      · obtain ⟨b, more, hmore⟩ := List.exists_cons_of_ne_nil (fill_ne_nil (a := a) hrest)
        have hp := p.toNat_lt
        have hq := q.toNat_lt
        have hr := r.toNat_lt
        rw [fill_cons, hmore, decodeGroups, ← hmore]
        simp only [Alphabet.filled, a.read_symbol (show p.toNat / 4 < 64 by omega),
          a.read_symbol (show p.toNat % 4 * 16 + q.toNat / 16 < 64 by omega),
          a.read_symbol (show q.toNat % 16 * 4 + r.toNat / 64 < 64 by omega),
          a.read_symbol (show r.toNat % 64 < 64 by omega), ok_bind]
        rw [show (⟨a, true⟩ : Style) = a.filled from rfl, ih, ok_bind, octets_numbers]
        rfl

/-- **Octets are read from what is written for them.** -/
theorem decode_fill (a : Alphabet) (bytes : List UInt8) :
    decode a.filled (fill a bytes) = .ok bytes := by
  have hfull := length_fill a bytes
  rw [decode]
  split
  · simp [hfull, decodeGroups_fill]
  · by_contra hne
    have hbytes : bytes ≠ [] := fun hb => hne (by rw [hb])
    exact fill_ne_nil hbytes (List.getLast?_eq_none_iff.mp ‹_›)

/-- What is written are symbols and the sign of padding. -/
lemma isSymbol_of_mem_fill {b : UInt8} (h : b ∈ fill a bytes) :
    (∃ n, b = a.symbol n) ∨ b = pad := by
  rcases List.mem_append.mp h with h | h
  · exact .inl (exists_symbol_of_mem_encode h)
  · exact .inr (List.mem_replicate.mp h).2

end Keyring.Base64
