import Mathlib.Tactic
import Keyring.Proofs.Result
import Keyring.Text.Base64

/-!
Base64 without padding: what is read is exactly what is written.

* `Alphabet.read_eq_ok_iff`: symbols and the numbers below 64.
* `symbols_of_decodeTail`, `decodeTail_symbols`: what a last group stands for.
* `exists_symbol_of_mem_encode`: what is written is made of symbols.
* `decodeGroups_encode`, `eq_encode_of_decodeGroups`: what is written can be read, and nothing else.
* `decode_eq_ok_iff`: a text is read as some octets exactly if it is what is written for them.
* `encode_inj`: so it is written for these octets only.
-/

namespace Keyring.Base64

/-- An alphabet without padding. -/
def Alphabet.bare (a : Alphabet) : Style := ⟨a, false⟩

variable {a : Alphabet} {bytes s : List UInt8}

/-! ### Symbols -/

/-- An octet stands for a number below 64, whose symbol it is. -/
lemma Alphabet.symbol_of_value? {b : UInt8} {v : ℕ} (h : a.value? b = some v) :
    v < 64 ∧ b = a.symbol v := by
  have hall : ∀ n : Fin 256, ∀ v, a.value? (UInt8.ofNat n) = some v →
      v < 64 ∧ UInt8.ofNat n = a.symbol v := by
    cases a with
    | standard => decide +kernel
    | urlSafe => decide +kernel
  have hb := hall ⟨b.toNat, b.toNat_lt⟩ v
  rw [UInt8.ofNat_toNat] at hb
  exact hb h

/-- The symbol of a number below 64 stands for it. -/
lemma Alphabet.value?_symbol {v : ℕ} (h : v < 64) : a.value? (a.symbol v) = some v := by
  have hall : ∀ n : Fin 64, a.value? (a.symbol n) = some n.val := by
    cases a with
    | standard => decide +kernel
    | urlSafe => decide +kernel
  exact hall ⟨v, h⟩

/-- **Symbols are told from other octets**, and read as the numbers that they are written for. -/
lemma Alphabet.read_eq_ok_iff {offset : ℕ} {b : UInt8} {v : ℕ} :
    a.read offset b = .ok v ↔ v < 64 ∧ b = a.symbol v := by
  rw [Alphabet.read]
  constructor
  · intro h
    cases hv : a.value? b with
    | none => simp [hv] at h
    | some v' =>
        obtain rfl : v' = v := by simpa [hv] using h
        exact a.symbol_of_value? hv
  · rintro ⟨hv, rfl⟩
    rw [a.value?_symbol hv]

/-- The symbol of a number below 64 is read as the number. -/
lemma Alphabet.read_symbol {offset v : ℕ} (h : v < 64) : a.read offset (a.symbol v) = .ok v :=
  read_eq_ok_iff.mpr ⟨h, rfl⟩

/-- The sign of padding is no symbol. -/
lemma Alphabet.symbol_ne_pad {v : ℕ} (h : v < 64) : a.symbol v ≠ pad := by
  intro hpad
  have hv := a.value?_symbol h
  rw [hpad] at hv
  cases a with
  | standard => simp [Alphabet.value?, pad] at hv
  | urlSafe => simp [Alphabet.value?, pad] at hv

/-! ### Groups -/

/-- The numbers that are written for three octets stand for them. -/
lemma octets_numbers (p q r : UInt8) :
    octets (p.toNat / 4) (p.toNat % 4 * 16 + q.toNat / 16) (q.toNat % 16 * 4 + r.toNat / 64)
      (r.toNat % 64) = [p, q, r] := by
  have hp := p.toNat_lt
  have hq := q.toNat_lt
  have hr := r.toNat_lt
  simp only [octets, List.cons.injEq, and_true, ← UInt8.toNat_inj, UInt8.toNat_ofNat']
  omega

/-- Four numbers are those that are written for the three octets they stand for. -/
lemma exists_octets {w x y z : ℕ} (hw : w < 64) (hx : x < 64) (hy : y < 64) (hz : z < 64) :
    ∃ p q r : UInt8, octets w x y z = [p, q, r] ∧ w = p.toNat / 4
      ∧ x = p.toNat % 4 * 16 + q.toNat / 16 ∧ y = q.toNat % 16 * 4 + r.toNat / 64
      ∧ z = r.toNat % 64 := by
  refine ⟨_, _, _, rfl, ?_⟩
  simp only [UInt8.toNat_ofNat']
  omega

/-- Symbols without padding are split into themselves. -/
lemma splitTail_go_symbols {offset place : ℕ} {vs : List ℕ} (h : ∀ v ∈ vs, v < 64) :
    splitTail.go a offset place (vs.map a.symbol) = .ok (vs.map fun v => (a.symbol v, v), 0) := by
  induction vs generalizing place with
  | nil => rfl
  | cons v vs ih =>
      have hv := h v List.mem_cons_self
      rw [List.map_cons, splitTail.go, if_neg (a.symbol_ne_pad hv), a.read_symbol hv]
      simp only [ok_bind, ih fun u hu => h u (List.mem_cons_of_mem _ hu)]
      rfl

/-- What is split without padding are symbols. -/
lemma symbols_of_splitTail_go {offset place : ℕ} {symbols : List (UInt8 × ℕ)}
    (h : splitTail.go a offset place s = .ok (symbols, 0)) :
    ∃ vs : List ℕ, (∀ v ∈ vs, v < 64) ∧ s = vs.map a.symbol := by
  induction s generalizing place symbols with
  | nil => exact ⟨[], by simp, rfl⟩
  | cons b r ih =>
      rw [splitTail.go] at h
      split_ifs at h with hpad hplace hall
      · simp at h
      · obtain ⟨v, hread, hgo⟩ := bind_eq_ok_iff.mp h
        obtain ⟨⟨rest, pads⟩, hrest, hpure⟩ := bind_eq_ok_iff.mp hgo
        cases hpure
        obtain ⟨vs, hvs, rfl⟩ := ih hrest
        obtain ⟨hv, rfl⟩ := Alphabet.read_eq_ok_iff.mp hread
        exact ⟨v :: vs, by simpa using ⟨hv, hvs⟩, rfl⟩

/-- A last group without padding consists of symbols. -/
lemma symbols_of_decodeTail {offset : ℕ} (h : decodeTail a.bare offset s = .ok bytes) :
    ∃ vs : List ℕ, (∀ v ∈ vs, v < 64) ∧ s = vs.map a.symbol := by
  obtain ⟨⟨symbols, pads⟩, hsplit, htail⟩ := bind_eq_ok_iff.mp h
  simp only at htail
  split_ifs at htail with hshort htakes
  obtain rfl : pads = 0 := by simpa [Style.takes, Alphabet.bare] using htakes
  exact symbols_of_splitTail_go hsplit

/-- The octets that the numbers of a last group stand for. Bits that belong to no octet are zero. -/
def tailOctets? : List ℕ → Option (List UInt8)
  | [w, x] => if x % 16 = 0 then some ((octets w x 0 0).take 1) else none
  | [w, x, y] => if y % 4 = 0 then some ((octets w x y 0).take 2) else none
  | [w, x, y, z] => some (octets w x y z)
  | _ => none

/-- The symbols of a last group stand for the octets of their numbers. -/
lemma decodeTail_symbols {offset : ℕ} {vs : List ℕ} (h : ∀ v ∈ vs, v < 64) (hlen : vs.length ≤ 4) :
    decodeTail a.bare offset (vs.map a.symbol) = .ok bytes ↔ tailOctets? vs = some bytes := by
  have hsplit : splitTail a.bare.alphabet offset (vs.map a.symbol)
      = .ok (vs.map fun v => (a.symbol v, v), 0) := splitTail_go_symbols h
  rw [decodeTail, hsplit, ok_bind]
  match vs, hlen with
  | [], _ => simp [tailOctets?]
  | [w], _ => simp [tailOctets?]
  | [w, x], _ => by_cases hx : x % 16 = 0 <;> simp [tailOctets?, Style.takes, Alphabet.bare, hx]
  | [w, x, y], _ => by_cases hy : y % 4 = 0 <;> simp [tailOctets?, Style.takes, Alphabet.bare, hy]
  | [w, x, y, z], _ => simp [tailOctets?, Style.takes, Alphabet.bare]

/-- A last group that stands for some octets is written for them. -/
lemma encode_of_tailOctets? {vs : List ℕ} (h : ∀ v ∈ vs, v < 64)
    (ht : tailOctets? vs = some bytes) : vs.map a.symbol = encode a bytes := by
  match vs with
  | [] => simp [tailOctets?] at ht
  | [w] => simp [tailOctets?] at ht
  | [w, x] =>
      obtain ⟨p, q, r, hpqr, hw, hx, -⟩ := exists_octets (w := w) (x := x) (y := 0) (z := 0)
        (h w (by simp)) (h x (by simp)) (by decide) (by decide)
      rw [tailOctets?, hpqr] at ht
      split_ifs at ht with hzero
      obtain rfl : [p] = bytes := by simpa using ht
      -- the bits of the second symbol that belong to no octet are zero
      have hx' : x = p.toNat % 4 * 16 := by
        have := q.toNat_lt
        omega
      rw [encode, ← hw, ← hx']
      rfl
  | [w, x, y] =>
      obtain ⟨p, q, r, hpqr, hw, hx, hy, -⟩ := exists_octets (w := w) (x := x) (y := y) (z := 0)
        (h w (by simp)) (h x (by simp)) (h y (by simp)) (by decide)
      rw [tailOctets?, hpqr] at ht
      split_ifs at ht with hzero
      obtain rfl : [p, q] = bytes := by simpa using ht
      -- the bits of the third symbol that belong to no octet are zero
      have hy' : y = q.toNat % 16 * 4 := by
        have := r.toNat_lt
        omega
      rw [encode, ← hw, ← hx, ← hy']
      rfl
  | [w, x, y, z] =>
      obtain ⟨p, q, r, hpqr, hw, hx, hy, hz⟩ := exists_octets
        (h w (by simp)) (h x (by simp)) (h y (by simp)) (h z (by simp))
      obtain rfl : [p, q, r] = bytes := by simpa [tailOctets?, hpqr] using ht
      rw [encode, ← hw, ← hx, ← hy, ← hz]
      rfl
  | v₀ :: v₁ :: v₂ :: v₃ :: v₄ :: vs => simp [tailOctets?] at ht

/-- The last group of what is written stands for its octets. -/
lemma tailOctets?_of_encode (hne : bytes ≠ []) (hlen : bytes.length ≤ 3) :
    ∃ vs : List ℕ, (∀ v ∈ vs, v < 64) ∧ encode a bytes = vs.map a.symbol
      ∧ tailOctets? vs = some bytes ∧ vs.length ≤ 4 := by
  match bytes with
  | [] => contradiction
  | [p] =>
      have hp := p.toNat_lt
      have hoctets := octets_numbers p 0 0
      refine ⟨[p.toNat / 4, p.toNat % 4 * 16], ?_, rfl, ?_, by simp⟩
      · simp only [List.mem_cons, List.not_mem_nil, or_false, forall_eq_or_imp, forall_eq]
        omega
      · simpa [tailOctets?] using congrArg (List.take 1) hoctets
  | [p, q] =>
      have hp := p.toNat_lt
      have hq := q.toNat_lt
      have hoctets := octets_numbers p q 0
      refine ⟨[p.toNat / 4, p.toNat % 4 * 16 + q.toNat / 16, q.toNat % 16 * 4], ?_, rfl, ?_,
        by simp⟩
      · simp only [List.mem_cons, List.not_mem_nil, or_false, forall_eq_or_imp, forall_eq]
        omega
      · simpa [tailOctets?] using congrArg (List.take 2) hoctets
  | [p, q, r] =>
      have hp := p.toNat_lt
      have hq := q.toNat_lt
      have hr := r.toNat_lt
      refine ⟨[p.toNat / 4, p.toNat % 4 * 16 + q.toNat / 16, q.toNat % 16 * 4 + r.toNat / 64,
        r.toNat % 64], ?_, rfl, ?_, by simp⟩
      · simp only [List.mem_cons, List.not_mem_nil, or_false, forall_eq_or_imp, forall_eq]
        omega
      · rw [tailOctets?, octets_numbers]

/-! ### All groups -/

/-- A text in base64 is made of symbols. -/
lemma exists_symbol_of_mem_encode {b : UInt8} (h : b ∈ encode a bytes) :
    ∃ n, b = a.symbol n := by
  fun_induction encode a bytes with
  | case1 => exact absurd h List.not_mem_nil
  | case2 x =>
      rcases List.mem_pair.mp h with rfl | rfl
      · exact ⟨_, rfl⟩
      · exact ⟨_, rfl⟩
  | case3 x y =>
      rcases List.mem_cons.mp h with rfl | h
      · exact ⟨_, rfl⟩
      · rcases List.mem_pair.mp h with rfl | rfl
        · exact ⟨_, rfl⟩
        · exact ⟨_, rfl⟩
  | case4 x y z r ih =>
      simp only [List.mem_cons] at h
      rcases h with rfl | rfl | rfl | rfl | h
      · exact ⟨_, rfl⟩
      · exact ⟨_, rfl⟩
      · exact ⟨_, rfl⟩
      · exact ⟨_, rfl⟩
      · exact ih h

lemma encode_ne_nil (h : bytes ≠ []) : encode a bytes ≠ [] := by
  match bytes with
  | [] => contradiction
  | [_] => simp [encode]
  | [_, _] => simp [encode]
  | _ :: _ :: _ :: _ => simp [encode]

/-- A text of at most one group is a last group. -/
lemma decodeGroups_of_length_le {offset : ℕ} (hne : s ≠ []) (hlen : s.length ≤ 4) :
    decodeGroups a.bare offset s = decodeTail a.bare offset s := by
  match s with
  | [] => contradiction
  | [_] => rfl
  | [_, _] => rfl
  | [_, _, _] => rfl
  | [_, _, _, _] => rfl
  | _ :: _ :: _ :: _ :: _ :: _ => simp at hlen; omega

/-- What is written for at most three octets can be read. -/
lemma decodeGroups_encode_last (bytes : List UInt8) (offset : ℕ) (hne : bytes ≠ [])
    (hlen : bytes.length ≤ 3) :
    decodeGroups a.bare offset (encode a bytes) = .ok bytes := by
  obtain ⟨vs, hvs, hencode, htail, hfour⟩ := tailOctets?_of_encode (a := a) hne hlen
  rw [decodeGroups_of_length_le (encode_ne_nil hne) (by simp [hencode, hfour]), hencode]
  exact (decodeTail_symbols hvs hfour).mpr htail

/-- **Octets that are written in base64 are read back.** -/
theorem decodeGroups_encode (offset : ℕ) :
    decodeGroups a.bare offset (encode a bytes) = .ok bytes := by
  fun_induction encode a bytes generalizing offset with
  | case1 => rfl
  | case2 p => exact decodeGroups_encode_last [p] offset (by simp) (by simp)
  | case3 p q => exact decodeGroups_encode_last [p, q] offset (by simp) (by simp)
  | case4 p q r rest ih =>
      by_cases hrest : rest = []
      · subst hrest
        exact decodeGroups_encode_last [p, q, r] offset (by simp) (by simp)
      · obtain ⟨b, more, hmore⟩ := List.exists_cons_of_ne_nil (encode_ne_nil (a := a) hrest)
        have hp := p.toNat_lt
        have hq := q.toNat_lt
        have hr := r.toNat_lt
        rw [hmore, decodeGroups, ← hmore]
        simp only [Alphabet.bare, a.read_symbol (show p.toNat / 4 < 64 by omega),
          a.read_symbol (show p.toNat % 4 * 16 + q.toNat / 16 < 64 by omega),
          a.read_symbol (show q.toNat % 16 * 4 + r.toNat / 64 < 64 by omega),
          a.read_symbol (show r.toNat % 64 < 64 by omega), ok_bind]
        rw [show (⟨a, false⟩ : Style) = a.bare from rfl, ih, ok_bind, octets_numbers]
        rfl

/-- **What is read in base64 was written so.** -/
theorem eq_encode_of_decodeGroups {offset : ℕ} (h : decodeGroups a.bare offset s = .ok bytes) :
    s = encode a bytes := by
  fun_induction decodeGroups a.bare offset s generalizing bytes with
  | case1 offset b₀ b₁ b₂ b₃ b₄ r ih =>
      obtain ⟨w, hread₀, h₁⟩ := bind_eq_ok_iff.mp h
      obtain ⟨x, hread₁, h₂⟩ := bind_eq_ok_iff.mp h₁
      obtain ⟨y, hread₂, h₃⟩ := bind_eq_ok_iff.mp h₂
      obtain ⟨z, hread₃, h₄⟩ := bind_eq_ok_iff.mp h₃
      obtain ⟨rest, hrest, h₅⟩ := bind_eq_ok_iff.mp h₄
      obtain ⟨hw, rfl⟩ := Alphabet.read_eq_ok_iff.mp hread₀
      obtain ⟨hx, rfl⟩ := Alphabet.read_eq_ok_iff.mp hread₁
      obtain ⟨hy, rfl⟩ := Alphabet.read_eq_ok_iff.mp hread₂
      obtain ⟨hz, rfl⟩ := Alphabet.read_eq_ok_iff.mp hread₃
      obtain ⟨p, q, r, hpqr, hw, hx, hy, hz⟩ := exists_octets hw hx hy hz
      rw [hpqr] at h₅
      cases h₅
      rw [ih hrest, List.cons_append, List.cons_append, List.cons_append, List.nil_append, encode,
        ← hw, ← hx, ← hy, ← hz]
      rfl
  | case2 =>
      cases h
      rfl
  | case3 offset s hlong hne =>
      obtain ⟨vs, hvs, rfl⟩ := symbols_of_decodeTail h
      have hlen : vs.length ≤ 4 := by
        match vs, hlong, hne with
        | [], _, _ => simp
        | [_], _, _ => simp
        | [_, _], _, _ => simp
        | [_, _, _], _, _ => simp
        | [_, _, _, _], _, _ => simp
        | _ :: _ :: _ :: _ :: _ :: _, hlong, _ =>
            exact absurd rfl (hlong _ _ _ _ _ _)
      exact encode_of_tailOctets? hvs ((decodeTail_symbols hvs hlen).mp h)

/-- What is written does not end with a group of one symbol. -/
lemma encode_length_mod (a : Alphabet) (bytes : List UInt8) : (encode a bytes).length % 4 ≠ 1 := by
  fun_induction encode a bytes with
  | case1 => simp
  | case2 => simp
  | case3 => simp
  | case4 p q r rest ih =>
      simp only [List.length_cons]
      omega

/-- **A text is read as some octets exactly if it is what is written for them.** -/
theorem decode_eq_ok_iff : decode a.bare s = .ok bytes ↔ s = encode a bytes := by
  rw [decode]
  constructor
  · intro h
    split at h
    · split_ifs at h
      exact eq_encode_of_decodeGroups h
    · cases h
      simpa [encode] using ‹s.getLast? = none›
  · rintro rfl
    have hmod := encode_length_mod a bytes
    split
    · simp [hmod, decodeGroups_encode]
    · by_contra hne
      have hbytes : bytes ≠ [] := fun hb => hne (by rw [hb])
      exact encode_ne_nil hbytes (List.getLast?_eq_none_iff.mp ‹_›)

/-- Octets are told by what is written for them. -/
lemma encode_inj {bytes' : List UInt8} : encode a bytes = encode a bytes' ↔ bytes = bytes' := by
  constructor
  · intro h
    exact Except.ok.inj ((decode_eq_ok_iff.mpr rfl).symm.trans (decode_eq_ok_iff.mpr h))
  · rintro rfl
    rfl

end Keyring.Base64
