import Mathlib.Tactic
import Keyring.Text.Utf8

/-!
A text written in UTF-8 is read back, and what is read was written so.

* `next_one`, `next_two`, `next_three`, `next_four`: what is read at the front of octets that make a
  character.
* `next_encodeChar`: the octets of a character are read as this character.
* `encodeChar_ascii`: an ASCII character is its own octet.
* `decode_encode`: the octets of a text are read as this text.
* `of_mem_encodeChar`: the octets of a character are the character itself or none of ASCII.
* `encodeChar_two`, `encodeChar_three`, `encodeChar_four`: octets that make a character are those of
  this character.
* `eq_encodeChar_of_next`, `eq_encode_of_decode`: what is read as a character or as a text are its
  octets.
* `encodeChar_eq_cons`: the first octet of a character is told from the others.
-/

namespace Keyring.Utf8

variable {a b c d : UInt8} {r : List UInt8}

/-! ### Octets by their numbers -/

lemma isTail_iff : isTail b = true ↔ 0x80 ≤ b.toNat ∧ b.toNat ≤ 0xBF := by
  simp [isTail, UInt8.le_iff_toNat_le]

/-- Six bits make an octet that continues a character, and can be read off it. -/
lemma tail_ofNat (n : ℕ) :
    isTail (UInt8.ofNat (0x80 + n % 0x40)) = true
      ∧ tailBits (UInt8.ofNat (0x80 + n % 0x40)) = n % 0x40 := by
  have hn : (UInt8.ofNat (0x80 + n % 0x40)).toNat = 0x80 + n % 0x40 := by
    rw [UInt8.toNat_ofNat']
    omega
  rw [isTail_iff, tailBits, hn]
  omega

/-- Which second octets may follow a first one. -/
lemma isSecond_of_tail (hb : isTail b = true) (h₀ : a.toNat = 0xE0 → 0xA0 ≤ b.toNat)
    (h₁ : a.toNat = 0xED → b.toNat ≤ 0x9F) (h₂ : a.toNat = 0xF0 → 0x90 ≤ b.toNat)
    (h₃ : a.toNat = 0xF4 → b.toNat ≤ 0x8F) : isSecond a b = true := by
  obtain ⟨hlow, hhigh⟩ := isTail_iff.mp hb
  rw [isSecond]
  split_ifs with hE0 hED hF0 hF4
  · simpa [UInt8.le_iff_toNat_le] using ⟨h₀ (congrArg UInt8.toNat hE0), hhigh⟩
  · simpa [UInt8.le_iff_toNat_le] using ⟨hlow, h₁ (congrArg UInt8.toNat hED)⟩
  · simpa [UInt8.le_iff_toNat_le] using ⟨h₂ (congrArg UInt8.toNat hF0), hhigh⟩
  · simpa [UInt8.le_iff_toNat_le] using ⟨hlow, h₃ (congrArg UInt8.toNat hF4)⟩
  · exact hb

/-! ### The character at the front -/

lemma next_one (ha : a.toNat < 0x80) : next (a :: r) = .char (Char.ofNat a.toNat) r := by
  simp [next, UInt8.lt_iff_toNat_lt, ha]

lemma next_two (ha : 0xC2 ≤ a.toNat ∧ a.toNat ≤ 0xDF) (hb : isTail b = true) :
    next (a :: b :: r) = .char (Char.ofNat (a.toNat % 0x20 * 0x40 + tailBits b)) r := by
  have hone : ¬ a.toNat < 0x80 := by omega
  simp [next, UInt8.lt_iff_toNat_lt, UInt8.le_iff_toNat_le, hone, ha, hb]

lemma next_three (ha : 0xE0 ≤ a.toNat ∧ a.toNat ≤ 0xEF) (hb : isSecond a b = true)
    (hc : isTail c = true) :
    next (a :: b :: c :: r)
      = .char (Char.ofNat (a.toNat % 0x10 * 0x1000 + tailBits b * 0x40 + tailBits c)) r := by
  have hone : ¬ a.toNat < 0x80 := by omega
  have htwo : ¬ a.toNat ≤ 0xDF := by omega
  simp [next, UInt8.lt_iff_toNat_lt, UInt8.le_iff_toNat_le, hone, htwo, ha, hb, hc]

lemma next_four (ha : 0xF0 ≤ a.toNat ∧ a.toNat ≤ 0xF4) (hb : isSecond a b = true)
    (hc : isTail c = true) (hd : isTail d = true) :
    next (a :: b :: c :: d :: r)
      = .char (Char.ofNat (a.toNat % 8 * 0x40000 + tailBits b * 0x1000 + tailBits c * 0x40
        + tailBits d)) r := by
  have hone : ¬ a.toNat < 0x80 := by omega
  have htwo : ¬ a.toNat ≤ 0xDF := by omega
  have hthree : ¬ a.toNat ≤ 0xEF := by omega
  simp [next, UInt8.lt_iff_toNat_lt, UInt8.le_iff_toNat_le, hone, htwo, hthree, ha, hb, hc, hd]

lemma toNat_octet {n : ℕ} (h : n < 256) : (UInt8.ofNat n).toNat = n := by
  rw [UInt8.toNat_ofNat']
  omega

/-- **The octets of a character are read as this character**, whatever follows. -/
theorem next_encodeChar (x : Char) (r : List UInt8) : next (encodeChar x ++ r) = .char x r := by
  have hvalid : x.toNat < 0xD800 ∨ 0xDFFF < x.toNat ∧ x.toNat < 0x110000 := x.valid
  have hx : Char.ofNat x.toNat = x := Char.ofNat_toNat x
  rw [encodeChar]
  generalize x.toNat = n at hvalid hx
  obtain ⟨hlast, hlastBits⟩ := tail_ofNat n
  obtain ⟨hmiddle, hmiddleBits⟩ := tail_ofNat (n / 0x40)
  obtain ⟨hfront, hfrontBits⟩ := tail_ofNat (n / 0x1000)
  have hmiddleNat := toNat_octet (n := 0x80 + n / 0x40 % 0x40) (by omega)
  have hfrontNat := toNat_octet (n := 0x80 + n / 0x1000 % 0x40) (by omega)
  -- in each case the number is put together again from the bits of the octets
  split_ifs with h₁ h₂ h₃
  · have ha := toNat_octet (n := n) (by omega)
    rw [List.singleton_append, next_one (by omega), ha, hx]
  · have ha := toNat_octet (n := 0xC0 + n / 0x40) (by omega)
    have hn : (0xC0 + n / 0x40) % 0x20 * 0x40 + n % 0x40 = n := by omega
    rw [List.cons_append, List.singleton_append, next_two (by omega) hlast, ha, hlastBits, hn, hx]
  · have ha := toNat_octet (n := 0xE0 + n / 0x1000) (by omega)
    have hn : (0xE0 + n / 0x1000) % 0x10 * 0x1000 + n / 0x40 % 0x40 * 0x40 + n % 0x40 = n := by
      omega
    have hsecond : isSecond (UInt8.ofNat (0xE0 + n / 0x1000))
        (UInt8.ofNat (0x80 + n / 0x40 % 0x40)) = true :=
      isSecond_of_tail hmiddle (by omega) (by omega) (by omega) (by omega)
    rw [List.cons_append, List.cons_append, List.singleton_append,
      next_three (by omega) hsecond hlast, ha, hmiddleBits, hlastBits, hn, hx]
  · have ha := toNat_octet (n := 0xF0 + n / 0x40000) (by omega)
    have hn : (0xF0 + n / 0x40000) % 8 * 0x40000 + n / 0x1000 % 0x40 * 0x1000
        + n / 0x40 % 0x40 * 0x40 + n % 0x40 = n := by omega
    have hsecond : isSecond (UInt8.ofNat (0xF0 + n / 0x40000))
        (UInt8.ofNat (0x80 + n / 0x1000 % 0x40)) = true :=
      isSecond_of_tail hfront (by omega) (by omega) (by omega) (by omega)
    rw [List.cons_append, List.cons_append, List.cons_append, List.singleton_append,
      next_four (by omega) hsecond hmiddle hlast, ha, hfrontBits, hmiddleBits, hlastBits, hn, hx]

/-! ### Texts -/

/-- An ASCII character is its own octet. -/
lemma encodeChar_ascii (h : b.toNat < 0x80) : encodeChar (Char.ofNat b.toNat) = [b] := by
  have hchar : (Char.ofNat b.toNat).toNat = b.toNat := by
    rw [Char.ofNat, dif_pos (.inl (by omega))]
    rfl
  rw [encodeChar, hchar, if_pos h, UInt8.ofNat_toNat]

/-- The octets of a text are read as this text, wherever they begin. -/
lemma decodeFrom_encode (offset : ℕ) (cs : List Char) : decodeFrom offset (encode cs) = .ok cs := by
  induction cs generalizing offset with
  | nil =>
      rw [encode, List.flatMap_nil, decodeFrom]
      rfl
  | cons x cs ih =>
      rw [encode, List.flatMap_cons, decodeFrom]
      split
      · rename_i h
        simp [next_encodeChar] at h
      · rename_i c rest h
        rw [next_encodeChar, Step.char.injEq] at h
        obtain ⟨rfl, rfl⟩ := h
        rw [← encode, ih]
        rfl
      · rename_i h
        simp [next_encodeChar] at h
      · rename_i h
        simp [next_encodeChar] at h

/-- **The octets of a text are read as this text.** -/
theorem decode_encode (cs : List Char) : decode (encode cs) = .ok cs := decodeFrom_encode 0 cs

/-- Characters are told by their octets. -/
lemma encode_inj {cs ds : List Char} : encode cs = encode ds ↔ cs = ds := by
  constructor
  · intro h
    exact Except.ok.inj ((decode_encode cs).symm.trans (h ▸ decode_encode ds))
  · rintro rfl
    rfl

/-- The octets of an ASCII character are the character itself, and those of another one are none of
ASCII. -/
lemma of_mem_encodeChar {x : Char} (h : b ∈ encodeChar x) :
    b.toNat = x.toNat ∨ 0x80 ≤ b.toNat := by
  have hvalid : x.toNat < 0xD800 ∨ 0xDFFF < x.toNat ∧ x.toNat < 0x110000 := x.valid
  rw [encodeChar] at h
  generalize x.toNat = n at h hvalid
  have htail : ∀ k, 0x80 ≤ (UInt8.ofNat (0x80 + k % 0x40)).toNat := fun k =>
    (isTail_iff.mp (tail_ofNat k).1).1
  split_ifs at h with h₁ h₂ h₃
  · rw [List.mem_singleton.mp h, toNat_octet (by omega)]
    exact .inl rfl
  · refine .inr ?_
    rcases List.mem_pair.mp h with rfl | rfl
    · rw [toNat_octet (by omega)]
      omega
    · exact htail _
  · refine .inr ?_
    rcases List.mem_cons.mp h with rfl | h
    · rw [toNat_octet (by omega)]
      omega
    · rcases List.mem_pair.mp h with rfl | rfl
      · exact htail _
      · exact htail _
  · refine .inr ?_
    rcases List.mem_cons.mp h with rfl | h
    · rw [toNat_octet (by omega)]
      omega
    · rcases List.mem_cons.mp h with rfl | h
      · exact htail _
      · rcases List.mem_pair.mp h with rfl | rfl
        · exact htail _
        · exact htail _

/-! ### Octets that are read as a text -/

/-- A number that is no surrogate is that of its character. -/
lemma toNat_char {n : ℕ} (h : n < 0xD800 ∨ 0xDFFF < n ∧ n < 0x110000) :
    (Char.ofNat n).toNat = n := by
  rw [Char.ofNat, dif_pos h]
  rfl

lemma ofNat_eq {n : ℕ} (h : n = b.toNat) : UInt8.ofNat n = b := by
  rw [h, UInt8.ofNat_toNat]

/-- What is known of a second octet after a first one. -/
lemma of_isSecond (h : isSecond a b = true) : (0x80 ≤ b.toNat ∧ b.toNat ≤ 0xBF)
    ∧ (a.toNat = 0xE0 → 0xA0 ≤ b.toNat) ∧ (a.toNat = 0xED → b.toNat ≤ 0x9F)
    ∧ (a.toNat = 0xF0 → 0x90 ≤ b.toNat) ∧ (a.toNat = 0xF4 → b.toNat ≤ 0x8F) := by
  simp only [isSecond, isTail, ← UInt8.toNat_inj, UInt8.le_iff_toNat_le, UInt8.reduceToNat] at h
  split_ifs at h with hE0 hED hF0 hF4
  all_goals
    simp only [Bool.and_eq_true, decide_eq_true_eq] at h
    omega

/-- Two octets that make a character are those of this character. -/
lemma encodeChar_two (ha : 0xC2 ≤ a.toNat ∧ a.toNat ≤ 0xDF) (hb : isTail b = true) :
    encodeChar (Char.ofNat (a.toNat % 0x20 * 0x40 + tailBits b)) = [a, b] := by
  have hb := isTail_iff.mp hb
  generalize hn : a.toNat % 0x20 * 0x40 + tailBits b = n
  rw [tailBits] at hn
  rw [encodeChar, toNat_char (by omega), if_neg (by omega), if_pos (by omega),
    ofNat_eq (b := a) (by omega), ofNat_eq (b := b) (by omega)]

lemma encodeChar_three (ha : 0xE0 ≤ a.toNat ∧ a.toNat ≤ 0xEF) (hb : isSecond a b = true)
    (hc : isTail c = true) :
    encodeChar (Char.ofNat (a.toNat % 0x10 * 0x1000 + tailBits b * 0x40 + tailBits c))
      = [a, b, c] := by
  obtain ⟨hb, hE0, hED, -⟩ := of_isSecond hb
  have hc := isTail_iff.mp hc
  generalize hn : a.toNat % 0x10 * 0x1000 + tailBits b * 0x40 + tailBits c = n
  rw [tailBits, tailBits] at hn
  -- after 0xE0 the second octet excludes shorter characters, after 0xED it excludes surrogates
  rw [encodeChar, toNat_char (by omega), if_neg (by omega), if_neg (by omega), if_pos (by omega),
    ofNat_eq (b := a) (by omega), ofNat_eq (b := b) (by omega), ofNat_eq (b := c) (by omega)]

lemma encodeChar_four (ha : 0xF0 ≤ a.toNat ∧ a.toNat ≤ 0xF4) (hb : isSecond a b = true)
    (hc : isTail c = true) (hd : isTail d = true) :
    encodeChar (Char.ofNat (a.toNat % 8 * 0x40000 + tailBits b * 0x1000 + tailBits c * 0x40
      + tailBits d)) = [a, b, c, d] := by
  obtain ⟨hb, -, -, hF0, hF4⟩ := of_isSecond hb
  have hc := isTail_iff.mp hc
  have hd := isTail_iff.mp hd
  generalize hn : a.toNat % 8 * 0x40000 + tailBits b * 0x1000 + tailBits c * 0x40
    + tailBits d = n
  rw [tailBits, tailBits, tailBits] at hn
  -- after 0xF0 the second octet excludes shorter characters, after 0xF4 what is above U+10FFFF
  rw [encodeChar, toNat_char (by omega), if_neg (by omega), if_neg (by omega), if_neg (by omega),
    ofNat_eq (b := a) (by omega), ofNat_eq (b := b) (by omega), ofNat_eq (b := c) (by omega),
    ofNat_eq (b := d) (by omega)]

/-- **A character that is read was written** in its octets: the first of them tells how many there
are, and they hold its bits. -/
theorem eq_encodeChar_of_next {x : Char} (h : next s = .char x r) : s = encodeChar x ++ r := by
  unfold next at h
  split at h
  · cases h
  · next a t =>
    simp only [UInt8.lt_iff_toNat_lt, UInt8.le_iff_toNat_le, UInt8.reduceToNat, Bool.and_eq_true,
      decide_eq_true_eq] at h
    split_ifs at h with hone htwo hthree hfour
    -- one octet
    · cases h
      rw [encodeChar_ascii hone, List.singleton_append]
    -- two octets
    · split at h
      · cases h
      · split_ifs at h with hb
        cases h
        rw [encodeChar_two htwo hb]
        rfl
    -- three octets
    · split at h
      · cases h
      · split_ifs at h with hb
        split at h
        · cases h
        · split_ifs at h with hc
          cases h
          rw [encodeChar_three hthree hb hc]
          rfl
    -- four octets
    · split at h
      · cases h
      · split_ifs at h with hb
        split at h
        · cases h
        · split_ifs at h with hc
          split at h
          · cases h
          · split_ifs at h with hd
            cases h
            rw [encodeChar_four hfour hb hc hd]
            rfl

lemma eq_nil_of_next (h : next s = .done) : s = [] := by
  unfold next at h
  repeat' split at h
  all_goals first | rfl | cases h

/-- What is read from some octets on was written in them. -/
lemma eq_encode_of_decodeFrom {offset : ℕ} {cs : List Char} (h : decodeFrom offset s = .ok cs) :
    s = encode cs := by
  fun_induction decodeFrom offset s generalizing cs with
  | case1 offset s hnext =>
      cases h
      exact eq_nil_of_next hnext
  | case2 offset s x rest hnext ih =>
      obtain ⟨cs', hcs', rfl⟩ : ∃ cs', decodeFrom (offset + (s.length - rest.length)) rest = .ok cs'
          ∧ x :: cs' = cs := by
        cases hd : decodeFrom (offset + (s.length - rest.length)) rest with
        | error f => simp [hd, Except.map] at h
        | ok cs' => exact ⟨cs', rfl, by simpa [hd, Except.map] using h⟩
      have hencode : encode (x :: cs') = encodeChar x ++ encode cs' := List.flatMap_cons
      rw [hencode, ← ih hcs']
      exact eq_encodeChar_of_next hnext
  | case3 => cases h
  | case4 => cases h

/-- **Octets that are read as a text are those of this text.** -/
theorem eq_encode_of_decode {cs : List Char} (h : decode s = .ok cs) : s = encode cs :=
  eq_encode_of_decodeFrom h

/-- **The first octet of a character is told from the others**, which continue it. -/
lemma encodeChar_eq_cons (x : Char) :
    ∃ first others, encodeChar x = first :: others ∧ isTail first = false
      ∧ ∀ b ∈ others, isTail b = true := by
  have hvalid : x.toNat < 0xD800 ∨ 0xDFFF < x.toNat ∧ x.toNat < 0x110000 := x.valid
  have hfirst : ∀ {n : ℕ}, n < 0x80 ∨ 0xC0 ≤ n → n < 0x100 → isTail (UInt8.ofNat n) = false := by
    intro n hn hlt
    rw [← Bool.not_eq_true, isTail_iff, toNat_octet hlt]
    omega
  have htail : ∀ n, isTail (UInt8.ofNat (0x80 + n % 0x40)) = true := fun n => (tail_ofNat n).1
  rw [encodeChar]
  generalize x.toNat = n at hvalid
  split_ifs with h₁ h₂ h₃
  · exact ⟨_, [], rfl, hfirst (.inl h₁) (by omega), by simp⟩
  · exact ⟨_, _, rfl, hfirst (.inr (by omega)) (by omega),
      List.forall_mem_singleton.mpr (htail _)⟩
  · exact ⟨_, _, rfl, hfirst (.inr (by omega)) (by omega),
      List.forall_mem_cons.mpr ⟨htail _, List.forall_mem_singleton.mpr (htail _)⟩⟩
  · exact ⟨_, _, rfl, hfirst (.inr (by omega)) (by omega), List.forall_mem_cons.mpr
      ⟨htail _, List.forall_mem_cons.mpr ⟨htail _, List.forall_mem_singleton.mpr (htail _)⟩⟩⟩

end Keyring.Utf8
