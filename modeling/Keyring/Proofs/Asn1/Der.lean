import Mathlib.Tactic
import Keyring.Asn1.Der
import Keyring.Proofs.Number.Octets

/-!
Reading elements of the distinguished encoding accepts exactly what writing them produces.

* `readLength?_eq_some_iff`: lengths.
* `read?_eq_some_iff`, `readAs?_eq_some_iff`, `only?_eq_some_iff`: elements, with a given tag, and
  with nothing after them.
* `readUnsigned?_eq_some_iff`: whole numbers that are not negative.
-/

namespace Keyring.Asn1.Der

open Number (bitSize bitSize_le_iff ofOctets ofOctets_append_singleton ofOctets_lt
  ofOctets_toOctets octetSize octetSize_le_iff toOctets toOctets_length toOctets_ofOctets)

variable {s r content : List UInt8} {tag : UInt8} {n : ℕ}

/-! ### Lengths -/

lemma octetSize_of_le (h : n ≤ lengthLimit) : octetSize n ≤ 4 :=
  octetSize_le_iff.mpr (lt_of_le_of_lt h (by decide))

/-- A number is below the power of its size, and not below the one before it. -/
lemma octetSize_eq_iff {count : ℕ} (hc : 0 < count) :
    octetSize n = count ↔ 256 ^ (count - 1) ≤ n ∧ n < 256 ^ count := by
  rw [← octetSize_le_iff, ← not_lt (b := 256 ^ (count - 1)), ← octetSize_le_iff]
  omega

/-- A length of more than one octet: the number of those that follow, and these. -/
lemma readLength?_cons_eq_some_iff {b : UInt8} {count : ℕ} (hlong : ¬ b < 0x80)
    (hcount : b.toNat = 0x80 + count) : readLength? (b :: s) = some (n, r)
      ↔ (0 < count ∧ count ≤ 4 ∧ count ≤ s.length) ∧ ofOctets (s.take count) = n
        ∧ (0x80 ≤ n ∧ 256 ^ (count - 1) ≤ n ∧ n ≤ lengthLimit) ∧ s.drop count = r := by
  rw [readLength?, if_neg hlong, hcount]
  dsimp only
  rw [Nat.add_sub_cancel_left]
  simp only [Bool.or_eq_true, decide_eq_true_eq, Nat.pow_eq]
  split_ifs with hsize hvalue
  · simp only [false_iff]
    omega
  · simp only [false_iff]
    rintro ⟨-, rfl, hn, -⟩
    omega
  · simp only [Option.some.injEq, Prod.mk.injEq]
    constructor
    · rintro ⟨rfl, rfl⟩
      exact ⟨by omega, rfl, by omega, rfl⟩
    · rintro ⟨-, hn, -, hr⟩
      exact ⟨hn, hr⟩

/-- A length that was written is read. -/
lemma readLength?_writeLength (h : n ≤ lengthLimit) (r : List UInt8) :
    readLength? (writeLength n ++ r) = some (n, r) := by
  rw [writeLength]
  split_ifs with hshort
  · have hn : (UInt8.ofNat n).toNat = n :=
      UInt8.toNat_ofNat_of_lt' (lt_trans hshort (by decide))
    have hlow : UInt8.ofNat n < 0x80 := UInt8.lt_iff_toNat_lt.mpr (hn.symm ▸ hshort)
    rw [List.singleton_append, readLength?, if_pos hlow, hn]
  · have hcount : octetSize n ≤ 4 := octetSize_of_le h
    have hpos : 0 < octetSize n := by
      by_contra hno
      have hzero := octetSize_le_iff.mp (not_lt.mp hno)
      omega
    obtain ⟨hlow, hhigh⟩ := (octetSize_eq_iff hpos).mp rfl
    have hb : (UInt8.ofNat (0x80 + octetSize n)).toNat = 0x80 + octetSize n :=
      UInt8.toNat_ofNat_of_lt' (lt_of_le_of_lt (Nat.add_le_add_left hcount _) (by decide))
    have hlong : ¬ UInt8.ofNat (0x80 + octetSize n) < 0x80 := by
      rw [UInt8.lt_iff_toNat_lt, hb]
      exact not_lt.mpr (Nat.le_add_right _ _)
    dsimp only
    rw [List.cons_append]
    refine (readLength?_cons_eq_some_iff hlong hb).mpr ⟨⟨hpos, hcount, ?_⟩, ?_, ⟨?_, hlow, h⟩, ?_⟩
    · rw [List.length_append, toOctets_length]
      exact Nat.le_add_right _ _
    · rw [List.take_left' (toOctets_length _ _), ofOctets_toOctets, Nat.mod_eq_of_lt hhigh]
    · exact not_lt.mp hshort
    · exact List.drop_left' (toOctets_length _ _)

/-- Where a length is read, it stands as it would be written. -/
lemma eq_writeLength_of_readLength? (h : readLength? s = some (n, r)) :
    s = writeLength n ++ r ∧ n ≤ lengthLimit := by
  cases s with
  | nil => cases h
  | cons b s =>
      by_cases hshort : b < 0x80
      · rw [readLength?, if_pos hshort] at h
        obtain ⟨rfl, rfl⟩ := Prod.mk.inj (Option.some.inj h)
        have hlt : b.toNat < 0x80 := UInt8.lt_iff_toNat_lt.mp hshort
        rw [writeLength, if_pos hlt, UInt8.ofNat_toNat]
        exact ⟨rfl, hlt.le.trans (by decide)⟩
      · obtain ⟨count, hcount⟩ : ∃ count, b.toNat = 0x80 + count :=
          Nat.exists_eq_add_of_le (not_lt.mp fun hlt => hshort (UInt8.lt_iff_toNat_lt.mpr hlt))
        obtain ⟨⟨hpos, -, hlength⟩, rfl, ⟨hlow, hpow, hle⟩, rfl⟩ :=
          (readLength?_cons_eq_some_iff hshort hcount).mp h
        have htake : (s.take count).length = count := List.length_take_of_le hlength
        have hsize : octetSize (ofOctets (s.take count)) = count :=
          (octetSize_eq_iff hpos).mpr ⟨hpow, by simpa [htake] using ofOctets_lt (s.take count)⟩
        have hoctets := toOctets_ofOctets (s.take count)
        rw [htake] at hoctets
        rw [writeLength, if_neg (not_lt.mpr hlow)]
        dsimp only
        rw [hsize, ← hcount, UInt8.ofNat_toNat, hoctets, List.cons_append, List.take_append_drop]
        exact ⟨rfl, hle⟩

/-- **A length is read exactly where it was written.** -/
lemma readLength?_eq_some_iff :
    readLength? s = some (n, r) ↔ s = writeLength n ++ r ∧ n ≤ lengthLimit :=
  ⟨eq_writeLength_of_readLength?, fun ⟨hs, h⟩ => hs ▸ readLength?_writeLength h r⟩

/-! ### Elements -/

/-- **An element is read exactly where it was written.** -/
theorem read?_eq_some_iff : read? s = some (tag, content, r)
    ↔ s = write tag content ++ r ∧ isTag tag = true ∧ content.length ≤ lengthLimit := by
  cases s with
  | nil => simp [read?, write]
  | cons b s =>
      simp only [read?, write, Option.bind_eq_bind, Option.bind_eq_some_iff, Prod.exists,
        readLength?_eq_some_iff, List.cons_append, List.cons.injEq]
      constructor
      · rintro ⟨n, rest, ⟨rfl, hle⟩, h⟩
        split_ifs at h with hfits
        obtain ⟨rfl, rfl, rfl⟩ : b = tag ∧ rest.take n = content ∧ rest.drop n = r := by
          simpa using h
        simp only [Bool.or_eq_true, Bool.not_eq_true', decide_eq_true_eq, not_or, not_lt,
          Bool.not_eq_false] at hfits
        have hlength : (rest.take n).length = n := List.length_take_of_le hfits.2
        rw [hlength, List.append_assoc, List.take_append_drop]
        exact ⟨⟨rfl, rfl⟩, hfits.1, hle⟩
      · rintro ⟨⟨rfl, rfl⟩, htag, hle⟩
        refine ⟨content.length, content ++ r, ⟨by rw [List.append_assoc], hle⟩, ?_⟩
        rw [if_neg (by simp [htag]), List.take_left, List.drop_left]

lemma readAs?_eq_some_iff : readAs? tag s = some (content, r)
    ↔ s = write tag content ++ r ∧ isTag tag = true ∧ content.length ≤ lengthLimit := by
  rw [← read?_eq_some_iff, readAs?]
  simp only [Option.bind_eq_bind, Option.bind_eq_some_iff, Prod.exists]
  constructor
  · rintro ⟨t, c, rest, hread, h⟩
    split_ifs at h with htag
    obtain ⟨rfl, rfl⟩ := Prod.mk.inj (Option.some.inj h)
    rw [hread, htag]
  · exact fun h => ⟨tag, content, r, h, if_pos rfl⟩

/-- An element that was written has more octets than its content. -/
lemma length_lt_length_write (tag : UInt8) (content : List UInt8) :
    content.length < (write tag content).length := by
  rw [write, List.length_cons, List.length_append]
  omega

lemma only?_eq_some_iff : only? tag s = some content
    ↔ s = write tag content ∧ isTag tag = true ∧ s.length ≤ lengthLimit := by
  rw [only?]
  simp only [Option.bind_eq_bind, Option.bind_eq_some_iff, Prod.exists, readAs?_eq_some_iff]
  constructor
  · rintro ⟨c, rest, ⟨rfl, htag, -⟩, h⟩
    split_ifs at h with hend
    obtain rfl := Option.some.inj h
    simp only [Bool.and_eq_true, List.isEmpty_iff, decide_eq_true_eq] at hend
    obtain ⟨rfl, hle⟩ := hend
    rw [List.append_nil] at hle ⊢
    exact ⟨rfl, htag, hle⟩
  · rintro ⟨rfl, htag, hle⟩
    have hshorter := (length_lt_length_write tag content).le.trans hle
    exact ⟨content, [], ⟨(List.append_nil _).symm, htag, hshorter⟩, by simp [hle]⟩

/-! ### Whole numbers -/

/-- A first octet is worth itself times the power of 256 of those that follow. -/
lemma ofOctets_cons (b : UInt8) (s : List UInt8) :
    ofOctets (b :: s) = b.toNat * 256 ^ s.length + ofOctets s := by
  induction s using List.reverseRecOn with
  | nil => simp [ofOctets]
  | append_singleton s c ih =>
      rw [← List.cons_append, ofOctets_append_singleton, ofOctets_append_singleton, ih,
        List.length_append, List.length_singleton, pow_succ]
      ring

/-- The top bit of a first octet is zero exactly if the number is small enough. -/
lemma top_lt_iff (b : UInt8) (s : List UInt8) :
    b < 0x80 ↔ bitSize (ofOctets (b :: s)) ≤ 8 * s.length + 7 := by
  have hpow : (2 : ℕ) ^ (8 * s.length + 7) = 128 * 256 ^ s.length := by
    rw [pow_add, pow_mul]
    ring
  have hrest := ofOctets_lt s
  rw [bitSize_le_iff, hpow, ofOctets_cons, UInt8.lt_iff_toNat_lt]
  show b.toNat < 128 ↔ _
  constructor
  · intro hb
    calc b.toNat * 256 ^ s.length + ofOctets s
        < b.toNat * 256 ^ s.length + 256 ^ s.length := Nat.add_lt_add_left hrest _
      _ = (b.toNat + 1) * 256 ^ s.length := (Nat.succ_mul _ _).symm
      _ ≤ 128 * 256 ^ s.length := Nat.mul_le_mul_right _ hb
  · intro hlt
    by_contra hb
    have hle := Nat.mul_le_mul_right (256 ^ s.length) (not_lt.mp hb)
    omega

/-- Octets are a whole number exactly if they are as many as it takes. -/
lemma isUnsigned_iff : isUnsigned content = true
    ↔ content.length = bitSize (ofOctets content) / 8 + 1 := by
  match content with
  | [] => simp [isUnsigned]
  | [b] =>
      have htop := top_lt_iff b []
      simp only [isUnsigned, decide_eq_true_eq, htop, List.length_nil, List.length_singleton]
      omega
  | a :: b :: rest =>
      have htop := top_lt_iff a (b :: rest)
      have hnext := top_lt_iff b rest
      -- one octet less would do exactly if the first one is zero and the next one is small
      have hless :
          a = 0 ∧ b < 0x80 ↔ bitSize (ofOctets (a :: b :: rest)) ≤ 8 * rest.length + 7 := by
        constructor
        · rintro ⟨rfl, hb⟩
          have hzero : ofOctets (0 :: b :: rest) = ofOctets (b :: rest) := by
            rw [ofOctets_cons]
            simp
          rw [hzero]
          exact hnext.mp hb
        · intro hsmall
          have hlt := bitSize_le_iff.mp hsmall
          have hpow : 2 ^ (8 * rest.length + 7) ≤ 256 ^ (b :: rest).length := by
            rw [show 256 = 2 ^ 8 from rfl, ← pow_mul, List.length_cons]
            exact Nat.pow_le_pow_right (by decide) (by omega)
          have hzero : a = 0 := by
            by_contra hne
            have hone : 1 ≤ a.toNat := Nat.one_le_iff_ne_zero.mpr fun h =>
              hne (UInt8.toNat_inj.mp h)
            have hle := Nat.mul_le_mul_right (256 ^ (b :: rest).length) hone
            rw [ofOctets_cons] at hlt
            omega
          subst hzero
          rw [ofOctets_cons] at hsmall
          exact ⟨rfl, hnext.mpr (by simpa using hsmall)⟩
      simp only [isUnsigned, Bool.and_eq_true, Bool.not_eq_true', decide_eq_true_eq, htop,
        ← Bool.not_eq_true, hless, List.length_cons]
      omega

/-- The octets of an unsigned number are those that are read as it. -/
lemma eq_unsignedOctets_iff :
    content = unsignedOctets n ↔ isUnsigned content = true ∧ ofOctets content = n := by
  have hfits : n < 256 ^ (bitSize n / 8 + 1) := by
    rw [show 256 = 2 ^ 8 from rfl, ← pow_mul, ← bitSize_le_iff]
    omega
  have hvalue : ofOctets (unsignedOctets n) = n := by
    rw [unsignedOctets, ofOctets_toOctets, Nat.mod_eq_of_lt hfits]
  rw [isUnsigned_iff]
  constructor
  · rintro rfl
    rw [hvalue, unsignedOctets, toOctets_length]
    exact ⟨rfl, rfl⟩
  · rintro ⟨hlength, rfl⟩
    rw [unsignedOctets, ← hlength, toOctets_ofOctets]

/-- **A whole number is read exactly where it was written.** -/
theorem readUnsigned?_eq_some_iff : readUnsigned? s = some (n, r)
    ↔ s = writeUnsigned n ++ r ∧ (unsignedOctets n).length ≤ lengthLimit := by
  rw [readUnsigned?]
  simp only [Option.bind_eq_bind, Option.bind_eq_some_iff, Prod.exists, readAs?_eq_some_iff]
  constructor
  · rintro ⟨content, rest, ⟨rfl, -, hle⟩, h⟩
    split_ifs at h with hunsigned
    obtain ⟨hvalue, rfl⟩ := Prod.mk.inj (Option.some.inj h)
    rw [writeUnsigned, ← eq_unsignedOctets_iff.mpr ⟨hunsigned, hvalue⟩]
    exact ⟨rfl, hle⟩
  · rintro ⟨rfl, hle⟩
    obtain ⟨hunsigned, hvalue⟩ := eq_unsignedOctets_iff.mp (rfl : unsignedOctets n = _)
    exact ⟨_, r, ⟨rfl, by decide, hle⟩, by rw [if_pos hunsigned, hvalue]⟩

end Keyring.Asn1.Der
