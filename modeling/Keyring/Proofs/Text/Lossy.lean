import Mathlib.Tactic
import Keyring.Proofs.Text.Utf8

/-!
Octets that are read as a text although they may be none.

* `IllFormed`: the part at the front of some octets that is replaced: no character stands there, and
  the part is as long as it can be the beginning of one, or a single octet.
* `Replaces`: well-formed octets stand for their characters, and each such part for one U+FFFD.
* `decodeLossy_eq_iff`: this is what is read, of any octets.
* `decodeLossy_encode`: the octets of a text are read as this text.
-/

namespace Keyring.Utf8

variable {s r part rest : List UInt8} {x : Char} {w : ℕ} {cs ds : List Char}

/-! ### Parts that belong to no character -/

/-- Octets are the beginning of a character, or all of it. -/
def Begins (part : List UInt8) : Prop := ∃ x, part <+: encodeChar x

/-- **The ill-formed part at the front of octets.** No character stands there. The part is the
beginning of one, or a single octet, and with the octet after it it would not be such a beginning.
-/
structure IllFormed (part rest : List UInt8) : Prop where
  ne_nil : part ≠ []
  no_character : ∀ x, ¬ encodeChar x <+: part ++ rest
  begins : Begins part ∨ part.length = 1
  maximal : ∀ b ∈ rest.head?, ¬ Begins (part ++ [b])

/-- **A text that stands for octets**: characters for their own octets, and one U+FFFD for each
ill-formed part. -/
inductive Replaces : List UInt8 → List Char → Prop where
  /-- Nothing stands for nothing. -/
  | nil : Replaces [] []
  /-- A character stands for its octets. -/
  | char {x : Char} {s : List UInt8} {cs : List Char} (h : Replaces s cs) :
      Replaces (encodeChar x ++ s) (x :: cs)
  /-- One mark stands for an ill-formed part. -/
  | ill {part rest : List UInt8} {cs : List Char} (h : IllFormed part rest)
      (hrest : Replaces rest cs) : Replaces (part ++ rest) ('\uFFFD' :: cs)

/-- An ill-formed part is no longer than another one at the same place. -/
lemma IllFormed.prefix_of {part' rest' : List UInt8} (h : IllFormed part rest)
    (h' : IllFormed part' rest') (heq : part ++ rest = part' ++ rest') (hle : part <+: part') :
    part = part' := by
  obtain ⟨more, rfl⟩ := hle
  rw [List.append_assoc, List.append_cancel_left_eq] at heq
  subst heq
  cases more with
  | nil => rw [List.append_nil]
  | cons b more =>
      -- the longer one is more than an octet, so the shorter one could have been longer
      refine absurd ?_ (h.maximal b rfl)
      have hlong : (part ++ b :: more).length ≠ 1 := by
        have := List.length_pos_iff.mpr h.ne_nil
        simp only [List.length_append, List.length_cons]
        omega
      obtain ⟨x, hx⟩ := h'.begins.resolve_right hlong
      have hshort : part ++ [b] <+: part ++ b :: more := ⟨more, by simp⟩
      exact ⟨x, hshort.trans hx⟩

/-- There is one ill-formed part at a place. -/
lemma IllFormed.unique {part' rest' : List UInt8} (h : IllFormed part rest)
    (h' : IllFormed part' rest') (heq : part ++ rest = part' ++ rest') :
    part = part' ∧ rest = rest' := by
  have hsame : part = part' := by
    rcases List.prefix_or_prefix_of_prefix (List.prefix_append part rest)
        (heq ▸ List.prefix_append part' rest') with hle | hle
    · exact h.prefix_of h' heq hle
    · exact (h'.prefix_of h heq.symm hle).symm
  subst hsame
  exact ⟨rfl, List.append_cancel_left heq⟩

/-- Octets are the beginnings of one character at most. -/
lemma encodeChar_append_inj {y : Char} (h : encodeChar x ++ s = encodeChar y ++ r) :
    x = y ∧ s = r := by
  have hnext := next_encodeChar x s
  rw [h, next_encodeChar, Step.char.injEq] at hnext
  exact ⟨hnext.1.symm, hnext.2.symm⟩

/-- **One text stands for octets.** -/
theorem Replaces.unique (h : Replaces s cs) (h' : Replaces s ds) : cs = ds := by
  induction h generalizing ds with
  | nil =>
      generalize hs : ([] : List UInt8) = s at h'
      cases h' with
      | nil => rfl
      | @char x =>
          obtain ⟨first, others, hx, -⟩ := encodeChar_eq_cons x
          rw [hx] at hs
          cases hs
      | ill hill => exact absurd (List.append_eq_nil_iff.mp hs.symm).1 hill.ne_nil
  | @char x s cs h ih =>
      generalize hs : encodeChar x ++ s = t at h'
      cases h' with
      | nil =>
          obtain ⟨first, others, hx, -⟩ := encodeChar_eq_cons x
          rw [hx] at hs
          cases hs
      | char h' =>
          obtain ⟨rfl, rfl⟩ := encodeChar_append_inj hs
          rw [ih h']
      | ill hill => exact absurd ⟨s, hs⟩ (hill.no_character x)
  | @ill part rest cs hill hrest ih =>
      generalize hs : part ++ rest = t at h'
      cases h' with
      | nil => exact absurd (List.append_eq_nil_iff.mp hs).1 hill.ne_nil
      | @char x s' => exact absurd ⟨s', hs.symm⟩ (hill.no_character x)
      | ill hill' hrest' =>
          obtain ⟨-, rfl⟩ := hill.unique hill' hs
          rw [ih hrest']

/-! ### Where reading stops -/

lemma begins_of_next (more : List UInt8) (h : next (s ++ more) = .char x []) : Begins s := by
  refine ⟨x, more, ?_⟩
  rw [eq_encodeChar_of_next h, List.append_nil]

/-- The least octet that may be the second one of a character, after its first one. -/
def leastSecond (a : UInt8) : UInt8 := if a = 0xE0 then 0xA0 else if a = 0xF0 then 0x90 else 0x80

lemma isSecond_leastSecond (a : UInt8) : isSecond a (leastSecond a) = true := by
  rw [isSecond, leastSecond]
  split_ifs with hE0 hED hF0 hF4
  all_goals decide

/-- **A character that is cut off is the beginning of one.** -/
lemma begins_of_cut (h : next s = .cut) : Begins s := by
  have htail : isTail 0x80 = true := by decide
  unfold next at h
  split at h
  · cases h
  · next a t =>
    simp only [UInt8.lt_iff_toNat_lt, UInt8.le_iff_toNat_le, UInt8.reduceToNat, Bool.and_eq_true,
      decide_eq_true_eq] at h
    split_ifs at h with hone htwo hthree hfour
    -- one octet of two
    · split at h
      · exact begins_of_next [0x80] (next_two htwo htail)
      · split_ifs at h
    -- one or two octets of three
    · split at h
      · exact begins_of_next [leastSecond a, 0x80]
          (next_three hthree (isSecond_leastSecond a) htail)
      · next b t =>
        split_ifs at h with hb
        split at h
        · exact begins_of_next [0x80] (next_three hthree hb htail)
        · split_ifs at h
    -- one, two or three octets of four
    · split at h
      · exact begins_of_next [leastSecond a, 0x80, 0x80]
          (next_four hfour (isSecond_leastSecond a) htail htail)
      · next b t =>
        split_ifs at h with hb
        split at h
        · exact begins_of_next [0x80, 0x80] (next_four hfour hb htail htail)
        · next c t =>
          split_ifs at h with hc
          split at h
          · exact begins_of_next [0x80] (next_four hfour hb hc htail)
          · split_ifs at h

/-- Where reading stops, whatever follows the octet it stops at. -/
lemma exists_of_ill (h : next s = .ill w rest) :
    ∃ part, s = part ++ rest ∧ part ≠ [] ∧ (next part = .cut ∨ part.length = 1)
      ∧ ∀ b ∈ rest.head?, ∀ t, ∃ w' r', next (part ++ b :: t) = .ill w' r' := by
  unfold next at h
  split at h
  · cases h
  · next a t =>
    split_ifs at h with hone htwo hthree hfour
    -- the second octet of two is missing
    · split at h
      · cases h
      · next b t =>
        split_ifs at h with hb
        cases h
        exact ⟨[a], rfl, by simp, .inr rfl, by simp [next, hone, htwo, hb]⟩
    -- the second or the third of three
    · split at h
      · cases h
      · next b t =>
        split_ifs at h with hb
        · split at h
          · cases h
          · next c t =>
            split_ifs at h with hc
            cases h
            exact ⟨[a, b], rfl, by simp, .inl (by simp [next, hone, htwo, hthree, hb]),
              by simp [next, hone, htwo, hthree, hb, hc]⟩
        · cases h
          exact ⟨[a], rfl, by simp, .inr rfl, by simp [next, hone, htwo, hthree, hb]⟩
    -- the second, the third or the fourth of four
    · split at h
      · cases h
      · next b t =>
        split_ifs at h with hb
        · split at h
          · cases h
          · next c t =>
            split_ifs at h with hc
            · split at h
              · cases h
              · next d t =>
                split_ifs at h with hd
                cases h
                exact ⟨[a, b, c], rfl, by simp,
                  .inl (by simp [next, hone, htwo, hthree, hfour, hb, hc]),
                  by simp [next, hone, htwo, hthree, hfour, hb, hc, hd]⟩
            · cases h
              exact ⟨[a, b], rfl, by simp, .inl (by simp [next, hone, htwo, hthree, hfour, hb]),
                by simp [next, hone, htwo, hthree, hfour, hb, hc]⟩
        · cases h
          exact ⟨[a], rfl, by simp, .inr rfl, by simp [next, hone, htwo, hthree, hfour, hb]⟩
    -- the octet is no first one
    · cases h
      exact ⟨[a], rfl, by simp, .inr rfl, by simp [next, hone, htwo, hthree, hfour]⟩

lemma exists_next_of_prefix (h : encodeChar x <+: s) : ∃ r, next s = .char x r := by
  obtain ⟨r, rfl⟩ := h
  exact ⟨r, next_encodeChar x r⟩

/-- **Reading stops after an ill-formed part.** -/
lemma illFormed_of_ill (h : next s = .ill w rest) :
    ∃ part, s = part ++ rest ∧ IllFormed part rest := by
  obtain ⟨part, hs, hne, hcut, hstop⟩ := exists_of_ill h
  refine ⟨part, hs, hne, ?_, hcut.imp_left begins_of_cut, ?_⟩
  · intro x hx
    obtain ⟨r, hr⟩ := exists_next_of_prefix hx
    rw [← hs, h] at hr
    cases hr
  · rintro b hb ⟨x, t, hx⟩
    obtain ⟨w', r', hw⟩ := hstop b hb t
    have hchar : encodeChar x <+: part ++ b :: t := ⟨[], by simp [← hx]⟩
    obtain ⟨r, hr⟩ := exists_next_of_prefix hchar
    rw [hw] at hr
    cases hr

/-- **A character that is cut off is an ill-formed part**, after which nothing stands. -/
lemma illFormed_of_cut (h : next s = .cut) : IllFormed s [] := by
  refine ⟨?_, ?_, .inl (begins_of_cut h), by simp⟩
  · rintro rfl
    simp [next] at h
  · intro x hx
    obtain ⟨r, hr⟩ := exists_next_of_prefix (List.append_nil s ▸ hx)
    rw [h] at hr
    cases hr

/-! ### What is read -/

/-- What is read of octets stands for them. -/
lemma replaces_decodeLossy (s : List UInt8) : Replaces s (decodeLossy s) := by
  fun_induction decodeLossy s with
  | case1 s hnext =>
      rw [eq_nil_of_next hnext]
      exact .nil
  | case2 s x rest hnext ih =>
      rw [eq_encodeChar_of_next hnext]
      exact ih.char
  | case3 s w rest hnext ih =>
      obtain ⟨part, rfl, hill⟩ := illFormed_of_ill hnext
      exact .ill hill ih
  | case4 s hnext =>
      rw [← List.append_nil s]
      exact .ill (illFormed_of_cut hnext) .nil

/-- **What is read of any octets**: the text that stands for them, which is one. -/
theorem decodeLossy_eq_iff : decodeLossy s = cs ↔ Replaces s cs := by
  constructor
  · rintro rfl
    exact replaces_decodeLossy s
  · exact (replaces_decodeLossy s).unique

/-- The octets of a text stand for nothing else. -/
lemma replaces_encode (cs : List Char) : Replaces (encode cs) cs := by
  induction cs with
  | nil => exact .nil
  | cons x cs ih => exact ih.char

/-- **The octets of a text are read as this text.** -/
theorem decodeLossy_encode (cs : List Char) : decodeLossy (encode cs) = cs :=
  decodeLossy_eq_iff.mpr (replaces_encode cs)

/-- The beginning of a character before an `A` is replaced as one part, and octets that begin none
one by one. -/
example : decodeLossy [0xE2, 0x82, 0x41, 0xFF, 0xFE, 0xF0] =
    ['\uFFFD', 'A', '\uFFFD', '\uFFFD', '\uFFFD'] := by
  simp +decide [decodeLossy, next]

end Keyring.Utf8
