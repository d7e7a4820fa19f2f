import Mathlib.Data.List.TakeWhile
import Mathlib.Tactic
import Keyring.Proofs.Json.Grammar
import Keyring.Proofs.Result

/-!
A text that is read is spelled so.

The octets that a text stands for are put together before anybody asks whether they are characters.
So what is read is first taken apart into octets and escapes, and then into characters: no escape
stands inside the octets of a character.

* `Escape`, `readEscape_eq_ok`: what follows a backslash and stands for a character.
* `Stands`, `readOctets_eq_ok`: the inside of a text and the octets that it stands for.
* `Stands.spells`: if these are the octets of a text, its characters are spelled.
* `readText_eq_ok`, `readString_eq_ok`: so a text that is read is spelled.
-/

namespace Keyring.Json

variable {b : UInt8} {s t r o e w : List UInt8} {x : Char} {cs : List Char} {m n : ℕ}
  {text : String}

/-! ### Escapes -/

/-- What follows a backslash and stands for a character. -/
inductive Escape : List UInt8 → Char → Prop where
  /-- The letter of a character. -/
  | letter {b : UInt8} {x : Char} (hb : escapedLetter? b = some x) : Escape [b] x
  /-- A `u` and the number of a character. -/
  | unit {u : List UInt8} {x : Char} (hu : IsUnit u x.toNat) : Escape (0x75 :: u) x
  /-- Two of these that are the halves of a character. -/
  | pair {u v : List UInt8} {m n : ℕ} {x : Char} (hu : IsUnit u m) (hv : IsUnit v n)
      (hm : 0xD800 ≤ m ∧ m ≤ 0xDBFF) (hn : 0xDC00 ≤ n ∧ n ≤ 0xDFFF)
      (hx : x.toNat = 0x10000 + (m - 0xD800) * 0x400 + (n - 0xDC00)) :
      Escape (0x75 :: (u ++ 0x5C :: 0x75 :: v)) x

/-- An escape spells its character. -/
lemma Escape.spells (he : Escape e x) (h : Spells s cs) : Spells (0x5C :: (e ++ s)) (x :: cs) := by
  cases he with
  | letter hb => exact .letter hb h
  | unit hu => exact .unit hu h
  | pair hu hv hm hn hx => simpa using Spells.pair hu hv hm hn hx h

/-- Four digits that are read stand there. -/
lemma readUnit_eq_ok (h : readUnit s = .ok (n, r)) : ∃ u, s = u ++ r ∧ IsUnit u n := by
  unfold readUnit at h
  split at h
  · next a b c d t =>
    split at h
    · next w x y z ha hb hc hd =>
      cases h
      exact ⟨[a, b, c, d], rfl, a, b, c, d, w, x, y, z, rfl, ha, hb, hc, hd, rfl⟩
    · cases h
  · cases h

/-- A digit stands for a number below sixteen. -/
lemma octetValue?_lt (h : Hex.octetValue? b = some n) : n < 16 := by
  simp only [Hex.octetValue?, UInt8.le_iff_toNat_le, UInt8.reduceToNat, Bool.and_eq_true,
    decide_eq_true_eq] at h
  split_ifs at h
  all_goals
    cases h
    omega

/-- Four digits stand for a number of 16 bits. -/
lemma IsUnit.lt (h : IsUnit s n) : n < 0x10000 := by
  obtain ⟨a, b, c, d, w, x, y, z, -, ha, hb, hc, hd, rfl⟩ := h
  have := octetValue?_lt ha
  have := octetValue?_lt hb
  have := octetValue?_lt hc
  have := octetValue?_lt hd
  omega

/-- The second half of a pair that is read stands there, in another escape. -/
lemma readSecondHalf_eq_ok (h : readSecondHalf n s = .ok (x, r)) :
    ∃ v m, s = 0x5C :: 0x75 :: (v ++ r) ∧ IsUnit v m ∧ (0xDC00 ≤ m ∧ m ≤ 0xDFFF)
      ∧ x = Char.ofNat (0x10000 + (n - 0xD800) * 0x400 + (m - 0xDC00)) := by
  unfold readSecondHalf at h
  split at h
  · cases h
  · cases h
  · next t =>
    cases hu : readUnit t with
    | error f => simp [hu] at h
    | ok p =>
      obtain ⟨m, r'⟩ := p
      obtain ⟨v, rfl, hv⟩ := readUnit_eq_ok hu
      cases hlow : isLowSurrogate m with
      | false => simp [hu, hlow] at h
      | true =>
        simp only [hu, hlow, if_true, Except.ok.injEq, Prod.mk.injEq] at h
        obtain ⟨rfl, rfl⟩ := h
        exact ⟨v, m, rfl, hv, by simpa [isLowSurrogate] using hlow, rfl⟩
  · cases h
  · cases h

/-- The number of a character that is read stands there, or its two halves. -/
lemma readUnicode_eq_ok (h : readUnicode s = .ok (x, r)) :
    ∃ e, s = e ++ r ∧ Escape (0x75 :: e) x := by
  unfold readUnicode at h
  cases hu : readUnit s with
  | error f => simp [hu] at h
  | ok p =>
    obtain ⟨n, t⟩ := p
    obtain ⟨u, rfl, hunit⟩ := readUnit_eq_ok hu
    have hlt := hunit.lt
    simp only [hu, isLowSurrogate, isHighSurrogate, Bool.and_eq_true, decide_eq_true_eq] at h
    split_ifs at h with hlow hhigh
    · obtain ⟨v, m, rfl, hv, hm, hx⟩ := readSecondHalf_eq_ok h
      refine ⟨u ++ 0x5C :: 0x75 :: v, by simp, .pair hunit hv hhigh hm ?_⟩
      rw [hx, Utf8.toNat_char (by omega)]
    · cases h
      refine ⟨u, rfl, .unit ?_⟩
      rwa [Utf8.toNat_char (by omega)]

/-- **An escape that is read stands there.** -/
lemma readEscape_eq_ok (h : readEscape s = .ok (x, r)) : ∃ e, s = e ++ r ∧ Escape e x := by
  unfold readEscape at h
  split at h
  · cases h
  · next b t =>
    split_ifs at h with hb
    · obtain ⟨e, rfl, he⟩ := readUnicode_eq_ok h
      exact ⟨b :: e, rfl, by rwa [hb]⟩
    · cases hletter : escapedLetter? b with
      | none => simp [hletter] at h
      | some c =>
        simp only [hletter, Except.ok.injEq, Prod.mk.injEq] at h
        obtain ⟨rfl, rfl⟩ := h
        exact ⟨[b], rfl, .letter hletter⟩

/-! ### The octets that a text stands for -/

/-- **The inside of a text and the octets that it stands for**, which need not be UTF-8. -/
inductive Stands : List UInt8 → List UInt8 → Prop where
  | nil : Stands [] []
  /-- An octet that is not escaped. -/
  | plain {b : UInt8} {s o : List UInt8} (hb : isPlain b = true) (h : Stands s o) :
      Stands (b :: s) (b :: o)
  /-- A backslash and what follows it. -/
  | escape {e : List UInt8} {x : Char} {s o : List UInt8} (he : Escape e x) (h : Stands s o) :
      Stands (0x5C :: (e ++ s)) (Utf8.encodeChar x ++ o)

namespace Stands

/-- Octets that are not escaped stand for themselves. -/
lemma append_plain (hw : ∀ b ∈ w, isPlain b = true) (h : Stands s o) :
    Stands (w ++ s) (w ++ o) := by
  induction w with
  | nil => exact h
  | cons b w ih =>
      exact .plain (hw b List.mem_cons_self) (ih fun c hc => hw c (List.mem_cons_of_mem _ hc))

/-- Octets that continue a character are not escaped: an escape stands for whole characters. -/
lemma of_tails (hw : ∀ b ∈ w, Utf8.isTail b = true) (h : Stands s (w ++ o)) :
    ∃ s', s = w ++ s' ∧ (∀ b ∈ w, isPlain b = true) ∧ Stands s' o := by
  induction w generalizing s with
  | nil => exact ⟨s, rfl, by simp, h⟩
  | cons b w ih =>
      generalize ho : b :: w ++ o = all at h
      cases h with
      | nil => cases ho
      | plain hb h =>
          obtain ⟨rfl, rfl⟩ := List.cons.inj ho
          obtain ⟨s', rfl, hplain, hs'⟩ := ih (fun c hc => hw c (List.mem_cons_of_mem _ hc)) h
          exact ⟨s', rfl, List.forall_mem_cons.mpr ⟨hb, hplain⟩, hs'⟩
      | @escape e y s o' he h =>
          obtain ⟨first, others, hfirst, hno, -⟩ := Utf8.encodeChar_eq_cons y
          rw [hfirst] at ho
          obtain ⟨rfl, -⟩ := List.cons.inj ho
          rw [hw b List.mem_cons_self] at hno
          cases hno

/-- **The octets of a character stand there as they are, or are those of an escape.** -/
lemma of_char (h : Stands s (Utf8.encodeChar x ++ o)) :
    (∃ s', s = Utf8.encodeChar x ++ s' ∧ (∀ b ∈ Utf8.encodeChar x, isPlain b = true) ∧ Stands s' o)
      ∨ ∃ e s', s = 0x5C :: (e ++ s') ∧ Escape e x ∧ Stands s' o := by
  obtain ⟨first, others, hx, -, htails⟩ := Utf8.encodeChar_eq_cons x
  generalize ho : Utf8.encodeChar x ++ o = all at h
  cases h with
  | nil => simp [hx] at ho
  | plain hb h =>
      rw [hx] at ho
      obtain ⟨rfl, rfl⟩ := List.cons.inj ho
      obtain ⟨s', rfl, hplain, hs'⟩ := of_tails htails h
      rw [hx]
      exact .inl ⟨s', rfl, List.forall_mem_cons.mpr ⟨hb, hplain⟩, hs'⟩
  | @escape e y s o' he h =>
      have hnext := congrArg Utf8.next ho
      rw [Utf8.next_encodeChar, Utf8.next_encodeChar] at hnext
      obtain ⟨rfl, rfl⟩ := Utf8.Step.char.inj hnext
      exact .inr ⟨e, s, rfl, he, h⟩

/-- A character whose octets are not escaped is none that has to be. -/
lemma not_escaped (h : ∀ b ∈ Utf8.encodeChar x, isPlain b = true) :
    0x20 ≤ x.toNat ∧ x ≠ '"' ∧ x ≠ '\\' := by
  have hquote : x = '"' → x.toNat = 0x22 := by rintro rfl; rfl
  have hbackslash : x = '\\' → x.toNat = 0x5C := by rintro rfl; rfl
  by_cases hx : x.toNat < 0x80
  · have hb := h (UInt8.ofNat x.toNat) (by simp [Utf8.encodeChar, hx])
    simp only [isPlain, Bool.and_eq_true, decide_eq_true_eq, UInt8.le_iff_toNat_le, ne_eq,
      ← UInt8.toNat_inj, Utf8.toNat_octet (n := x.toNat) (by omega), UInt8.reduceToNat] at hb
    exact ⟨hb.1.1, fun heq => hb.1.2 (hquote heq), fun heq => hb.2 (hbackslash heq)⟩
  · exact ⟨by omega, fun heq => by have := hquote heq; omega,
      fun heq => by have := hbackslash heq; omega⟩

/-- **What stands for the octets of a text spells it.** -/
theorem spells (h : Stands s (Utf8.encode cs)) : Spells s cs := by
  induction cs generalizing s with
  | nil =>
      rw [Utf8.encode, List.flatMap_nil] at h
      generalize ho : ([] : List UInt8) = all at h
      cases h with
      | nil => exact .nil
      | plain hb h => cases ho
      | @escape e y s o' he h =>
          obtain ⟨first, others, hy, -⟩ := Utf8.encodeChar_eq_cons y
          simp [hy] at ho
  | cons x cs ih =>
      rw [Utf8.encode, List.flatMap_cons] at h
      rcases h.of_char with ⟨s', rfl, hplain, hs'⟩ | ⟨e, s', rfl, he, hs'⟩
      · obtain ⟨hx, hquote, hbackslash⟩ := not_escaped hplain
        exact .plain hx hquote hbackslash (ih hs')
      · exact he.spells (ih hs')

end Stands

/-! ### Texts that are read -/

/-- Blanks stand before what is left without them. -/
lemma skipBlank_eq_cons (h : skipBlank s = b :: r) : ∃ b', s = b' ++ b :: r ∧ Blanks b' :=
  ⟨s.takeWhile isSpace, by rw [← h, skipBlank, List.takeWhile_append_dropWhile],
    fun _ hc => List.mem_takeWhile_imp hc⟩

/-- **Octets that are read in a text are those that its inside stands for.** -/
lemma readOctets_eq_ok (h : readOctets s = .ok (o, r)) :
    ∃ t, s = t ++ quote :: r ∧ Stands t o := by
  have hplain : ∀ {s t o : List UInt8}, Stands t o →
      Stands (s.takeWhile isPlain ++ t) (s.takeWhile isPlain ++ o) :=
    fun ht => ht.append_plain fun b hb => List.mem_takeWhile_imp hb
  have hsplit : ∀ {s t : List UInt8} {b : UInt8}, s.dropWhile isPlain = b :: t →
      s = s.takeWhile isPlain ++ b :: t := by
    intro s t b hdrop
    rw [← hdrop, List.takeWhile_append_dropWhile]
  fun_induction readOctets s generalizing o with
  | case1 s hdrop => cases h
  | case2 s t hdrop =>
      obtain ⟨rfl, rfl⟩ := Prod.mk.inj (Except.ok.inj h)
      exact ⟨s.takeWhile isPlain, hsplit hdrop, by simpa using hplain Stands.nil⟩
  | case3 => cases h
  | case4 s t x rest he hdrop _ ih =>
      obtain ⟨⟨o', r'⟩, ho, hp⟩ := map_eq_ok_iff.mp h
      obtain ⟨rfl, rfl⟩ := Prod.mk.inj hp
      obtain ⟨s', rfl, hs'⟩ := ih ho
      obtain ⟨e, rfl, hescape⟩ := readEscape_eq_ok he
      refine ⟨s.takeWhile isPlain ++ 0x5C :: (e ++ s'), ?_, ?_⟩
      · simpa using hsplit hdrop
      · simpa using hplain (.escape hescape hs')
  | case5 => cases h

/-- **A text that is read is spelled**, and ends at its quote. -/
theorem readText_eq_ok (h : readText s = .ok (text, r)) :
    ∃ t, s = t ++ quote :: r ∧ Spells t text.toList := by
  unfold readText at h
  cases ho : readOctets s with
  | error f => simp [ho] at h
  | ok p =>
      obtain ⟨o, r'⟩ := p
      obtain ⟨t, rfl, ht⟩ := readOctets_eq_ok ho
      cases hd : Utf8.decode o with
      | error f => simp [ho, hd] at h
      | ok cs =>
          simp only [ho, hd, Except.ok.injEq, Prod.mk.injEq] at h
          obtain ⟨rfl, rfl⟩ := h
          rw [Utf8.eq_encode_of_decode hd] at ht
          exact ⟨t, rfl, by simpa using ht.spells⟩

/-- Only of blanks nothing is left without them. -/
lemma skipBlank_eq_nil (h : skipBlank s = []) : Blanks s := fun _ hb => by
  simpa using List.dropWhile_eq_nil_iff.mp h _ hb

/-- A text that is read from its quote on stands there between its quotes, after blanks. -/
lemma exists_isString (hs : skipBlank s = quote :: t) (h : readText t = .ok (text, r)) :
    ∃ b v, s = b ++ (v ++ r) ∧ Blanks b ∧ IsString v text := by
  obtain ⟨inside, rfl, hinside⟩ := readText_eq_ok h
  obtain ⟨b, rfl, hb⟩ := skipBlank_eq_cons hs
  exact ⟨b, quote :: (inside ++ [quote]), by simp, hb, inside, rfl, hinside⟩

/-- **Where a text is read, one stands**, after blanks. -/
theorem readString_eq_ok (h : readString s = .ok (text, r)) :
    ∃ b v, s = b ++ (v ++ r) ∧ Blanks b ∧ IsString v text := by
  unfold readString readTextAs at h
  split at h
  · cases h
  · next c t hs =>
    split_ifs at h with hquote
    cases ht : readText t with
    | error f => simp [ht] at h
    | ok p =>
        simp only [ht, Except.ok.injEq] at h
        exact exists_isString (hquote ▸ hs) (h ▸ ht)

end Keyring.Json
