import Mathlib.Tactic
import Keyring.Proofs.Json.Passing
import Keyring.Proofs.Json.TextMap

/-!
What is passed over is written properly.

* `skipText_eq_ok`, `skipUnsigned_eq_ok`, `skipScalar_eq_ok`: texts, numbers and all other values
  that are neither lists nor objects.
* `Closes`: what has to follow a value for everything open to be closed after it.
* `Follows`, `follows_of_skipFrom`: what stands between a place in a document and the end of
  everything that is open there.
* `skipValue_eq_ok`, `skipMember_eq_ok`: so a value stands where one is passed over.
-/

namespace Keyring.Json

variable {b mark : UInt8} {s t r w l v : List UInt8} {f : Frame} {stack : List Frame}
  {place : Place}

/-! ### Blanks, literals and texts -/

lemma Blanks.append (hs : Blanks s) (ht : Blanks t) : Blanks (s ++ t) := fun b hb =>
  (List.mem_append.mp hb).elim (hs b) (ht b)

/-- A literal that is read stands there. -/
lemma readLiteral_eq_ok (h : readLiteral w s = .ok r) : s = w ++ r := by
  induction w generalizing s with
  | nil => exact Except.ok.inj h
  | cons a w ih =>
      cases s with
      | nil => cases h
      | cons b s =>
          rw [readLiteral] at h
          split_ifs at h with hab
          rw [hab, ih h, List.cons_append]

/-- An escape that is passed over may stand in a text. -/
lemma skipEscape_eq_ok (h : skipEscape s = .ok r) :
    ∃ e, s = e ++ r ∧ ∀ {t}, IsText t → IsText (0x5C :: (e ++ t)) := by
  unfold skipEscape at h
  split at h
  · cases h
  · next b t =>
    split_ifs at h with hu hletter
    · obtain ⟨⟨n, r'⟩, hunit, hr⟩ := map_eq_ok_iff.mp h
      obtain ⟨u, rfl, hdigits⟩ := readUnit_eq_ok hunit
      obtain rfl : r' = r := hr
      exact ⟨b :: u, rfl, fun ht => by simpa [hu] using IsText.unit hdigits ht⟩
    · cases h
      exact ⟨[b], rfl, fun ht => .letter hletter ht⟩

/-- **A text that is passed over stands there**, up to its closing quote. -/
lemma skipText_eq_ok (h : skipText s = .ok r) : ∃ t, s = t ++ quote :: r ∧ IsText t := by
  have hplain : ∀ {s t : List UInt8}, IsText t → IsText (s.takeWhile isPlain ++ t) :=
    fun ht => isText_append (fun b hb => List.mem_takeWhile_imp hb) ht
  have hsplit : ∀ {s t : List UInt8} {b : UInt8}, s.dropWhile isPlain = b :: t →
      s = s.takeWhile isPlain ++ b :: t := by
    intro s t b hdrop
    rw [← hdrop, List.takeWhile_append_dropWhile]
  fun_induction skipText s with
  | case1 => cases h
  | case2 s t hdrop =>
      cases h
      exact ⟨s.takeWhile isPlain, hsplit hdrop, by simpa using hplain .nil⟩
  | case3 => cases h
  | case4 s t rest he hdrop _ ih =>
      obtain ⟨s', rfl, hs'⟩ := ih h
      obtain ⟨e, rfl, hescape⟩ := skipEscape_eq_ok he
      refine ⟨s.takeWhile isPlain ++ 0x5C :: (e ++ s'), ?_, hplain (hescape hs')⟩
      simpa using hsplit hdrop
  | case5 => cases h

/-! ### Numbers -/

lemma digits_cons (hb : isDigit b = true) (s : List UInt8) :
    Digits (b :: s.takeWhile isDigit) :=
  ⟨List.cons_ne_nil _ _, List.forall_mem_cons.mpr ⟨hb, fun _ hc => List.mem_takeWhile_imp hc⟩⟩

/-- A sign that is read stands there. -/
lemma exists_sign (s : List UInt8) :
    ∃ sign, s = sign ++ (readSign s).2 ∧ (sign = [] ∨ sign = [0x2B] ∨ sign = [0x2D]) := by
  cases s with
  | nil => exact ⟨[], rfl, .inl rfl⟩
  | cons b s =>
      rw [readSign]
      split_ifs with hplus hminus
      · exact ⟨[b], rfl, .inr (.inl (by rw [hplus]))⟩
      · exact ⟨[b], rfl, .inr (.inr (by rw [hminus]))⟩
      · exact ⟨[], rfl, .inl rfl⟩

/-- An exponent that is passed over stands there. -/
lemma skipExponent_eq_ok (hmark : isExponentMark mark = true) (h : skipExponent s = .ok r) :
    ∃ e, mark :: s = e ++ r ∧ IsExponent e := by
  obtain ⟨sign, hs, hsign⟩ := exists_sign s
  unfold skipExponent at h
  split at h
  · cases h
  · next b t hrest =>
    split_ifs at h with hb
    cases h
    refine ⟨mark :: (sign ++ b :: t.takeWhile isDigit), ?_, .digits hmark hsign (digits_cons hb t)⟩
    rw [hrest] at hs
    simp [hs]

/-- What follows the digits of a number is an exponent, or not part of it. -/
lemma exponent_of_if
    (h : (if isExponentMark mark then skipExponent t else .ok (mark :: t)) = .ok r) :
    ∃ e, mark :: t = e ++ r ∧ IsExponent e := by
  split_ifs at h with hmark
  · exact skipExponent_eq_ok hmark h
  · cases h
    exact ⟨[], rfl, .none⟩

/-- Digits after a point that are passed over stand there. -/
lemma skipFraction_eq_ok (h : skipFraction s = .ok r) :
    ∃ ds e, s = ds ++ (e ++ r) ∧ Digits ds ∧ IsExponent e := by
  unfold skipFraction at h
  split at h
  · cases h
  · next b t =>
    split_ifs at h with hb
    have ht : t = t.takeWhile isDigit ++ t.dropWhile isDigit := by simp
    split at h
    · next mark u hdrop =>
      obtain ⟨e, he, hexponent⟩ := exponent_of_if h
      exact ⟨b :: t.takeWhile isDigit, e, by rw [← he, ← hdrop, List.cons_append, ← ht],
        digits_cons hb t, hexponent⟩
    · next hdrop =>
      cases h
      rw [hdrop, List.append_nil] at ht
      exact ⟨b :: t.takeWhile isDigit, [], by rw [← ht]; simp, digits_cons hb t, .none⟩

/-- **A number that is passed over stands there**, after its sign. -/
lemma skipUnsigned_eq_ok (h : skipUnsigned s = .ok r) :
    ∃ whole fraction exponent, s = whole ++ (fraction ++ exponent) ++ r ∧ IsWhole whole
      ∧ IsFraction fraction ∧ IsExponent exponent := by
  unfold skipUnsigned at h
  split at h
  · cases h
  · next b t =>
    split_ifs at h with hb hzero
    have hdigit : isDigit b = true := by simpa using hb
    have ht : t = t.takeWhile isDigit ++ t.dropWhile isDigit := by simp
    have hwhole : IsWhole (b :: t.takeWhile isDigit) := by
      refine ⟨digits_cons hdigit t, fun hhead => ?_⟩
      obtain rfl : b = 0x30 := by simpa using hhead
      cases t with
      | nil => rfl
      | cons c t =>
          have hc : isDigit c = false := by simpa using hzero
          rw [List.takeWhile_cons_of_neg (by simp [hc])]
    have hsplit : ∀ {rest}, t.dropWhile isDigit = rest →
        b :: t = b :: t.takeWhile isDigit ++ rest := by
      rintro rest rfl
      rw [List.cons_append, ← ht]
    split at h
    · next u hdrop =>
      obtain ⟨ds, e, rfl, hds, he⟩ := skipFraction_eq_ok h
      exact ⟨_, _, e, by simpa using hsplit hdrop, hwhole, .digits hds, he⟩
    · next mark u _ hdrop =>
      obtain ⟨e, hu, he⟩ := exponent_of_if h
      exact ⟨_, [], e, by simpa [hu] using hsplit hdrop, hwhole, .none, he⟩
    · next hdrop =>
      cases h
      exact ⟨_, [], [], by simpa using hsplit hdrop, hwhole, .none, .none⟩

/-! ### Values that hold no others -/

/-- **A value that holds no others and is passed over stands there.** -/
lemma skipScalar_eq_ok (h : skipScalar b s = .ok r) : ∃ v, b :: s = v ++ r ∧ Written .value v := by
  have hliteral : ∀ {c : UInt8} {w : List UInt8}, Written .value (c :: w) →
      readLiteral w s = .ok r → ∃ v, c :: s = v ++ r ∧ Written .value v :=
    fun hw h => ⟨_, by rw [readLiteral_eq_ok h, List.cons_append], hw⟩
  unfold skipScalar at h
  split_ifs at h with hnull htrue hfalse hquote hminus hdigit
  · exact hnull ▸ hliteral .null h
  · exact htrue ▸ hliteral .true h
  · exact hfalse ▸ hliteral .false h
  · obtain ⟨t, rfl, ht⟩ := skipText_eq_ok h
    exact ⟨quote :: (t ++ [quote]), by simp [hquote, quote], .text ht⟩
  · obtain ⟨whole, fraction, exponent, rfl, hw, hf, he⟩ := skipUnsigned_eq_ok h
    exact ⟨[0x2D] ++ (whole ++ (fraction ++ exponent)), by simp [hminus],
      .number (.parts (.inr rfl) hw hf he)⟩
  · obtain ⟨whole, fraction, exponent, hs, hw, hf, he⟩ := skipUnsigned_eq_ok h
    exact ⟨[] ++ (whole ++ (fraction ++ exponent)), by rw [hs, List.nil_append],
      .number (.parts (.inl rfl) hw hf he)⟩

/-- A name that is passed over stands there, with its colon. -/
lemma skipName_eq_ok (h : f.skipName s = .ok r) : ∃ l, s = l ++ r ∧ Lead f l := by
  cases f with
  | list => exact ⟨[], Except.ok.inj h, .list⟩
  | object =>
      change skipName s = .ok r at h
      unfold skipName at h
      split at h
      · cases h
      · next c t hs =>
        split_ifs at h with hquote
        cases ht : skipText t with
        | error e => simp [ht] at h
        | ok u =>
            simp only [ht] at h
            split at h
            · cases h
            · next c' u' hu =>
              split_ifs at h with hcolon
              cases h
              obtain ⟨b, rfl, hb⟩ := skipBlank_eq_cons hs
              obtain ⟨name, rfl, hname⟩ := skipText_eq_ok ht
              obtain ⟨b', rfl, hb'⟩ := skipBlank_eq_cons hu
              exact ⟨b ++ quote :: (name ++ quote :: (b' ++ [colon])),
                by simp [hquote, hcolon, quote, colon], .object hb hname hb'⟩

/-! ### What is open -/

/-- **What has to follow a value** for the lists and objects that are open to be closed after it,
the innermost first, with this left: each is closed at once, or after further values. -/
inductive Closes : List Frame → List UInt8 → List UInt8 → Prop where
  | nil {r : List UInt8} : Closes [] r r
  | close {f : Frame} {stack : List Frame} {b s r : List UInt8} (hb : Blanks b)
      (h : Closes stack s r) : Closes (f :: stack) (b ++ f.close :: s) r
  | more {f : Frame} {stack : List Frame} {b items s r : List UInt8} (hb : Blanks b)
      (hitems : Written (.items f) items) (h : Closes stack s r) :
      Closes (f :: stack) (b ++ comma :: (items ++ f.close :: s)) r

/-- With what follows it, a value in a list or an object is all that stands in it. -/
lemma Closes.exists_items {b : List UInt8} (h : Closes (f :: stack) s r) (hl : Lead f l)
    (hb : Blanks b) (hv : Written .value v) :
    ∃ items t, l ++ (b ++ (v ++ s)) = items ++ f.close :: t ∧ Written (.items f) items
      ∧ Closes stack t r := by
  cases h with
  | @close _ _ b' t _ hb' h =>
      exact ⟨l ++ (b ++ (v ++ b')), t, by simp, .last hl hb hv hb', h⟩
  | @more _ _ b' items t _ hb' hitems h =>
      exact ⟨l ++ (b ++ (v ++ (b' ++ comma :: items))), t, by simp, .more hl hb hv hb' hitems, h⟩

/-- Blanks may stand before a name or a value in a list. -/
lemma written_items_blanks {b items : List UInt8} (hb : Blanks b) (h : Written (.items f) items) :
    Written (.items f) (b ++ items) := by
  cases h with
  | last hl hc hv hc' =>
      cases hl with
      | list => simpa using Written.last .list (hb.append hc) hv hc'
      | object hd hname hd' =>
          simpa using Written.last (.object (hb.append hd) hname hd') hc hv hc'
  | more hl hc hv hc' h =>
      cases hl with
      | list => simpa using Written.more .list (hb.append hc) hv hc' h
      | object hd hname hd' =>
          simpa using Written.more (.object (hb.append hd) hname hd') hc hv hc' h

/-- **What stands from a place on** up to the end of everything that is open there: before a value,
blanks and the value, and what closes the rest; inside a list or an object, what stands in it. -/
def Follows (r : List UInt8) : Place → List Frame → List UInt8 → Prop
  | .value, stack, s => ∃ b v t, s = b ++ (v ++ t) ∧ Blanks b ∧ Written .value v ∧ Closes stack t r
  | .opened, f :: stack, s => ∃ inside t, s = inside ++ f.close :: t
      ∧ (Blanks inside ∨ Written (.items f) inside) ∧ Closes stack t r
  | _, stack, s => Closes stack s r

/-- What stands inside a list or an object makes a value of it. -/
lemma Follows.value_of_opened (h : Follows r .opened (f :: stack) s) :
    ∃ v t, f.opening :: s = v ++ t ∧ Written .value v ∧ Closes stack t r := by
  obtain ⟨inside, t, rfl, hinside, hcloses⟩ := h
  refine ⟨f.opening :: (inside ++ [f.close]), t, by simp, ?_, hcloses⟩
  rcases hinside with hblanks | hitems
  · exact .empty f hblanks
  · exact .filled hitems

/-- Blanks may stand before a value. -/
lemma follows_value (hs : skipBlank s = b :: w)
    (h : ∃ v t, b :: w = v ++ t ∧ Written .value v ∧ Closes stack t r) :
    Follows r .value stack s := by
  obtain ⟨c, rfl, hc⟩ := skipBlank_eq_cons hs
  obtain ⟨v, t, hvalue, hv, hcloses⟩ := h
  exact ⟨c, v, t, by rw [hvalue], hc, hv, hcloses⟩

/-- **Whatever is passed over is written properly**: where a document can be followed to the end of
everything that is open, this is what stands there. -/
theorem follows_of_skipFrom (h : skipFrom place stack s = .ok r) : Follows r place stack s := by
  fun_induction skipFrom place stack s with
  -- a value is expected: a list or an object begins, or a value that holds no others
  | case1 => cases h
  | case2 s stack t hs ih =>
      exact follows_value hs (ih h).value_of_opened
  | case3 s stack t hs _ ih =>
      exact follows_value hs (ih h).value_of_opened
  | case4 => cases h
  | case5 s stack b t hs _ _ u hscalar ih =>
      obtain ⟨v, hv, hwritten⟩ := skipScalar_eq_ok hscalar
      exact follows_value hs ⟨v, u, hv, hwritten, ih h⟩
  -- nothing is open any more
  | case6 place s hplace =>
      obtain rfl : s = r := Except.ok.inj h
      cases place with
      | value => exact absurd rfl hplace
      | opened => exact .nil
      | after => exact .nil
  -- a list or an object has begun: it is closed at once, or its first item follows
  | case7 => cases h
  | case8 s f stack t hs ih =>
      obtain ⟨b, rfl, hb⟩ := skipBlank_eq_cons hs
      exact ⟨b, t, rfl, .inl hb, ih h⟩
  | case9 => cases h
  | case10 s f stack b t hs _ u hname ih =>
      obtain ⟨c, rfl, hc⟩ := skipBlank_eq_cons hs
      obtain ⟨l, hl, hlead⟩ := skipName_eq_ok hname
      obtain ⟨d, v, w, rfl, hd, hv, hcloses⟩ := ih h
      obtain ⟨items, t', hitems, hwritten, hrest⟩ := hcloses.exists_items hlead hd hv
      exact ⟨c ++ items, t', by rw [hl, hitems, List.append_assoc],
        .inr (written_items_blanks hc hwritten), hrest⟩
  -- a value has ended: another one follows after a comma, or what is open is closed
  | case11 => cases h
  | case12 => cases h
  | case13 s f stack t u hname hs ih =>
      obtain ⟨c, rfl, hc⟩ := skipBlank_eq_cons hs
      obtain ⟨l, rfl, hlead⟩ := skipName_eq_ok hname
      obtain ⟨d, v, w, rfl, hd, hv, hcloses⟩ := ih h
      obtain ⟨items, t', hitems, hwritten, hrest⟩ := hcloses.exists_items hlead hd hv
      rw [hitems]
      exact .more hc hwritten hrest
  | case14 s f stack t hs _ ih =>
      obtain ⟨b, rfl, hb⟩ := skipBlank_eq_cons hs
      exact .close hb (ih h)
  | case15 => cases h

/-! ### Values and members -/

/-- **Where a value is passed over one stands**, after blanks. -/
theorem skipValue_eq_ok (h : skipValue s = .ok r) :
    ∃ b v, s = b ++ (v ++ r) ∧ Blanks b ∧ Written .value v := by
  obtain ⟨b, v, t, rfl, hb, hv, hcloses⟩ := follows_of_skipFrom h
  cases hcloses with
  | nil => exact ⟨b, v, rfl, hb, hv⟩

/-- Where a member is passed over, a colon and a value stand. -/
lemma skipMember_eq_ok (h : skipMember s = .ok r) :
    ∃ b b' v, s = b ++ colon :: (b' ++ (v ++ r)) ∧ Blanks b ∧ Blanks b' ∧ Written .value v := by
  unfold skipMember at h
  cases hc : readColon s with
  | error f => simp [hc] at h
  | ok t =>
      simp only [hc] at h
      obtain ⟨b, rfl, hb⟩ := readColon_eq_ok hc
      obtain ⟨b', v, rfl, hb', hv⟩ := skipValue_eq_ok h
      exact ⟨b, b', v, rfl, hb, hb', hv⟩

end Keyring.Json
