import Mathlib.Tactic
import Keyring.Proofs.Json.Grammar

/-!
A value that is not read is passed over, whatever it is.

* `skipText_append`, `skipUnsigned_append`: texts and numbers are followed to their end.
* `Scalar`, `skipFrom_scalar`: so are all values that are neither lists nor objects.
* `passed`: so are lists and objects, nested to any depth.
* `skipValue_append`: what is left is what follows the value.
-/

namespace Keyring.Json

variable {b : UInt8} {b' s t r l v : List UInt8} {f : Frame} {stack : List Frame} {n : ℕ}

/-! ### Blanks and literals -/

/-- Blanks are left out. -/
@[simp]
lemma skipBlank_append (hb : Blanks s) (r : List UInt8) : skipBlank (s ++ r) = skipBlank r :=
  List.dropWhile_append_of_pos hb

lemma skipBlank_of_blanks (hb : Blanks s) : skipBlank s = [] := by
  simpa [skipBlank] using skipBlank_append hb []

lemma skipBlank_cons (hb : isSpace b = false) (r : List UInt8) : skipBlank (b :: r) = b :: r := by
  rw [skipBlank, List.dropWhile_cons_of_neg (by simp [hb])]

/-- There are none left then. -/
lemma skipBlank_skipBlank (s : List UInt8) : skipBlank (skipBlank s) = skipBlank s := by
  induction s with
  | nil => rfl
  | cons b s ih =>
      cases hb : isSpace b with
      | true => simpa [skipBlank, hb] using ih
      | false => rw [skipBlank_cons hb, skipBlank_cons hb]

/-- A literal is found where it stands. -/
@[simp]
lemma readLiteral_append (w r : List UInt8) : readLiteral w (w ++ r) = .ok r := by
  induction w with
  | nil => rfl
  | cons a w ih => simpa [readLiteral] using ih

/-! ### Texts -/

lemma readUnit_append (hu : IsUnit s n) (r : List UInt8) : readUnit (s ++ r) = .ok (n, r) := by
  obtain ⟨a, b, c, d, w, x, y, z, rfl, ha, hb, hc, hd, rfl⟩ := hu
  simp [readUnit, ha, hb, hc, hd]

/-- An octet that is not escaped is passed over. -/
lemma skipText_plain (hb : isPlain b = true) (s : List UInt8) : skipText (b :: s) = skipText s := by
  rw [skipText, skipText, List.dropWhile_cons_of_pos hb]

lemma skipText_quote (r : List UInt8) : skipText (quote :: r) = .ok r := by
  rw [skipText, List.dropWhile_cons_of_neg (by decide)]
  rfl

/-- An escape is passed over. -/
lemma skipText_escape (he : skipEscape s = .ok t) : skipText (0x5C :: s) = skipText t := by
  rw [skipText, List.dropWhile_cons_of_neg (by decide)]
  dsimp only
  rw [if_neg (by decide), if_pos rfl]
  split
  · rename_i hf
    rw [he] at hf
    cases hf
  · rename_i t' ht
    rw [he] at ht
    cases ht
    rfl

/-- **A text is passed over** up to its closing quote. -/
lemma skipText_append (h : IsText s) (r : List UInt8) : skipText (s ++ quote :: r) = .ok r := by
  induction h with
  | nil => exact skipText_quote r
  | plain hb h ih => rw [List.cons_append, skipText_plain hb, ih]
  | @letter b s hb h ih =>
      have hu : b ≠ 0x75 := by
        rintro rfl
        simp [escapedLetter?] at hb
      have he : skipEscape (b :: (s ++ quote :: r)) = .ok (s ++ quote :: r) := by
        simp [skipEscape, hu, hb]
      rw [List.cons_append, List.cons_append, skipText_escape he, ih]
  | @unit u s n hu h ih =>
      have he : skipEscape (0x75 :: (u ++ (s ++ quote :: r))) = .ok (s ++ quote :: r) := by
        simp [skipEscape, readUnit_append hu, Except.map]
      rw [List.cons_append, List.cons_append, List.append_assoc, skipText_escape he, ih]

/-! ### Numbers -/

/-- What follows does not go on with a number. -/
def Stops (r : List UInt8) : Prop :=
  ∀ b ∈ r.head?, isDigit b = false ∧ b ≠ 0x2E ∧ isExponentMark b = false

/-- Digits are passed over. -/
lemma dropWhile_digits (hs : ∀ b ∈ s, isDigit b = true) (hr : ∀ b ∈ r.head?, isDigit b = false) :
    (s ++ r).dropWhile isDigit = r := by
  rw [List.dropWhile_append_of_pos hs]
  cases r with
  | nil => rfl
  | cons b r => exact List.dropWhile_cons_of_neg (by simp [hr b rfl])

/-- What may follow digits, and what follows it, does not begin with a digit. -/
lemma head_exponent (h : IsExponent s) (hr : Stops r) :
    ∀ b ∈ (s ++ r).head?, isDigit b = false ∧ b ≠ 0x2E := by
  cases h with
  | none => exact fun b hb => ⟨(hr b hb).1, (hr b hb).2.1⟩
  | @digits mark sign s hmark =>
      intro b hb
      obtain rfl : mark = b := by simpa using hb
      have hcases : mark = 0x65 ∨ mark = 0x45 := by simpa [isExponentMark] using hmark
      rcases hcases with rfl | rfl <;> decide

/-- **An exponent is passed over.** -/
lemma skipExponent_append {mark : UInt8} (h : IsExponent (mark :: s)) (hr : Stops r) :
    isExponentMark mark = true ∧ skipExponent (s ++ r) = .ok r := by
  generalize hm : mark :: s = m at h
  cases h with
  | none => cases hm
  | @digits mark' sign ds hmark hsign hds =>
      obtain ⟨rfl, rfl⟩ := List.cons.inj hm
      refine ⟨hmark, ?_⟩
      obtain ⟨d, ds, rfl⟩ := List.exists_cons_of_ne_nil hds.1
      have hd : isDigit d = true := hds.2 d List.mem_cons_self
      have hplus : d ≠ 0x2B := by rintro rfl; cases hd
      have hminus : d ≠ 0x2D := by rintro rfl; cases hd
      have hsigned : (readSign (sign ++ (d :: (ds ++ r)))).2 = d :: (ds ++ r) := by
        rcases hsign with rfl | rfl | rfl
        · simp [readSign, hplus, hminus]
        · simp [readSign]
        · simp [readSign]
      have hrest : (ds ++ r).dropWhile isDigit = r :=
        dropWhile_digits (fun b hb => hds.2 b (List.mem_cons_of_mem _ hb)) fun b hb => (hr b hb).1
      rw [List.append_assoc, List.cons_append, skipExponent, hsigned]
      simp only [hd, if_true, hrest]

/-- What follows the digits of a number is an exponent, which is passed over, or not part of it. -/
lemma skipExponent_if {e : List UInt8} {mark : UInt8} (he : IsExponent e) (hr : Stops r)
    (h : e ++ r = mark :: t) :
    (if isExponentMark mark then skipExponent t else .ok (mark :: t)) = .ok r := by
  cases e with
  | nil =>
      obtain rfl : r = mark :: t := h
      simp [(hr mark rfl).2.2]
  | cons mark' e =>
      obtain ⟨rfl, rfl⟩ := List.cons.inj h
      obtain ⟨hmark, hskip⟩ := skipExponent_append he hr
      rw [if_pos hmark]
      exact hskip

/-- Digits after a point are passed over with what may follow them. -/
lemma skipFraction_append {e : List UInt8} (hs : Digits s) (he : IsExponent e) (hr : Stops r) :
    skipFraction (s ++ (e ++ r)) = .ok r := by
  obtain ⟨d, ds, rfl⟩ := List.exists_cons_of_ne_nil hs.1
  have hd : isDigit d = true := hs.2 d List.mem_cons_self
  have hrest : (ds ++ (e ++ r)).dropWhile isDigit = e ++ r :=
    dropWhile_digits (fun b hb => hs.2 b (List.mem_cons_of_mem _ hb))
      fun b hb => (head_exponent he hr b hb).1
  rw [List.cons_append, skipFraction]
  simp only [hd, if_true, hrest]
  split
  · rename_i mark t ht
    exact skipExponent_if he hr ht
  · rename_i ht
    rw [(List.append_eq_nil_iff.mp ht).2]

/-- **A number is passed over**, after its sign. -/
lemma skipUnsigned_append {whole fraction exponent : List UInt8} (hw : IsWhole whole)
    (hf : IsFraction fraction) (he : IsExponent exponent) (hr : Stops r) :
    skipUnsigned (whole ++ (fraction ++ (exponent ++ r))) = .ok r := by
  obtain ⟨⟨hne, hdigits⟩, hzero⟩ := hw
  obtain ⟨d, ds, rfl⟩ := List.exists_cons_of_ne_nil hne
  have hd : isDigit d = true := hdigits d List.mem_cons_self
  have hhead : ∀ b ∈ (fraction ++ (exponent ++ r)).head?, isDigit b = false := by
    cases hf with
    | none => exact fun b hb => (head_exponent he hr b hb).1
    | digits h =>
        intro b hb
        obtain rfl : 0x2E = b := by simpa using hb
        decide
  have hrest : (ds ++ (fraction ++ (exponent ++ r))).dropWhile isDigit
      = fraction ++ (exponent ++ r) :=
    dropWhile_digits (fun b hb => hdigits b (List.mem_cons_of_mem _ hb)) hhead
  -- no digit follows a leading zero
  have hlead : (d = 0x30 && (ds ++ (fraction ++ (exponent ++ r))).head?.any isDigit) = false := by
    by_cases h30 : d = 0x30
    · subst h30
      obtain rfl : ds = [] := by simpa using hzero rfl
      rw [List.nil_append, Bool.and_eq_false_iff, Option.any_eq_false_iff_get]
      exact .inr fun hsome => hhead _ (Option.get_mem hsome)
    · simp [h30]
  rw [List.cons_append, skipUnsigned]
  simp only [hd, hlead, hrest, Bool.not_true, Bool.false_eq_true, if_false]
  cases hf with
  | digits h => simpa using skipFraction_append h he hr
  | none =>
      rw [List.nil_append]
      split
      · rename_i t ht
        exact absurd rfl (head_exponent he hr 0x2E (by rw [ht]; rfl)).2
      · rename_i mark t _ ht
        exact skipExponent_if he hr ht
      · rename_i ht
        rw [(List.append_eq_nil_iff.mp ht).2]

/-! ### Values that hold no others -/

/-- Octets that are neither a list nor an object, and are passed over at one go. -/
def Scalar (v : List UInt8) : Prop :=
  ∃ b t, v = b :: t ∧ isSpace b = false ∧ b ≠ openList ∧ b ≠ openObject ∧ b ≠ closeList
    ∧ ∀ r, Stops r → skipScalar b (t ++ r) = .ok r

/-- A number is passed over at one go. -/
lemma scalar_number (h : IsNumber v) : Scalar v := by
  cases h with
  | @parts minus whole fraction exponent hminus hw hf he =>
      have hskip := fun r hr => skipUnsigned_append (r := r) hw hf he hr
      obtain ⟨d, ds, rfl⟩ := List.exists_cons_of_ne_nil hw.1.1
      have hd : isDigit d = true := hw.1.2 d List.mem_cons_self
      rcases hminus with rfl | rfl
      · have hno : ∀ b, isDigit b = false → d ≠ b := by
          rintro b hb rfl
          simp [hd] at hb
        have hspace : isSpace d = false := by
          simp [isSpace, hno 0x20 (by decide), hno 0x09 (by decide), hno 0x0A (by decide),
            hno 0x0D (by decide)]
        refine ⟨d, ds ++ (fraction ++ exponent), rfl, hspace, hno _ (by decide), hno _ (by decide),
          hno _ (by decide), fun r hr => ?_⟩
        rw [skipScalar, if_neg (hno _ (by decide)), if_neg (hno _ (by decide)),
          if_neg (hno _ (by decide)), if_neg (hno _ (by decide)), if_neg (hno _ (by decide)),
          if_pos hd]
        simpa using hskip r hr
      · refine ⟨0x2D, _, rfl, by decide, by decide, by decide, by decide, fun r hr => ?_⟩
        rw [skipScalar]
        simpa using hskip r hr

/-- A text is passed over at one go. -/
lemma scalar_text (h : IsText s) : Scalar (quote :: (s ++ [quote])) := by
  refine ⟨quote, s ++ [quote], rfl, by decide, by decide, by decide, by decide, fun r _ => ?_⟩
  rw [List.append_assoc]
  exact skipText_append h r

lemma scalar_null : Scalar (ascii "null") :=
  ⟨0x6E, ascii "ull", rfl, by decide, by decide, by decide, by decide,
    fun r _ => readLiteral_append (ascii "ull") r⟩

lemma scalar_true : Scalar (ascii "true") :=
  ⟨0x74, ascii "rue", rfl, by decide, by decide, by decide, by decide,
    fun r _ => readLiteral_append (ascii "rue") r⟩

lemma scalar_false : Scalar (ascii "false") :=
  ⟨0x66, ascii "alse", rfl, by decide, by decide, by decide, by decide,
    fun r _ => readLiteral_append (ascii "alse") r⟩

/-! ### One step into, along and out of what is open -/

/-- A value that holds no others is followed to its end. -/
lemma skipFrom_scalar (h : Scalar v) (hr : Stops r) (stack : List Frame) :
    skipFrom .value stack (v ++ r) = skipFrom .after stack r := by
  obtain ⟨b, t, rfl, hspace, hlist, hobject, -, hskip⟩ := h
  rw [skipFrom, List.cons_append, skipBlank_cons hspace]
  dsimp only
  rw [if_neg (show b ≠ 0x5B from hlist), if_neg (show b ≠ 0x7B from hobject)]
  split
  · rename_i e he
    rw [hskip r hr] at he
    cases he
  · rename_i t' ht
    rw [hskip r hr] at ht
    cases ht
    rfl

/-- Blanks before a value do not matter. -/
lemma skipFrom_blanks (hb : Blanks b') (s : List UInt8) :
    skipFrom .value stack (b' ++ s) = skipFrom .value stack s := by
  rw [skipFrom, skipFrom, skipBlank_append hb]

/-- A list or an object is opened. -/
lemma skipFrom_opening (f : Frame) (s : List UInt8) (stack : List Frame) :
    skipFrom .value stack (f.opening :: s) = skipFrom .opened (f :: stack) s := by
  cases f with
  | list =>
      rw [skipFrom, Frame.opening, skipBlank_cons (by decide)]
      rfl
  | object =>
      rw [skipFrom, Frame.opening, skipBlank_cons (by decide)]
      rfl

/-- One with nothing in it is closed. -/
lemma skipFrom_opened_close (f : Frame) (hb : Blanks b') (s : List UInt8) (stack : List Frame) :
    skipFrom .opened (f :: stack) (b' ++ f.close :: s) = skipFrom .after stack s := by
  have hspace : isSpace f.close = false := by cases f <;> rfl
  rw [skipFrom, skipBlank_append hb, skipBlank_cons hspace]
  dsimp only
  rw [if_pos rfl]

/-- One with something in it goes on with that. -/
lemma skipFrom_opened (h : skipBlank s = b :: t) (hb : b ≠ f.close)
    (hn : f.skipName (b :: t) = .ok r) :
    skipFrom .opened (f :: stack) s = skipFrom .value (f :: stack) r := by
  conv_lhs => rw [skipFrom, h]
  dsimp only
  rw [if_neg hb]
  split
  · rename_i e he
    rw [hn] at he
    cases he
  · rename_i r' hr
    rw [hn] at hr
    cases hr
    rfl

/-- One is closed after a value. -/
lemma skipFrom_close (f : Frame) (s : List UInt8) (stack : List Frame) :
    skipFrom .after (f :: stack) (f.close :: s) = skipFrom .after stack s := by
  have hspace : isSpace f.close = false := by cases f <;> rfl
  have hcomma : f.close ≠ 0x2C := by cases f <;> decide
  rw [skipFrom, skipBlank_cons hspace]
  dsimp only
  rw [if_neg hcomma, if_pos rfl]

lemma skipFrom_after_blanks (hb : Blanks b') (s : List UInt8) :
    skipFrom .after (f :: stack) (b' ++ s) = skipFrom .after (f :: stack) s := by
  rw [skipFrom, skipFrom, skipBlank_append hb]

/-- A comma leads on to another value. -/
lemma skipFrom_comma (hn : f.skipName s = .ok r) :
    skipFrom .after (f :: stack) (comma :: s) = skipFrom .value (f :: stack) r := by
  conv_lhs => rw [skipFrom, skipBlank_cons (by decide)]
  dsimp only
  rw [if_pos (show comma = 0x2C from rfl)]
  split
  · rename_i e he
    rw [hn] at he
    cases he
  · rename_i r' hr
    rw [hn] at hr
    cases hr
    rfl

/-! ### Any value -/

/-- What precedes a value is passed over. -/
lemma skipName_append (h : Lead f l) (s : List UInt8) : f.skipName (l ++ s) = .ok s := by
  cases h with
  | list => rfl
  | @object b name b' hb hname hb' =>
      have hquote : skipBlank (quote :: (name ++ quote :: (b' ++ colon :: s)))
          = quote :: (name ++ quote :: (b' ++ colon :: s)) := skipBlank_cons (by decide) _
      have hcolon : skipBlank (colon :: s) = colon :: s := skipBlank_cons (by decide) _
      simp only [List.append_assoc, List.cons_append, List.nil_append]
      rw [Frame.skipName, skipName, skipBlank_append hb, hquote]
      dsimp only
      rw [if_pos (show quote = 0x22 from rfl), skipText_append hname]
      dsimp only
      rw [skipBlank_append hb', hcolon]
      rfl

/-- Blanks that precede this make no difference. -/
lemma skipName_skipBlank (stack : List Frame) (h : f.skipName s = .ok t) :
    ∃ t', f.skipName (skipBlank s) = .ok t'
      ∧ skipFrom .value (f :: stack) t' = skipFrom .value (f :: stack) t := by
  have htwice := skipBlank_skipBlank s
  cases f with
  | list =>
      obtain rfl : s = t := Except.ok.inj h
      refine ⟨skipBlank s, rfl, ?_⟩
      rw [skipFrom, skipFrom, htwice]
  | object =>
      refine ⟨t, ?_, rfl⟩
      rw [Frame.skipName, skipName, htwice]
      exact h

/-- A value begins with an octet that is no blank and closes no list. -/
lemma head_value (h : Written .value v) :
    ∃ b t, v = b :: t ∧ isSpace b = false ∧ b ≠ closeList := by
  have hscalar : ∀ {v}, Scalar v → ∃ b t, v = b :: t ∧ isSpace b = false ∧ b ≠ closeList := by
    rintro v ⟨b, t, hv, hspace, -, -, hclose, -⟩
    exact ⟨b, t, hv, hspace, hclose⟩
  cases h with
  | null => exact hscalar scalar_null
  | true => exact hscalar scalar_true
  | false => exact hscalar scalar_false
  | number h => exact hscalar (scalar_number h)
  | text h => exact hscalar (scalar_text h)
  | empty f => exact ⟨_, _, rfl, by cases f <;> rfl, by cases f <;> decide⟩
  | @filled f s => exact ⟨_, _, rfl, by cases f <;> rfl, by cases f <;> decide⟩

/-- What stands in a list or an object does not begin with the octet that closes it. -/
lemma head_items (h : Written (.items f) s) (r : List UInt8) :
    ∃ b t, skipBlank (s ++ r) = b :: t ∧ b ≠ f.close := by
  have hfirst : ∀ {l b v}, Lead f l → Blanks b → Written .value v → ∀ rest,
      ∃ c t, skipBlank (l ++ (b ++ (v ++ rest))) = c :: t ∧ c ≠ f.close := by
    intro l b v hl hb hv rest
    cases hl with
    | list =>
        obtain ⟨c, t, rfl, hspace, hclose⟩ := head_value hv
        rw [List.nil_append, skipBlank_append hb, List.cons_append, skipBlank_cons hspace]
        exact ⟨c, _, rfl, hclose⟩
    | object hb =>
        simp only [List.append_assoc, List.cons_append]
        rw [skipBlank_append hb, skipBlank_cons (by decide)]
        exact ⟨quote, _, rfl, by decide⟩
  cases h with
  | last hl hb hv hb' => simpa only [List.append_assoc] using hfirst hl hb hv _
  | more hl hb hv hb' h => simpa only [List.append_assoc] using hfirst hl hb hv _

/-- Neither blanks nor the octets of punctuation go on with a number. -/
lemma stops_append (hb : Blanks b') (hr : Stops r) : Stops (b' ++ r) := by
  cases b' with
  | nil => exact hr
  | cons c b' =>
      intro x hx
      obtain rfl : c = x := by simpa using hx
      have hspace : isSpace c = true := hb c List.mem_cons_self
      have hcases : c = 0x20 ∨ c = 0x09 ∨ c = 0x0A ∨ c = 0x0D := by
        simpa [isSpace, or_assoc] using hspace
      rcases hcases with rfl | rfl | rfl | rfl <;> decide

lemma stops_comma (s : List UInt8) : Stops (comma :: s) := by
  intro x hx
  obtain rfl : comma = x := by simpa using hx
  decide

lemma stops_close (f : Frame) (s : List UInt8) : Stops (f.close :: s) := by
  intro x hx
  obtain rfl : f.close = x := by simpa using hx
  cases f <;> decide

/-- What it means that a part of a document is passed over. -/
def Passed : Part → List UInt8 → Prop
  | .value, v => ∀ stack r, Stops r → skipFrom .value stack (v ++ r) = skipFrom .after stack r
  | .items f, s => ∀ stack r, ∃ t, f.skipName (s ++ f.close :: r) = .ok t
      ∧ skipFrom .value (f :: stack) t = skipFrom .after stack r

/-- **Whatever is written properly is passed over.** -/
theorem passed {p : Part} (h : Written p s) : Passed p s := by
  induction h with
  | null => exact fun stack r hr => skipFrom_scalar scalar_null hr stack
  | true => exact fun stack r hr => skipFrom_scalar scalar_true hr stack
  | false => exact fun stack r hr => skipFrom_scalar scalar_false hr stack
  | number h => exact fun stack r hr => skipFrom_scalar (scalar_number h) hr stack
  | text h => exact fun stack r hr => skipFrom_scalar (scalar_text h) hr stack
  | empty f hb =>
      intro stack r _
      rw [List.cons_append, List.append_assoc, skipFrom_opening, List.singleton_append,
        skipFrom_opened_close f hb]
  | @filled f s h ih =>
      intro stack r _
      obtain ⟨t, hname, hrest⟩ := ih stack r
      -- what stands inside does not begin with the closing octet, so that an item is expected
      obtain ⟨b, u, hb, hclose⟩ := head_items h (f.close :: r)
      obtain ⟨t', hname', hsame⟩ := skipName_skipBlank stack hname
      rw [hb] at hname'
      rw [List.cons_append, List.append_assoc, skipFrom_opening, List.singleton_append,
        skipFrom_opened hb hclose hname', hsame, hrest]
  | @last f l b v b' hl hb hv hb' ih =>
      intro stack r
      refine ⟨b ++ (v ++ (b' ++ f.close :: r)), ?_, ?_⟩
      · simp only [List.append_assoc]
        exact skipName_append hl _
      · rw [skipFrom_blanks hb, ih _ _ (stops_append hb' (stops_close f r)),
          skipFrom_after_blanks hb', skipFrom_close]
  | @more f l b v b' s hl hb hv hb' h ih ihs =>
      intro stack r
      obtain ⟨t, hname, hrest⟩ := ihs stack r
      refine ⟨b ++ (v ++ (b' ++ comma :: (s ++ f.close :: r))), ?_, ?_⟩
      · simp only [List.append_assoc, List.cons_append]
        exact skipName_append hl _
      · rw [skipFrom_blanks hb, ih _ _ (stops_append hb' (stops_comma _)),
          skipFrom_after_blanks hb', skipFrom_comma hname, hrest]

/-- **A value is passed over**, and what follows it is left. -/
theorem skipValue_append (h : Written .value v) (hr : Stops r) : skipValue (v ++ r) = .ok r := by
  have hpassed : Passed .value v := passed h
  rw [skipValue, hpassed [] r hr, skipFrom]
  simp

end Keyring.Json
