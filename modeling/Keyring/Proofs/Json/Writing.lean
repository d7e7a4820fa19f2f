import Mathlib.Tactic
import Keyring.Proofs.Json.Reading

/-!
What is written is a value, and is read as what was written.

* `isString_writeText`: a text that is written stands for itself.
* `isWhole_toDigits`, `IsNatural.readNatural_append`: so do the digits of a number.
* `written_natural`, `written_text`, `written_bool`: these are values.
* `readBool_append`, `readVariant_append`: truth values and names of variants are read.
* `isObject_write`, `written_object`: an object of values is one, with its members in order, and a
  value.
-/

namespace Keyring.Json

variable {s r b' : List UInt8} {cs : List Char} {x : Char} {n : ℕ}

/-! ### Texts -/

/-- The octets of some characters and others are those of the former and of the latter. -/
lemma encode_append (cs ds : List Char) :
    Utf8.encode (cs ++ ds) = Utf8.encode cs ++ Utf8.encode ds :=
  List.flatMap_append

lemma encode_nil : Utf8.encode [] = [] := rfl

lemma encode_cons (x : Char) (cs : List Char) :
    Utf8.encode (x :: cs) = Utf8.encodeChar x ++ Utf8.encode cs :=
  List.flatMap_cons

/-- A hexadecimal digit is an octet that stands for its number. -/
lemma exists_octet_digit (h : n < 16) :
    ∃ b, Utf8.encodeChar (Hex.digit n) = [b] ∧ Hex.octetValue? b = some n := by
  have hall : ∀ n < 16, Hex.octetValue? (UInt8.ofNat (Hex.digit n).toNat) = some n
      ∧ Utf8.encodeChar (Hex.digit n) = [UInt8.ofNat (Hex.digit n).toNat] := by decide
  exact ⟨_, (hall n h).2, (hall n h).1⟩

/-- What is written for a character stands for it. -/
lemma Spells.escape (h : Spells s cs) (x : Char) :
    Spells (Utf8.encode (escape x) ++ s) (x :: cs) := by
  have hletter : ∀ {b : UInt8} (c : Char), escapedLetter? b = some x →
      Utf8.encode ['\\', c] = [0x5C, b] → Spells (Utf8.encode ['\\', c] ++ s) (x :: cs) := by
    intro b c hb hoctets
    rw [hoctets]
    exact .letter hb h
  unfold Json.escape
  split_ifs with hquote hbackslash hn hr ht hb hf hcontrol
  · exact hletter (b := 0x22) '"' (by rw [hquote]; rfl) (by decide)
  · exact hletter (b := 0x5C) '\\' (by rw [hbackslash]; rfl) (by decide)
  · exact hletter (b := 0x6E) 'n' (by rw [hn]; rfl) (by decide)
  · exact hletter (b := 0x72) 'r' (by rw [hr]; rfl) (by decide)
  · exact hletter (b := 0x74) 't' (by rw [ht]; rfl) (by decide)
  · exact hletter (b := 0x62) 'b' (by rw [hb]; rfl) (by decide)
  · exact hletter (b := 0x66) 'f' (by rw [hf]; rfl) (by decide)
  · obtain ⟨c, hc, hcvalue⟩ := exists_octet_digit (n := x.toNat / 16) (by omega)
    obtain ⟨d, hd, hdvalue⟩ := exists_octet_digit (n := x.toNat % 16) (by omega)
    have hoctets : Utf8.encode ['\\', 'u', '0', '0', Hex.digit (x.toNat / 16),
        Hex.digit (x.toNat % 16)] = 0x5C :: 0x75 :: [0x30, 0x30, c, d] := by
      simp only [encode_cons, hc, hd]
      rfl
    have hunit : IsUnit [0x30, 0x30, c, d] x.toNat :=
      ⟨0x30, 0x30, c, d, 0, 0, _, _, rfl, rfl, rfl, hcvalue, hdvalue, by omega⟩
    rw [hoctets]
    exact .unit hunit h
  · rw [encode_cons, encode_nil, List.append_nil]
    exact .plain (not_lt.mp hcontrol) hquote hbackslash h

/-- **A text that is written stands for itself.** -/
theorem isString_writeText (text : String) : IsString (Utf8.encode (writeText text)) text := by
  have hinside : ∀ cs : List Char, Spells (Utf8.encode (cs.flatMap Json.escape)) cs := by
    intro cs
    induction cs with
    | nil => exact .nil
    | cons x cs ih =>
        rw [List.flatMap_cons, encode_append]
        exact ih.escape x
  refine ⟨_, ?_, hinside text.toList⟩
  rw [writeText, encode_cons, encode_append]
  rfl

/-! ### Numbers -/

/-- The octet of a digit. -/
def digitOctet (c : Char) : UInt8 := UInt8.ofNat c.toNat

lemma toNat_digitOctet {c : Char} (h : c.isDigit = true) :
    (digitOctet c).toNat = c.toNat ∧ 0x30 ≤ c.toNat ∧ c.toNat ≤ 0x39 := by
  have hbounds : 0x30 ≤ c.toNat ∧ c.toNat ≤ 0x39 := Char.isDigit_iff_toNat.mp h
  exact ⟨UInt8.toNat_ofNat_of_lt' (by rw [UInt8.size]; omega), hbounds⟩

lemma isDigit_digitOctet {c : Char} (h : c.isDigit = true) : isDigit (digitOctet c) = true := by
  obtain ⟨heq, hbounds⟩ := toNat_digitOctet h
  simp [isDigit, UInt8.le_iff_toNat_le, heq, hbounds]

/-- Digits are one octet each. -/
lemma encode_digits (h : ∀ c ∈ cs, c.isDigit = true) : Utf8.encode cs = cs.map digitOctet := by
  induction cs with
  | nil => rfl
  | cons c cs ih =>
      obtain ⟨hc, hcs⟩ := List.forall_mem_cons.mp h
      have hlt : c.toNat < 0x80 := by
        have hbounds := (toNat_digitOctet hc).2
        omega
      rw [encode_cons, ih hcs, Utf8.encodeChar, if_pos hlt]
      rfl

/-- Digits stand for at least what was read before them. -/
lemma le_ofDigitChars (cs : List Char) (m : ℕ) : m ≤ Nat.ofDigitChars 10 cs m := by
  rw [Nat.ofDigitChars_eq_ofDigitChars_zero]
  have hpow : 1 ≤ 10 ^ cs.length := Nat.one_le_pow _ _ (by norm_num)
  calc m ≤ 10 ^ cs.length * m := Nat.le_mul_of_pos_left m hpow
    _ ≤ _ := Nat.le_add_right _ _

/-- Digits are all read if the number that they stand for is not too large. -/
lemma readDigits_map {bound m : ℕ} (h : ∀ c ∈ cs, c.isDigit = true)
    (hlt : Nat.ofDigitChars 10 cs m < bound) :
    readDigits bound m (cs.map digitOctet) = (Nat.ofDigitChars 10 cs m, cs.length) := by
  induction cs generalizing m with
  | nil => rfl
  | cons c cs ih =>
      obtain ⟨hc, hcs⟩ := List.forall_mem_cons.mp h
      have hstep : m * 10 + digitValue (digitOctet c) = 10 * m + (c.toNat - '0'.toNat) := by
        rw [digitValue, (toNat_digitOctet hc).1, Nat.mul_comm]
        rfl
      rw [Nat.ofDigitChars_cons] at hlt ⊢
      have hfits : 10 * m + (c.toNat - '0'.toNat) < bound := (le_ofDigitChars cs _).trans_lt hlt
      rw [List.map_cons, readDigits, hstep, if_pos hfits, ih hcs hlt]
      rfl

/-- The digits of a number do not begin with a zero, unless there is no other. -/
lemma eq_zero_of_head_toDigits (h : (Nat.toDigits 10 n).head? = some '0') : n = 0 := by
  induction n using Nat.strong_induction_on with
  | _ n ih =>
      rcases lt_or_ge n 10 with hn | hn
      · rw [Nat.toDigits_of_lt_base hn, List.head?_singleton, Option.some_inj] at h
        have hvalue := Nat.toNat_digitChar_of_lt_ten hn
        rw [h] at hvalue
        exact (Nat.add_eq_left.mp hvalue.symm)
      · rw [Nat.toDigits_of_base_le (by norm_num) hn,
          List.head?_append_of_ne_nil _ Nat.toDigits_ne_nil] at h
        have hquotient := ih (n / 10) (by omega) h
        omega

lemma isDigit_of_mem_toDigits {c : Char} (h : c ∈ Nat.toDigits 10 n) : c.isDigit = true :=
  Nat.isDigit_of_mem_toDigits (by norm_num) le_rfl h

/-- The digits of a number are those of a whole number. -/
lemma isWhole_toDigits (n : ℕ) : IsWhole (Utf8.encode (Nat.toDigits 10 n)) := by
  rw [encode_digits fun c => isDigit_of_mem_toDigits]
  refine ⟨⟨by simp [Nat.toDigits_ne_nil], fun b hb => ?_⟩, fun hhead => ?_⟩
  · obtain ⟨c, hc, rfl⟩ := List.mem_map.mp hb
    exact isDigit_digitOctet (isDigit_of_mem_toDigits hc)
  · rw [List.head?_map] at hhead
    obtain ⟨c, hc, hoctet⟩ := Option.map_eq_some_iff.mp hhead
    have hdigit := isDigit_of_mem_toDigits (List.mem_of_mem_head? hc)
    obtain rfl : c = '0' := by
      rw [← Char.toNat_inj, ← (toNat_digitOctet hdigit).1, hoctet]
      rfl
    rw [eq_zero_of_head_toDigits hc]
    rfl

/-- The digits of a number are taken up to what does not go on with it. -/
lemma takeWhile_digits (hs : ∀ b ∈ s, isDigit b = true) (hr : ∀ b ∈ r.head?, isDigit b = false) :
    (s ++ r).takeWhile isDigit = s := by
  rw [List.takeWhile_append_of_pos hs]
  cases r with
  | nil => simp
  | cons b r => rw [List.takeWhile_cons_of_neg (by simp [hr b rfl]), List.append_nil]

/-- **A number that is written is read**, whatever follows that does not go on with it. -/
theorem readNumber_toDigits (hn : n < UInt64.size) (hr : Stops r) :
    readNumber (Utf8.encode (Nat.toDigits 10 n) ++ r) = .ok (.natural (UInt64.ofNat n), r) := by
  obtain ⟨⟨hne, hdigits⟩, hzero⟩ := isWhole_toDigits n
  have hread : readDigits UInt64.size 0 (Utf8.encode (Nat.toDigits 10 n))
      = (n, (Utf8.encode (Nat.toDigits 10 n)).length) := by
    have hvalue : Nat.ofDigitChars 10 (Nat.toDigits 10 n) 0 = n := Nat.ofDigitChars_ten_toDigits
    rw [encode_digits fun c => isDigit_of_mem_toDigits,
      readDigits_map (fun c => isDigit_of_mem_toDigits) (hvalue.symm ▸ hn), hvalue,
      List.length_map]
  generalize Utf8.encode (Nat.toDigits 10 n) = ds at hne hdigits hzero hread
  have hstop : ∀ b ∈ r.head?, isDigit b = false := fun b hb => (hr b hb).1
  have htake := takeWhile_digits hdigits hstop
  have hdrop := dropWhile_digits hdigits hstop
  obtain ⟨d, ds, rfl⟩ := List.exists_cons_of_ne_nil hne
  have hd : isDigit d = true := hdigits d List.mem_cons_self
  have hminus : d ≠ 0x2D := by
    rintro rfl
    cases hd
  have hlead : (d = 0x30 && ((ds ++ r).head?.any isDigit)) = false := by
    by_cases h30 : d = 0x30
    · obtain rfl : ds = [] := by simpa [h30] using hzero
      rw [List.nil_append, Bool.and_eq_false_iff, Option.any_eq_false_iff_get]
      exact .inr fun hsome => hstop _ (Option.get_mem hsome)
    · simp [h30]
  rw [List.cons_append] at htake hdrop ⊢
  rw [readNumber.eq_2 _ (by simpa using hminus), readUnsigned]
  simp only [hd, hlead, htake, hdrop, hread, Bool.not_true, Bool.false_eq_true, if_false,
    sub_self]
  cases r with
  | nil => rfl
  | cons b t =>
      obtain ⟨-, hpoint, hmark⟩ := hr b rfl
      simp [hmark, wholeNumber]

/-- A number below a bound, as it is written. -/
def IsNatural (bound : ℕ) (v : List UInt8) (n : ℕ) : Prop :=
  n < bound ∧ v = Utf8.encode (Nat.toDigits 10 n)

/-- A number is read where one below its bound is expected. -/
lemma IsNatural.readNatural_append {bound : ℕ} {expected : String} {v : List UInt8}
    (h : IsNatural bound v n) (hsize : bound ≤ UInt64.size) (hb : Blanks b') (hr : Stops r) :
    readNatural bound expected (b' ++ (v ++ r)) = .ok (n, r) := by
  obtain ⟨hbound, rfl⟩ := h
  have hn := hbound.trans_le hsize
  have hread := readNumber_toDigits hn hr
  obtain ⟨⟨hne, hdigits⟩, -⟩ := isWhole_toDigits n
  generalize Utf8.encode (Nat.toDigits 10 n) = ds at hne hdigits hread
  obtain ⟨d, ds, rfl⟩ := List.exists_cons_of_ne_nil hne
  have hd : isDigit d = true := hdigits d List.mem_cons_self
  have hspace : isSpace d = false := by
    have hno : ∀ b, isDigit b = false → d ≠ b := by
      rintro b hb rfl
      simp [hd] at hb
    simp [isSpace, hno 0x20 (by decide), hno 0x09 (by decide), hno 0x0A (by decide),
      hno 0x0D (by decide)]
  have hvalue : (UInt64.ofNat n).toNat = n := by
    rw [UInt64.toNat_ofNat', Nat.mod_eq_of_lt hn]
  rw [List.cons_append] at hread ⊢
  rw [readNatural, skipBlank_append hb, skipBlank_cons hspace]
  simp only [hd, Bool.or_true, if_true, hread, hvalue, hbound]

/-! ### Values -/

/-- What is written of a value. -/
def Value.octets (v : Value) : List UInt8 := Utf8.encode v.write

lemma written_null : Written .value Value.null.octets := .null

lemma written_text (text : String) : Written .value (Value.text text).octets :=
  (isString_writeText text).written

lemma written_bool : ∀ b : Bool, Written .value (Value.bool b).octets
  | true => .true
  | false => .false

lemma written_natural (n : UInt64) : Written .value (Value.natural n).octets := by
  have hnumber : IsNumber ([] ++ (Utf8.encode (Nat.toDigits 10 n.toNat) ++ ([] ++ []))) :=
    .parts (.inl rfl) (isWhole_toDigits n.toNat) .none .none
  rw [List.nil_append, List.append_nil, List.append_nil] at hnumber
  exact .number hnumber

/-- A number is written as itself. -/
lemma isNatural_natural (n : UInt64) : IsNatural UInt64.size (Value.natural n).octets n.toNat := by
  refine ⟨n.toNat_lt_size, ?_⟩
  rw [Value.octets, Value.natural, Value.write, Number.write]

/-- A truth value that is written is read. -/
lemma readBool_append (b : Bool) (hb : Blanks b') (r : List UInt8) :
    readBool (b' ++ ((Value.bool b).octets ++ r)) = .ok (b, r) := by
  cases b with
  | true =>
      have hskip : skipBlank ((Value.bool true).octets ++ r) = 0x74 :: (ascii "rue" ++ r) :=
        skipBlank_cons (by decide) _
      rw [readBool, skipBlank_append hb, hskip]
      dsimp only
      rw [if_pos rfl, readLiteral_append]
      rfl
  | false =>
      have hskip : skipBlank ((Value.bool false).octets ++ r) = 0x66 :: (ascii "alse" ++ r) :=
        skipBlank_cons (by decide) _
      rw [readBool, skipBlank_append hb, hskip]
      dsimp only
      rw [if_neg (by decide), if_pos rfl, readLiteral_append]
      rfl

/-- The name of a variant is read as what is made of it. -/
lemma readVariant_append {α : Type} {accept : String → Except Cause α} {a : α} {v : List UInt8}
    {text : String} (h : IsString v text) (ha : accept text = .ok a) (hb : Blanks b')
    (r : List UInt8) : readVariant accept (b' ++ (v ++ r)) = .ok (a, r) := by
  have hread : readTextAs "variant identifier" accept (v ++ r) = .ok (a, r) :=
    readTextAs_append h ha r
  obtain ⟨s, rfl, -⟩ := h
  rw [List.cons_append] at hread ⊢
  rw [readVariant, skipBlank_append hb, skipBlank_cons (by decide)]
  dsimp only
  rw [if_pos rfl, hread]

/-! ### Objects -/

section Objects

variable {ms : List (String × Value)} {v : Value} {name : String}

/-- No blanks are blanks. -/
lemma blanks_nil : Blanks [] := fun _ hb => absurd hb List.not_mem_nil

/-- The name of a member and the colon after it. -/
lemma label_writeText (name : String) : Label name (Utf8.encode (writeText name) ++ [colon]) :=
  ⟨[], _, [], rfl, blanks_nil, isString_writeText name, blanks_nil⟩

/-- Members that are written, with the octets of their values. -/
def writtenMembers (ms : List (String × Value)) : List (String × List UInt8) :=
  ms.map fun m => (m.1, m.2.octets)

/-- Members stand between their braces as they are written. -/
lemma exists_members (m : String × Value) (ms : List (String × Value))
    (h : ∀ m' ∈ m :: ms, Written .value m'.2.octets) :
    ∃ s, Utf8.encode (writeMembers (m :: ms)) = s ++ [closeObject]
      ∧ Members (writtenMembers (m :: ms)) s := by
  induction ms generalizing m with
  | nil =>
      obtain ⟨name, v⟩ := m
      refine ⟨Utf8.encode (writeText name) ++ [colon] ++ ([] ++ (v.octets ++ [])), ?_,
        .last (label_writeText name) blanks_nil (h _ List.mem_cons_self) blanks_nil⟩
      rw [writeMembers, encode_append, encode_cons, encode_append]
      simp [Value.octets]
      rfl
  | cons m' ms ih =>
      obtain ⟨name, v⟩ := m
      obtain ⟨s, hs, hmembers⟩ := ih m' fun m'' hm => h m'' (List.mem_cons_of_mem _ hm)
      refine ⟨Utf8.encode (writeText name) ++ [colon] ++ ([] ++ (v.octets ++ ([] ++ comma :: s))),
        ?_, .more (label_writeText name) blanks_nil (h _ List.mem_cons_self) blanks_nil hmembers⟩
      rw [writeMembers, encode_append, encode_cons, encode_append, encode_cons, hs]
      simp [Value.octets]
      rfl

/-- An object that is written has braces, with its members between them. -/
lemma exists_inside (h : ∀ m ∈ ms, Written .value m.2.octets) :
    ∃ s, (Value.object ms).octets = openObject :: (s ++ [closeObject])
      ∧ (writtenMembers ms = [] ∧ Blanks s ∨ Members (writtenMembers ms) s) := by
  cases ms with
  | nil => exact ⟨[], rfl, .inl ⟨rfl, blanks_nil⟩⟩
  | cons m ms =>
      obtain ⟨s, hs, hmembers⟩ := exists_members m ms h
      refine ⟨s, ?_, .inr hmembers⟩
      rw [Value.octets, Value.write, encode_cons, hs]
      rfl

/-- **What is written of an object is an object** with its members in order. -/
theorem isObject_write (h : ∀ m ∈ ms, Written .value m.2.octets) :
    IsObject (Value.object ms).octets (writtenMembers ms) := by
  obtain ⟨s, hs, hinside⟩ := exists_inside h
  exact ⟨[], s, [], hs, blanks_nil, blanks_nil, hinside⟩

/-- The name of a member precedes its value. -/
lemma Label.lead {l : List UInt8} (h : Label name l) : Lead .object l := by
  obtain ⟨b, v, b', rfl, hb, ⟨s, rfl, hs⟩, hb'⟩ := h
  simpa using Lead.object hb hs.isText hb'

/-- Members are what stands in an object. -/
lemma Members.written {ms : List (String × List UInt8)} (h : Members ms s) :
    Written (.items .object) s := by
  induction h with
  | last hl hb hv hb' => exact .last hl.lead hb hv hb'
  | more hl hb hv hb' _ ih => exact .more hl.lead hb hv hb' ih

/-- An object that is written is a value. -/
lemma written_object (h : ∀ m ∈ ms, Written .value m.2.octets) :
    Written .value (Value.object ms).octets := by
  obtain ⟨s, hs, ⟨-, hblanks⟩ | hmembers⟩ := exists_inside h
  · rw [hs]
    exact .empty .object hblanks
  · rw [hs]
    exact .filled (f := .object) hmembers.written

end Objects

end Keyring.Json
