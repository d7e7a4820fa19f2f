import Mathlib.Tactic
import Keyring.Proofs.Json.Passing
import Keyring.Proofs.Text.Utf8

/-!
Texts and objects are read as what they say.

* `readOctets_append`, `readText_append`: the inside of a text is read as the characters that it
  stands for.
* `readOptional_string`, `readOptional_null`: a text where `null` might stand, and `null`.
* `Takes`: what a reader of single members makes of all of them, one after the other.
* `readMembers_append`: an object is read by reading its members.
* `readDocument_object`: so is a document that is an object.
-/

namespace Keyring.Json

variable {b : UInt8} {w b' s t r u v l : List UInt8} {x : Char} {cs : List Char} {m n : ℕ}
  {text name : String}

/-! ### Escapes -/

/-- The letter that stands for a character is read as it. -/
lemma readEscape_letter (hb : escapedLetter? b = some x) (r : List UInt8) :
    readEscape (b :: r) = .ok (x, r) := by
  have hu : b ≠ 0x75 := by
    rintro rfl
    simp [escapedLetter?] at hb
  rw [readEscape, if_neg hu, hb]

/-- The number of a character is read as this character. -/
lemma readEscape_unit (hu : IsUnit u x.toNat) (r : List UInt8) :
    readEscape (0x75 :: (u ++ r)) = .ok (x, r) := by
  have hvalid : x.toNat < 0xD800 ∨ 0xDFFF < x.toNat ∧ x.toNat < 0x110000 := x.valid
  have hlow : isLowSurrogate x.toNat = false := by
    simp only [isLowSurrogate, Bool.and_eq_false_iff, decide_eq_false_iff_not]
    omega
  have hhigh : isHighSurrogate x.toNat = false := by
    simp only [isHighSurrogate, Bool.and_eq_false_iff, decide_eq_false_iff_not]
    omega
  rw [readEscape, if_pos rfl, readUnicode, readUnit_append hu]
  simp [hlow, hhigh]

/-- The two halves of a character are read as this character. -/
lemma readEscape_pair (hu : IsUnit u m) (hv : IsUnit v n) (hm : 0xD800 ≤ m ∧ m ≤ 0xDBFF)
    (hn : 0xDC00 ≤ n ∧ n ≤ 0xDFFF)
    (hx : x.toNat = 0x10000 + (m - 0xD800) * 0x400 + (n - 0xDC00)) (r : List UInt8) :
    readEscape (0x75 :: (u ++ 0x5C :: 0x75 :: (v ++ r))) = .ok (x, r) := by
  have hnot : isLowSurrogate m = false := by
    simp only [isLowSurrogate, Bool.and_eq_false_iff, decide_eq_false_iff_not]
    omega
  have hhigh : isHighSurrogate m = true := by simp [isHighSurrogate, hm]
  have hlow : isLowSurrogate n = true := by simp [isLowSurrogate, hn]
  rw [readEscape, if_pos rfl, readUnicode, readUnit_append hu]
  simp [hnot, hhigh, readSecondHalf, readUnit_append hv, hlow, ← hx]

/-! ### Texts -/

lemma readOctets_quote (r : List UInt8) : readOctets (quote :: r) = .ok ([], r) := by
  rw [readOctets, List.dropWhile_cons_of_neg (by decide)]
  rfl

/-- An octet that is not escaped stands for itself. -/
lemma readOctets_plain (hb : isPlain b = true) (s : List UInt8) :
    readOctets (b :: s) = (readOctets s).map fun p => (b :: p.1, p.2) := by
  rw [readOctets, readOctets, List.dropWhile_cons_of_pos hb, List.takeWhile_cons_of_pos hb]
  cases s.dropWhile isPlain with
  | nil => rfl
  | cons c t =>
      dsimp only
      split_ifs
      · rfl
      · split
        · rfl
        · rename_i y t' _
          cases readOctets t' <;> rfl
      · rfl

/-- An escape stands for the octets of its character. -/
lemma readOctets_escape (he : readEscape s = .ok (x, t)) :
    readOctets (0x5C :: s) = (readOctets t).map fun p => (Utf8.encodeChar x ++ p.1, p.2) := by
  rw [readOctets, List.dropWhile_cons_of_neg (by decide), List.takeWhile_cons_of_neg (by decide)]
  dsimp only
  rw [if_neg (by decide), if_pos rfl]
  split
  · rename_i f hf
    rw [he] at hf
    cases hf
  · rename_i y t' ht
    rw [he] at ht
    cases ht
    rfl

/-- Octets that are not escaped stand for themselves. -/
lemma readOctets_append_plain (hw : ∀ b ∈ w, isPlain b = true) (s : List UInt8) :
    readOctets (w ++ s) = (readOctets s).map fun p => (w ++ p.1, p.2) := by
  induction w with
  | nil =>
      rw [List.nil_append]
      cases readOctets s <;> rfl
  | cons b w ih =>
      rw [List.cons_append, readOctets_plain (hw b List.mem_cons_self),
        ih fun c hc => hw c (List.mem_cons_of_mem _ hc)]
      cases readOctets s <;> rfl

/-- **The inside of a text is read as the octets of the characters** that it stands for. -/
theorem readOctets_append (h : Spells s cs) (r : List UInt8) :
    readOctets (s ++ quote :: r) = .ok (Utf8.encode cs, r) := by
  have henc : ∀ (x : Char) (cs : List Char),
      Utf8.encode (x :: cs) = Utf8.encodeChar x ++ Utf8.encode cs := fun _ _ => List.flatMap_cons
  induction h with
  | nil => exact readOctets_quote r
  | plain hx hquote hbackslash h ih =>
      rw [List.append_assoc,
        readOctets_append_plain fun b hb => isPlain_of_mem_encodeChar hx hquote hbackslash hb, ih,
        henc]
      rfl
  | letter hb h ih =>
      rw [List.cons_append, List.cons_append, readOctets_escape (readEscape_letter hb _), ih, henc]
      rfl
  | unit hu h ih =>
      rw [List.cons_append, List.cons_append, List.append_assoc,
        readOctets_escape (readEscape_unit hu _), ih, henc]
      rfl
  | pair hu hv hm hn hx h ih =>
      simp only [List.cons_append, List.append_assoc]
      rw [readOctets_escape (readEscape_pair hu hv hm hn hx _), ih, henc]
      rfl

/-- **The inside of a text is read as this text.** -/
theorem readText_append (h : Spells s text.toList) (r : List UInt8) :
    readText (s ++ quote :: r) = .ok (text, r) := by
  rw [readText, readOctets_append h]
  dsimp only
  rw [Utf8.decode_encode]
  dsimp only
  rw [String.ofList_toList]

/-- A text is read as what is made of it. -/
lemma readTextAs_append {α : Type} {expected : String} {accept : String → Except Cause α} {a : α}
    (h : IsString v text) (ha : accept text = .ok a) (r : List UInt8) :
    readTextAs expected accept (v ++ r) = .ok (a, r) := by
  obtain ⟨s, rfl, hs⟩ := h
  rw [readTextAs, List.cons_append, skipBlank_cons (by decide)]
  dsimp only
  rw [if_pos rfl, List.append_assoc, List.singleton_append, readText_append hs]
  dsimp only
  rw [ha]

lemma readString_append (h : IsString v text) (r : List UInt8) :
    readString (v ++ r) = .ok (text, r) := readTextAs_append h rfl r

/-- Blanks before a text are passed over. -/
lemma readTextAs_blanks {α : Type} {expected : String} {accept : String → Except Cause α}
    (hb : Blanks b') (s : List UInt8) :
    readTextAs expected accept (b' ++ s) = readTextAs expected accept s := by
  rw [readTextAs, readTextAs, skipBlank_append hb]

/-- A text is read where there might be `null`. -/
lemma readOptional_string (hb : Blanks b') (h : IsString v text) (r : List UInt8) :
    readOptional readString (b' ++ (v ++ r)) = .ok (some text, r) := by
  have hread := readString_append h r
  obtain ⟨s, rfl, -⟩ := h
  rw [List.cons_append] at hread ⊢
  rw [readOptional, skipBlank_append hb, skipBlank_cons (by decide)]
  dsimp only
  rw [if_neg (by decide), hread]
  rfl

/-- `null` is read where there might be something else. -/
lemma readOptional_null {α : Type} (read : List UInt8 → Reading α) (hb : Blanks b')
    (r : List UInt8) : readOptional read (b' ++ (ascii "null" ++ r)) = .ok (none, r) := by
  have hnull : skipBlank (ascii "null" ++ r) = 0x6E :: (ascii "ull" ++ r) :=
    skipBlank_cons (by decide) _
  rw [readOptional, skipBlank_append hb, hnull]
  dsimp only
  rw [if_pos rfl, readLiteral_append]
  rfl

/-! ### Members -/

/-- The name of a first member is found. -/
lemma nextName_append (hb : Blanks b') (h : IsString v name) (r : List UInt8) :
    nextName true (b' ++ (v ++ r)) = .ok (some name, r) := by
  obtain ⟨s, rfl, hs⟩ := h
  rw [nextName, skipBlank_append hb, List.cons_append, skipBlank_cons (by decide)]
  dsimp only
  rw [if_neg (by decide), if_pos rfl, if_pos rfl, List.append_assoc, List.singleton_append,
    readText_append hs]
  rfl

/-- The name of a later member is found after a comma. -/
lemma nextName_comma (hb : Blanks b') (h : skipBlank s = quote :: t) :
    nextName false (b' ++ comma :: s) = nextName true s := by
  rw [nextName, nextName, skipBlank_append hb, skipBlank_cons (by decide), h]
  dsimp only
  rw [if_neg (by decide), if_neg (by decide), if_pos rfl, h, if_neg (by decide), if_pos rfl,
    if_pos rfl]
  dsimp only
  rw [if_pos rfl]

/-- At the closing brace there is no further name. -/
lemma nextName_close (first : Bool) (hb : Blanks b') (r : List UInt8) :
    nextName first (b' ++ closeObject :: r) = .ok (none, closeObject :: r) := by
  rw [nextName, skipBlank_append hb, skipBlank_cons (by decide)]
  dsimp only
  rw [if_pos rfl]

lemma readColon_append (hb : Blanks b') (r : List UInt8) :
    readColon (b' ++ colon :: r) = .ok r := by
  rw [readColon, skipBlank_append hb, skipBlank_cons (by decide)]
  rfl

/-- A member that is not read is passed over. -/
lemma skipMember_append {b b' : List UInt8} (hb : Blanks b) (hb' : Blanks b')
    (hv : Written .value v) (hr : Stops r) :
    skipMember (b ++ colon :: (b' ++ (v ++ r))) = .ok r := by
  have hskip := skipValue_append hv hr
  rw [skipMember, readColon_append hb]
  dsimp only
  rw [skipValue, skipFrom_blanks hb', ← skipValue, hskip]

section Members

variable {σ : Type} {member : σ → String → List UInt8 → Reading σ} {st st' : σ}
  {ms : List (String × List UInt8)}

/-- **What a reader of single members makes of all of them**, one after the other: each is read,
whatever blanks there are and whatever follows. -/
inductive Takes (member : σ → String → List UInt8 → Reading σ) :
    σ → List (String × List UInt8) → σ → Prop where
  | nil {st : σ} : Takes member st [] st
  | cons {st st₁ st₂ : σ} {name : String} {v : List UInt8} {rest : List (String × List UInt8)}
      (h : ∀ b b' r, Blanks b → Blanks b' → Stops r →
        member st name (b ++ colon :: (b' ++ (v ++ r))) = .ok (st₁, r))
      (hrest : Takes member st₁ rest st₂) : Takes member st ((name, v) :: rest) st₂

/-- What is read in an object begins with a quote. -/
lemma skipBlank_members (h : Members ms s) (r : List UInt8) :
    ∃ t, skipBlank (s ++ r) = quote :: t := by
  have hlabel : ∀ {name l}, Label name l → ∀ rest, ∃ t, skipBlank (l ++ rest) = quote :: t := by
    rintro name l ⟨b, v, b', rfl, hb, ⟨s, rfl, -⟩, -⟩ rest
    rw [List.append_assoc, skipBlank_append hb, List.cons_append, List.cons_append,
      skipBlank_cons (by decide)]
    exact ⟨_, rfl⟩
  cases h with
  | last hl => simpa only [List.append_assoc] using hlabel hl _
  | more hl => simpa only [List.append_assoc] using hlabel hl _

/-- A first member is read, and what follows it is left. -/
lemma readMembers_member {fuel : ℕ} {st₁ : σ} (hl : Label name l) (hb : Blanks b')
    (h : ∀ b b' r, Blanks b → Blanks b' → Stops r →
      member st name (b ++ colon :: (b' ++ (v ++ r))) = .ok (st₁, r)) (hr : Stops r) :
    readMembers member (fuel + 1) true st (l ++ (b' ++ (v ++ r)))
      = readMembers member fuel false st₁ r := by
  obtain ⟨c, q, c', rfl, hc, hq, hc'⟩ := hl
  simp only [List.append_assoc, List.cons_append, List.nil_append]
  rw [readMembers, nextName_append hc hq]
  dsimp only
  rw [h c' b' r hc' hb hr]

/-- The values of members are written properly. -/
lemma written_of_mem (h : Members ms s) (hv : (name, v) ∈ ms) : Written .value v := by
  induction h with
  | last hl hb hw hb' =>
      obtain ⟨-, rfl⟩ := Prod.mk.inj (List.mem_singleton.mp hv)
      exact hw
  | more hl hb hw hb' h ih =>
      rcases List.mem_cons.mp hv with heq | hv
      · obtain ⟨-, rfl⟩ := Prod.mk.inj heq
        exact hw
      · exact ih hv

/-- **The members of an object are read** one after the other up to the closing brace. -/
theorem readMembers_append {fuel : ℕ} (h : Members ms s) (ht : Takes member st ms st')
    (hfuel : ms.length < fuel) (r : List UInt8) :
    readMembers member fuel true st (s ++ closeObject :: r) = .ok (st', closeObject :: r) := by
  induction h generalizing st fuel with
  | @last name l b v b' hl hb hv hb' =>
      cases ht with
      | cons hmember hrest =>
          cases hrest with
          | nil =>
              obtain ⟨fuel, rfl⟩ : ∃ k, fuel = k + 2 := ⟨fuel - 2, by simp at hfuel; omega⟩
              have hstops : Stops (b' ++ closeObject :: r) :=
                stops_append hb' (stops_close .object r)
              simp only [List.append_assoc]
              rw [readMembers_member hl hb hmember hstops, readMembers, nextName_close false hb']
  | @more name l b v b' s rest hl hb hv hb' h ih =>
      cases ht with
      | @cons _ st₁ _ _ _ _ hmember hrest =>
          obtain ⟨fuel, rfl⟩ : ∃ k, fuel = k + 2 := ⟨fuel - 2, by simp at hfuel; omega⟩
          obtain ⟨t, hquote⟩ := skipBlank_members h (closeObject :: r)
          have hlater : readMembers member (fuel + 1) true st₁ (s ++ closeObject :: r)
              = .ok (st', closeObject :: r) := ih hrest (by simp at hfuel; omega)
          simp only [List.append_assoc, List.cons_append]
          rw [readMembers_member hl hb hmember (stops_append hb' (stops_comma _)), ← hlater,
            readMembers, readMembers, nextName_comma hb' hquote]

/-! ### Objects and documents -/

/-- There are fewer members than octets. -/
lemma length_members_le (h : Members ms s) : ms.length ≤ s.length := by
  have hlabel : ∀ {name l}, Label name l → 1 ≤ l.length := by
    rintro name l ⟨b, v, b', rfl, -⟩
    simp only [List.length_append, List.length_singleton]
    omega
  induction h with
  | last hl hb hv hb' =>
      have hlength := hlabel hl
      simp only [List.length_append, List.length_singleton]
      omega
  | more hl hb hv hb' h ih =>
      simp only [List.length_append, List.length_cons]
      omega

/-- What follows an object is what follows its closing brace. -/
lemma leaveObject_close (r : List UInt8) : leaveObject (closeObject :: r) = r := by
  rw [leaveObject, skipBlank_cons (by decide)]
  rfl

variable {α : Type} {finish : σ → Except Cause α} {a : α}

/-- **An object is read** by reading its members, and what follows it is left. -/
lemma readObject_append (h : ms = [] ∧ Blanks s ∨ Members ms s) (ht : Takes member st ms st')
    (hf : finish st' = .ok a) (r : List UInt8) :
    readObject member st finish (s ++ closeObject :: r) = .ok (a, r) := by
  have hread : readMembers member ((s ++ closeObject :: r).length + 1) true st
      (s ++ closeObject :: r) = .ok (st', closeObject :: r) := by
    rcases h with ⟨rfl, hs⟩ | hms
    · cases ht with
      | nil => rw [readMembers, nextName_close true hs]
    · have hlength := length_members_le hms
      refine readMembers_append hms ht ?_ r
      rw [List.length_append]
      omega
  rw [readObject, hread]
  dsimp only
  rw [hf]
  dsimp only
  rw [leaveObject_close]

variable {expected : String} {ofList : List UInt8 → Reading α}

/-- **A record that is an object is read** by reading its members, and what follows it is left. -/
lemma readRecord_append (hb : Blanks b') (h : ms = [] ∧ Blanks s ∨ Members ms s)
    (ht : Takes member st ms st') (hf : finish st' = .ok a) (r : List UInt8) :
    readRecord expected (readObject member st finish) ofList
      (b' ++ openObject :: (s ++ closeObject :: r)) = .ok (a, r) := by
  rw [readRecord, skipBlank_append hb, skipBlank_cons (by decide)]
  dsimp only
  rw [if_pos rfl, readObject_append h ht hf]

/-- **A document that is an object is read** by reading its members. -/
theorem readDocument_object {document : List UInt8} (h : IsObject document ms)
    (ht : Takes member st ms st') (hf : finish st' = .ok a) :
    readDocument (readRecord expected (readObject member st finish) ofList) document = .ok a := by
  obtain ⟨b, s, b', rfl, hb, hb', hs⟩ := h
  rw [readDocument, readRecord_append hb hs ht hf]
  dsimp only
  rw [skipBlank_of_blanks hb']

end Members

end Keyring.Json
