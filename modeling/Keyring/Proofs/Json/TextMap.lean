import Mathlib.Tactic
import Keyring.Proofs.Json.Reading
import Keyring.Proofs.Json.Spelling

/-!
Where an object is read one stands, and one whose values are texts is read as its members.

* `Steps`: what single members make of a state, one after the other.
* `Reads`: a reader of single members takes each with its colon and its value, and nothing else.
* `readMembers_eq_ok`, `readObject_eq_ok`: where such a reader goes through an object, members
  stand.
* `IsTextMap`: a document that is an object of texts, with its members in order.
* `readDocument_textMap_iff`: these documents are read, as their members, and no others.
-/

namespace Keyring.Json

variable {s t r : List UInt8} {name : String} {first : Bool}

/-! ### Names and colons -/

/-- Where a first name is read, a text stands, after blanks. -/
lemma nextName_eq_some (h : nextName true s = .ok (some name, r)) :
    ∃ b v, s = b ++ (v ++ r) ∧ Blanks b ∧ IsString v name := by
  unfold nextName at h
  split at h
  · cases h
  · next c t hs =>
    simp only [if_true] at h
    split_ifs at h with hclose hquote
    · cases h
    · obtain ⟨⟨text, r'⟩, ht, hp⟩ := map_eq_ok_iff.mp h
      cases hp
      exact exists_isString (hquote ▸ hs) ht

/-- Where another name is read, a comma stands before it. -/
lemma nextName_eq_some_comma (h : nextName false s = .ok (some name, r)) :
    ∃ b t, s = b ++ comma :: t ∧ Blanks b ∧ nextName true t = .ok (some name, r) := by
  unfold nextName at h
  split at h
  · cases h
  · next c t hs =>
    simp only [Bool.false_eq_true, if_false] at h
    split_ifs at h with hclose hcomma
    · cases h
    · split at h
      · cases h
      · next c' t' ht =>
        split_ifs at h with hquote
        obtain ⟨b, rfl, hb⟩ := skipBlank_eq_cons hs
        refine ⟨b, t, by rw [hcomma], hb, ?_⟩
        rw [nextName, ht, hquote]
        exact h

/-- Where no name is left, the closing brace stands, after blanks. -/
lemma nextName_eq_none (h : nextName first s = .ok (none, r)) :
    ∃ b r', s = b ++ r ∧ Blanks b ∧ r = closeObject :: r' := by
  unfold nextName at h
  split at h
  · cases h
  · next c t hs =>
    split_ifs at h with hclose hfirst hquote hcomma
    · cases h
      obtain ⟨b, rfl, hb⟩ := skipBlank_eq_cons hs
      exact ⟨b, t, rfl, hb, by rw [hclose]⟩
    · obtain ⟨p, -, hp⟩ := map_eq_ok_iff.mp h
      cases hp
    · split at h
      · cases h
      · next c' t' ht =>
        split_ifs at h
        obtain ⟨p, -, hp⟩ := map_eq_ok_iff.mp h
        cases hp

/-- Where a colon is read, it stands, after blanks. -/
lemma readColon_eq_ok (h : readColon s = .ok r) : ∃ b, s = b ++ colon :: r ∧ Blanks b := by
  unfold readColon at h
  split at h
  · cases h
  · next c t hs =>
    split_ifs at h with hcolon
    cases h
    subst hcolon
    exact skipBlank_eq_cons hs

/-! ### Members -/

section Members

variable {σ : Type} {member : σ → String → List UInt8 → Reading σ}
  {one : σ → String → List UInt8 → σ → Prop} {st st' : σ} {ms : List (String × List UInt8)}

/-- **What single members make of a state**, one after the other. -/
inductive Steps (one : σ → String → List UInt8 → σ → Prop) :
    σ → List (String × List UInt8) → σ → Prop where
  | nil {st : σ} : Steps one st [] st
  | cons {st st₁ st₂ : σ} {name : String} {v : List UInt8} {rest : List (String × List UInt8)}
      (h : one st name v st₁) (hrest : Steps one st₁ rest st₂) :
      Steps one st ((name, v) :: rest) st₂

/-- **A reader of single members takes the colon and the value** of a member and nothing else, and
makes of the state what is said. -/
def Reads (member : σ → String → List UInt8 → Reading σ)
    (one : σ → String → List UInt8 → σ → Prop) : Prop :=
  ∀ ⦃st name s st₁ r⦄, member st name s = .ok (st₁, r) → ∃ b b' v,
    s = b ++ colon :: (b' ++ (v ++ r)) ∧ Blanks b ∧ Blanks b' ∧ Written .value v ∧ one st name v st₁

/-- A member that is read stands there with its label and its value. -/
lemma exists_label {st₁ : σ} (hmember : Reads member one)
    (hn : nextName true s = .ok (some name, t)) (hm : member st name t = .ok (st₁, r)) :
    ∃ l b v, s = l ++ (b ++ (v ++ r)) ∧ Label name l ∧ Blanks b ∧ Written .value v
      ∧ one st name v st₁ := by
  obtain ⟨c, q, rfl, hc, hq⟩ := nextName_eq_some hn
  obtain ⟨c', b, v, rfl, hc', hb, hv, hone⟩ := hmember hm
  exact ⟨c ++ (q ++ (c' ++ [colon])), b, v, by simp, ⟨c, q, c', rfl, hc, hq, hc'⟩, hb, hv, hone⟩

/-- What is left after a member that is read, up to the closing brace, goes on an object. -/
lemma readMembers_false_eq_ok (hmember : Reads member one) {fuel : ℕ}
    (h : readMembers member fuel false st s = .ok (st', r)) :
    ∃ s' ms r', s = s' ++ r ∧ r = closeObject :: r' ∧ Steps one st ms st'
      ∧ ∀ {name l b v}, Label name l → Blanks b → Written .value v →
        Members ((name, v) :: ms) (l ++ (b ++ (v ++ s'))) := by
  induction fuel generalizing st s with
  | zero => cases h
  | succ fuel ih =>
      rw [readMembers] at h
      split at h
      · cases h
      · next hn =>
        cases h
        obtain ⟨b', r', rfl, hb', rfl⟩ := nextName_eq_none hn
        exact ⟨b', [], r', rfl, rfl, .nil, fun hl hb hv => .last hl hb hv hb'⟩
      · next name t hn =>
        cases hm : member st name t with
        | error f => simp [hm] at h
        | ok p =>
            obtain ⟨st₁, u⟩ := p
            simp only [hm] at h
            obtain ⟨b', t', rfl, hb', hn⟩ := nextName_eq_some_comma hn
            obtain ⟨l, b, v, rfl, hl, hb, hv, hone⟩ := exists_label hmember hn hm
            obtain ⟨s', ms, r', rfl, rfl, hsteps, hmembers⟩ := ih h
            refine ⟨b' ++ comma :: (l ++ (b ++ (v ++ s'))), (name, v) :: ms, r', by simp, rfl,
              .cons hone hsteps, fun hl₀ hb₀ hv₀ => ?_⟩
            exact .more hl₀ hb₀ hv₀ hb' (hmembers hl hb hv)

/-- **Where all members are read, they stand** before the closing brace. -/
theorem readMembers_eq_ok (hmember : Reads member one) {fuel : ℕ}
    (h : readMembers member fuel true st s = .ok (st', r)) :
    ∃ s' ms r', s = s' ++ r ∧ r = closeObject :: r' ∧ Steps one st ms st'
      ∧ (ms = [] ∧ Blanks s' ∨ Members ms s') := by
  cases fuel with
  | zero => cases h
  | succ fuel =>
      rw [readMembers] at h
      split at h
      · cases h
      · next hn =>
        cases h
        obtain ⟨b', r', rfl, hb', rfl⟩ := nextName_eq_none hn
        exact ⟨b', [], r', rfl, rfl, .nil, .inl ⟨rfl, hb'⟩⟩
      · next name t hn =>
        cases hm : member st name t with
        | error f => simp [hm] at h
        | ok p =>
            obtain ⟨st₁, u⟩ := p
            simp only [hm] at h
            obtain ⟨l, b, v, rfl, hl, hb, hv, hone⟩ := exists_label hmember hn hm
            obtain ⟨s', ms, r', rfl, rfl, hsteps, hmembers⟩ := readMembers_false_eq_ok hmember h
            exact ⟨l ++ (b ++ (v ++ s')), (name, v) :: ms, r', by simp, rfl, .cons hone hsteps,
              .inr (hmembers hl hb hv)⟩

variable {α : Type} {finish : σ → Except Cause α} {a : α}

/-- **Where an object is read, its members stand** before its closing brace. -/
theorem readObject_eq_ok (hmember : Reads member one)
    (h : readObject member st finish s = .ok (a, r)) :
    ∃ s' ms st', s = s' ++ closeObject :: r ∧ (ms = [] ∧ Blanks s' ∨ Members ms s')
      ∧ Steps one st ms st' ∧ finish st' = .ok a := by
  unfold readObject at h
  cases hm : readMembers member (s.length + 1) true st s with
  | error f => simp [hm] at h
  | ok p =>
      obtain ⟨st', t⟩ := p
      cases hf : finish st' with
      | error c => simp [hm, hf] at h
      | ok a' =>
          obtain ⟨s', ms, r', rfl, rfl, hsteps, hmembers⟩ := readMembers_eq_ok hmember hm
          simp only [hm, hf, leaveObject_close, Except.ok.injEq, Prod.mk.injEq] at h
          obtain ⟨rfl, rfl⟩ := h
          exact ⟨s', ms, st', rfl, hmembers, hsteps, hf⟩

end Members

/-! ### Objects of texts -/

variable {document : List UInt8} {members seen seen' : List (String × String)}
  {ms : List (String × List UInt8)} {b v : List UInt8} {text : String}

/-- A member and the text that it is. -/
def IsEntry (m : String × List UInt8) (p : String × String) : Prop := m.1 = p.1 ∧ IsString m.2 p.2

/-- **A document that is an object of texts**, with its members in order, repeated names too. -/
def IsTextMap (document : List UInt8) (members : List (String × String)) : Prop :=
  ∃ ms, IsObject document ms ∧ List.Forall₂ IsEntry ms members

/-- One member more before those seen. -/
def takeText (seen : List (String × String)) (name : String) (s : List UInt8) :
    Reading (List (String × String)) :=
  (readField name false readString s).map fun p => ((name, p.1) :: seen, p.2)

/-- An object of texts is read by taking its members. -/
lemma readTextMap_of_skipBlank (h : skipBlank s = openObject :: t) :
    readTextMap s = readObject takeText [] (fun seen => .ok seen.reverse) t := by
  rw [readTextMap, h]
  rfl

/-- A member is taken with its text, whatever blanks there are. -/
lemma takeText_append {b' : List UInt8} (hv : IsString v text) (hb : Blanks b) (hb' : Blanks b')
    (r : List UInt8) :
    takeText seen name (b ++ colon :: (b' ++ (v ++ r))) = .ok ((name, text) :: seen, r) := by
  have hread : readString (b' ++ (v ++ r)) = readString (v ++ r) := readTextAs_blanks hb' _
  simp [takeText, readField, readColon_append hb, hread, readString_append hv, Except.map]

/-- A member that is taken has a text. -/
lemma reads_takeText : Reads takeText fun seen name v seen' =>
    ∃ text, IsString v text ∧ seen' = (name, text) :: seen := by
  intro seen name s seen' r h
  obtain ⟨⟨text, r'⟩, hread, hp⟩ := map_eq_ok_iff.mp h
  obtain ⟨rfl, rfl⟩ := Prod.mk.inj hp
  simp only [readField, Bool.false_eq_true, if_false] at hread
  cases hc : readColon s with
  | error f => simp [hc] at hread
  | ok t =>
      simp only [hc] at hread
      obtain ⟨b, rfl, hb⟩ := readColon_eq_ok hc
      obtain ⟨b', v, rfl, hb', hv⟩ := readString_eq_ok hread
      exact ⟨b, b', v, rfl, hb, hb', hv.written, text, hv, rfl⟩

/-- Members that are texts are taken one after the other, the last one first. -/
lemma takes_texts (h : List.Forall₂ IsEntry ms members) :
    Takes takeText seen ms (members.reverse ++ seen) := by
  induction h generalizing seen with
  | nil => exact .nil
  | @cons m p ms members hm _ ih =>
      obtain ⟨name, v⟩ := m
      obtain ⟨name', text⟩ := p
      obtain ⟨rfl, hv⟩ := hm
      refine .cons (fun b b' r hb hb' _ => takeText_append hv hb hb' r) ?_
      simpa using ih

/-- Members that are taken one after the other are texts. -/
lemma Steps.texts (h : Steps (fun seen name v seen' =>
    ∃ text, IsString v text ∧ seen' = (name, text) :: seen) seen ms seen') :
    ∃ members, List.Forall₂ IsEntry ms members ∧ seen' = members.reverse ++ seen := by
  induction h with
  | nil => exact ⟨[], .nil, rfl⟩
  | @cons seen₀ seen₁ seen₂ name v rest hone _ ih =>
      obtain ⟨text, hv, rfl⟩ := hone
      obtain ⟨members, hmembers, rfl⟩ := ih
      exact ⟨(name, text) :: members, .cons ⟨rfl, hv⟩ hmembers, by simp⟩

/-- **The documents that are read as an object of texts are those that are one**, and each is read
as its members. -/
theorem readDocument_textMap_iff :
    readDocument readTextMap document = .ok members ↔ IsTextMap document members := by
  constructor
  · intro h
    unfold readDocument at h
    cases hread : readTextMap document with
    | error f => simp [hread] at h
    | ok p =>
        obtain ⟨members', r⟩ := p
        simp only [hread] at h
        split at h
        · next hr =>
          obtain rfl : members' = members := Except.ok.inj h
          cases hs : skipBlank document with
          | nil => simp [readTextMap, hs] at hread
          | cons c t =>
              by_cases hc : c = openObject
              · subst hc
                rw [readTextMap_of_skipBlank hs] at hread
                -- the members were read one after the other, and nothing but blanks is left
                obtain ⟨s, ms, seen, rfl, hms, hsteps, hseen⟩ :=
                  readObject_eq_ok reads_takeText hread
                obtain ⟨members, htexts, rfl⟩ := hsteps.texts
                obtain ⟨b, rfl, hb⟩ := skipBlank_eq_cons hs
                obtain rfl : members = members' := by simpa using hseen
                exact ⟨ms, ⟨b, s, r, rfl, hb, skipBlank_eq_nil hr, hms⟩, htexts⟩
              · simp [readTextMap, hs, hc] at hread
        · cases h
  · rintro ⟨ms, ⟨b, s, b', rfl, hb, hb', hms⟩, htexts⟩
    have hopen : skipBlank (b ++ openObject :: (s ++ closeObject :: b'))
        = openObject :: (s ++ closeObject :: b') := by
      rw [skipBlank_append hb, skipBlank_cons (by decide)]
    have hread : readObject takeText [] (fun seen => .ok seen.reverse) (s ++ closeObject :: b')
        = .ok (members, b') :=
      readObject_append hms (takes_texts htexts) (by simp) b'
    rw [readDocument, readTextMap_of_skipBlank hopen, hread]
    dsimp only
    rw [skipBlank_of_blanks hb']

end Keyring.Json
