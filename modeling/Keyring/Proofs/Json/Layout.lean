import Mathlib.Tactic
import Keyring.Proofs.Json.Records

/-!
Objects of which certain members matter.

A reader of single members keeps what the members that matter tell, each in its place, and takes
none of them twice. So it makes the same of them in any order, and whatever else stands beside them.

* `Layout`: the members that matter to a reader, with their names and their places.
* `Layout.Admits`: a member can be read: it matters and tells something, or it is passed over.
* `Layout.Gathers`: what is read from members; `Layout.exists_gathers`: they are read if they can be
  and none that matters is repeated.
* `Layout.Adds`: what one member puts to what has been read before it.
* `Layout.Fate`: what becomes of a member that matters, if all members are read; it is read once or
  not at all.
* `IsTextOrNull`: the value of a member that is a text or `null`.
-/

namespace Keyring.Json

variable {σ : Type} {member : σ → String → List UInt8 → Reading σ}

/-- **The members of an object that matter** to a reader of single members. -/
structure Layout (member : σ → String → List UInt8 → Reading σ) where
  /-- the members that matter -/
  Field : Type
  /-- what one of them can tell -/
  Value : Field → Type
  /-- the name of one -/
  name : Field → String
  /-- what has been read of it -/
  part : (f : Field) → σ → Option (Value f)
  /-- what has been read, and this of one -/
  put : (f : Field) → σ → Value f → σ
  /-- how its value is read -/
  read : (f : Field) → List UInt8 → Reading (Value f)
  /-- what its value tells -/
  Tells : (f : Field) → List UInt8 → Value f → Prop
  name_injective : name.Injective
  part_put : ∀ {f : Field} {st : σ} {a : Value f}, part f (put f st a) = some a
  part_put_of_ne : ∀ {f g : Field} {st : σ} {a : Value f}, g ≠ f → part g (put f st a) = part g st
  /-- A member that matters is read if none of its name has been read before. -/
  member_name : ∀ (f : Field) (st : σ) (s : List UInt8), member st (name f) s
    = (readField (name f) (part f st).isSome (read f) s).map fun p => (put f st p.1, p.2)
  /-- A value is read as what it tells. -/
  read_append : ∀ {f : Field} {v b r : List UInt8} {a : Value f}, Tells f v a → Blanks b →
    Stops r → read f (b ++ (v ++ r)) = .ok (a, r)

/-- The values of the members of an object are written properly. -/
lemma IsObject.written {document v : List UInt8} {name : String} {ms : List (String × List UInt8)}
    (h : IsObject document ms) (hv : (name, v) ∈ ms) : Written .value v := by
  obtain ⟨-, s, -, -, -, -, ⟨rfl, -⟩ | hs⟩ := h
  · exact absurd hv List.not_mem_nil
  · exact written_of_mem hs hv

/-- A member that is not repeated has one value. -/
lemma member_value_eq {name : String} {v w : List UInt8} {ms : List (String × List UInt8)}
    (honce : (ms.map Prod.fst).count name ≤ 1) (hv : (name, v) ∈ ms) (hw : (name, w) ∈ ms) :
    v = w := by
  induction ms with
  | nil => exact absurd hv List.not_mem_nil
  | cons m ms ih =>
      have hnot : ∀ {u}, (name, u) ∈ ms → m.1 ≠ name := by
        rintro u hu rfl
        have hmem : m.1 ∈ ms.map Prod.fst := List.mem_map.mpr ⟨_, hu, rfl⟩
        rw [List.map_cons, List.count_cons_self] at honce
        have hpos := List.count_pos_iff.mpr hmem
        omega
      rcases List.mem_cons.mp hv with hv | hv <;> rcases List.mem_cons.mp hw with hw | hw
      · exact (Prod.mk.inj (hv.trans hw.symm)).2
      · exact absurd (congrArg Prod.fst hv).symm (hnot hw)
      · exact absurd (congrArg Prod.fst hw).symm (hnot hv)
      · exact ih (List.count_le_count_cons.trans honce) hv hw

/-- A member of this name is passed over. -/
def Passes (member : σ → String → List UInt8 → Reading σ) (name : String) : Prop :=
  ∀ st s, member st name s = (skipMember s).map fun r => (st, r)

namespace Layout

variable (L : Layout member) {name : String} {b s r v : List UInt8} {st st' st₁ : σ}
  {ms : List (String × List UInt8)} {f g : L.Field} {a : L.Value f}

/-- A value tells one thing only. -/
lemma tells_eq {a' : L.Value f} (h : L.Tells f v a) (h' : L.Tells f v a') : a = a' := by
  have hblanks : Blanks [] := fun b hb => absurd hb List.not_mem_nil
  have hstops : Stops [] := fun b hb => by cases hb
  have hread := L.read_append h hblanks hstops
  rw [L.read_append h' hblanks hstops] at hread
  exact (Prod.mk.inj (Except.ok.inj hread)).1.symm

/-! ### Members that can be read -/

/-- **A member can be read**: it matters and its value tells something, or it is passed over. -/
inductive Admits : String → List UInt8 → Prop where
  | field {f : L.Field} {v : List UInt8} {a : L.Value f} (ha : L.Tells f v a) : Admits (L.name f) v
  | other {name : String} {v : List UInt8} (hother : ∀ f, name ≠ L.name f)
      (hpasses : Passes member name) (hv : Written .value v) : Admits name v

variable {L} in
/-- A member can be read if the others are passed over and those that matter tell something. -/
lemma admits (hpasses : ∀ {name}, (∀ f, name ≠ L.name f) → Passes member name)
    (hv : Written .value v) (htells : ∀ f, name = L.name f → ∃ a, L.Tells f v a) :
    L.Admits name v := by
  by_cases hfield : ∃ f, name = L.name f
  · obtain ⟨f, rfl⟩ := hfield
    obtain ⟨a, ha⟩ := htells f rfl
    exact .field ha
  · have hother : ∀ f, name ≠ L.name f := fun f hf => hfield ⟨f, hf⟩
    exact .other hother (hpasses hother) hv

/-- From members and what was read before them this is read: for each member that matters what its
value tells, and what there was for those that are not among the members. -/
structure Gathers (st : σ) (ms : List (String × List UInt8)) (st' : σ) : Prop where
  takes : Takes member st ms st'
  told : ∀ {f : L.Field} {v : List UInt8} {a : L.Value f},
    (L.name f, v) ∈ ms → L.Tells f v a → L.part f st' = some a
  rest : ∀ f : L.Field, L.name f ∉ ms.map Prod.fst → L.part f st' = L.part f st

variable {L}

namespace Gathers

lemma nil : L.Gathers st [] st := ⟨.nil, fun h => absurd h List.not_mem_nil, fun _ _ => rfl⟩

/-- A member that matters is put to what was read, if it was not there and does not come again. -/
lemma field (hnone : L.part f st = none) (ha : L.Tells f v a) (hnot : L.name f ∉ ms.map Prod.fst)
    (h : L.Gathers (L.put f st a) ms st') : L.Gathers st ((L.name f, v) :: ms) st' := by
  refine ⟨.cons (fun b b' r hb hb' hr => ?_) h.takes, fun {g w a'} hw htells => ?_, fun g hg => ?_⟩
  · rw [L.member_name, hnone, readField, if_neg (by simp), readColon_append hb]
    dsimp only
    rw [L.read_append ha hb' hr]
    rfl
  · rcases List.mem_cons.mp hw with heq | hw
    · obtain ⟨hname, rfl⟩ := Prod.mk.inj heq
      obtain rfl := L.name_injective hname
      rw [h.rest g hnot, L.part_put, L.tells_eq ha htells]
    · exact h.told hw htells
  · have hgf : g ≠ f := by
      rintro rfl
      exact hg List.mem_cons_self
    rw [h.rest g fun hmem => hg (List.mem_cons_of_mem _ hmem), L.part_put_of_ne hgf]

/-- Another member changes nothing. -/
lemma other (hother : ∀ f, name ≠ L.name f) (hpasses : Passes member name)
    (hv : Written .value v) (h : L.Gathers st ms st') : L.Gathers st ((name, v) :: ms) st' := by
  refine ⟨.cons (fun b b' r hb hb' hr => ?_) h.takes, fun {f w a} hw htells => ?_,
    fun f hf => h.rest f fun hmem => hf (List.mem_cons_of_mem _ hmem)⟩
  · rw [hpasses, skipMember_append hb hb' hv hr]
    rfl
  · rcases List.mem_cons.mp hw with heq | hw
    · exact absurd (Prod.mk.inj heq).1.symm (hother f)
    · exact h.told hw htells

end Gathers

/-- **Members are read** if they can be, and none of those that matter is repeated. -/
theorem exists_gathers (ms : List (String × List UInt8)) (st : σ)
    (hadmits : ∀ {name v}, (name, v) ∈ ms → L.Admits name v)
    (honce : ∀ f, (ms.map Prod.fst).count (L.name f) ≤ 1)
    (hfree : ∀ f, L.name f ∈ ms.map Prod.fst → L.part f st = none) :
    ∃ st', L.Gathers st ms st' := by
  induction ms generalizing st with
  | nil => exact ⟨st, .nil⟩
  | cons m ms ih =>
      obtain ⟨name, v⟩ := m
      have hlater : ∀ st, (∀ f, L.name f ∈ ms.map Prod.fst → L.part f st = none) →
          ∃ st', L.Gathers st ms st' := fun st =>
        ih st (fun h => hadmits (List.mem_cons_of_mem _ h))
          fun f => List.count_le_count_cons.trans (honce f)
      cases hadmits (List.mem_cons_self : (name, v) ∈ (name, v) :: ms) with
      | @field f _ a ha =>
          have hnot : L.name f ∉ ms.map Prod.fst := by
            have hf := honce f
            rw [List.map_cons, List.count_cons_self] at hf
            exact List.count_eq_zero.mp (by omega)
          have hput : ∀ g, L.name g ∈ ms.map Prod.fst → L.part g (L.put f st a) = none := by
            intro g hg
            have hgf : g ≠ f := by
              rintro rfl
              exact hnot hg
            rw [L.part_put_of_ne hgf]
            exact hfree g (List.mem_cons_of_mem _ hg)
          obtain ⟨st', h⟩ := hlater (L.put f st a) hput
          exact ⟨st', .field (hfree f List.mem_cons_self) ha hnot h⟩
      | other hother hpasses hv =>
          obtain ⟨st', h⟩ := hlater st fun f hf => hfree f (List.mem_cons_of_mem _ hf)
          exact ⟨st', .other hother hpasses hv h⟩

/-! ### Members that have been read -/

variable (L) in
/-- **What one member puts to what has been read**: one that matters is not there yet and tells
something, and the others change nothing. -/
inductive Adds (st : σ) : String → List UInt8 → σ → Prop where
  | field {f : L.Field} {v : List UInt8} {a : L.Value f} (hfree : L.part f st = none)
      (ha : L.Tells f v a) : Adds st (L.name f) v (L.put f st a)
  | other {name : String} {v : List UInt8} (hother : ∀ f, name ≠ L.name f) : Adds st name v st

/-- Where a member is read, it stands, and puts this to what was read. -/
lemma reads_member (hanswers : ∀ f, Answers (L.read f) (L.Tells f))
    (hpasses : ∀ {name}, (∀ f, name ≠ L.name f) → Passes member name) :
    Reads member L.Adds := by
  intro st name s st' r h
  by_cases hfield : ∃ f, name = L.name f
  · obtain ⟨f, rfl⟩ := hfield
    rw [L.member_name] at h
    obtain ⟨⟨a, r'⟩, hread, hp⟩ := map_eq_ok_iff.mp h
    cases hp
    unfold readField at hread
    split_ifs at hread with hseen
    split at hread
    · cases hread
    · next t hcolon =>
      obtain ⟨b, rfl, hb⟩ := readColon_eq_ok hcolon
      obtain ⟨b', v, rfl, hb', hv, htells⟩ := hanswers f hread
      exact ⟨b, b', v, rfl, hb, hb', hv, .field (by simpa using hseen) htells⟩
  · have hother : ∀ f, name ≠ L.name f := fun f hf => hfield ⟨f, hf⟩
    rw [hpasses hother] at h
    obtain ⟨r', hskip, hp⟩ := map_eq_ok_iff.mp h
    cases hp
    obtain ⟨b, b', v, rfl, hb, hb', hv⟩ := skipMember_eq_ok hskip
    exact ⟨b, b', v, rfl, hb, hb', hv, .other hother⟩

variable (L) in
/-- **What becomes of a member that matters** if members are read: it is not among them and stays as
it was, or it is among them once, was not there before and tells what has been read of it. -/
inductive Fate (f : L.Field) (st : σ) (ms : List (String × List UInt8)) (st' : σ) : Prop where
  | absent (hnot : L.name f ∉ ms.map Prod.fst) (hpart : L.part f st' = L.part f st)
  | once {v : List UInt8} {a : L.Value f} (hfree : L.part f st = none) (hv : (L.name f, v) ∈ ms)
      (hcount : (ms.map Prod.fst).count (L.name f) = 1) (ha : L.Tells f v a)
      (hpart : L.part f st' = some a)

/-- A member of another name makes no difference. -/
lemma Fate.cons_of_ne (h : L.Fate f st₁ ms st') (hname : name ≠ L.name f)
    (hpart : L.part f st₁ = L.part f st) : L.Fate f st ((name, v) :: ms) st' := by
  cases h with
  | absent hnot hp => exact .absent (by simpa [hname.symm] using hnot) (hp.trans hpart)
  | once hfree hv hcount ha hp =>
      exact .once (hpart ▸ hfree) (List.mem_cons_of_mem _ hv) (by simpa [hname] using hcount) ha hp

/-- **A member that matters is read once or not at all.** -/
lemma fate_of_steps (h : Steps L.Adds st ms st') (f : L.Field) : L.Fate f st ms st' := by
  induction h with
  | nil => exact .absent List.not_mem_nil rfl
  | cons hone _ ih =>
      cases hone with
      | other hother => exact ih.cons_of_ne (hother f) rfl
      | @field g v a hfree ha =>
          by_cases hgf : g = f
          · subst hgf
            cases ih with
            | absent hnot hpart =>
                refine .once hfree List.mem_cons_self ?_ ha (hpart.trans L.part_put)
                rw [List.map_cons, List.count_cons_self, List.count_eq_zero.mpr hnot]
            | once hfree' => simp [L.part_put] at hfree'
          · exact ih.cons_of_ne (fun hname => hgf (L.name_injective hname))
              (L.part_put_of_ne (Ne.symm hgf))

/-- A member that matters is not among those that are read more than once. -/
lemma Fate.count_le (h : L.Fate f st ms st') : (ms.map Prod.fst).count (L.name f) ≤ 1 := by
  cases h with
  | absent hnot => rw [List.count_eq_zero.mpr hnot]; exact Nat.zero_le 1
  | once hfree hv hcount => exact hcount.le

end Layout

/-! ### Texts that may be missing -/

/-- What the value of a member tells that is a text or `null`. -/
def IsTextOrNull (v : List UInt8) : Option String → Prop
  | some text => IsString v text
  | none => v = ascii "null"

section Texts

variable {v b r : List UInt8} {a : Option String}

/-- A text or `null` is a value. -/
lemma IsTextOrNull.written (h : IsTextOrNull v a) : Written .value v := by
  cases a with
  | none =>
      obtain rfl : v = ascii "null" := h
      exact .null
  | some text => exact IsString.written h

lemma IsTextOrNull.null_or_string (h : IsTextOrNull v a) :
    v = ascii "null" ∨ ∃ text, IsString v text := by
  cases a with
  | none => exact .inl h
  | some text => exact .inr ⟨text, h⟩

/-- A text or `null` is read as what it tells. -/
lemma readOptional_append (h : IsTextOrNull v a) (hb : Blanks b) (r : List UInt8) :
    readOptional readString (b ++ (v ++ r)) = .ok (a, r) := by
  cases a with
  | some text => exact readOptional_string hb h r
  | none =>
      obtain rfl : v = ascii "null" := h
      exact readOptional_null readString hb r

/-- Where a text or `null` is read, it stands. -/
lemma answers_readOptional : Answers (readOptional readString) IsTextOrNull := by
  intro s a r h
  unfold readOptional at h
  split at h
  · cases h
  · next c t hs =>
    obtain ⟨b, rfl, hb⟩ := skipBlank_eq_cons hs
    split_ifs at h with hnull
    · obtain ⟨r', hliteral, hp⟩ := map_eq_ok_iff.mp h
      cases hp
      refine ⟨b, ascii "null", ?_, hb, .null, rfl⟩
      rw [hnull, readLiteral_eq_ok hliteral]
      rfl
    · obtain ⟨⟨text, r'⟩, hread, hp⟩ := map_eq_ok_iff.mp h
      cases hp
      obtain ⟨b', v, hv, hb', hstring⟩ := readString_eq_ok hread
      exact ⟨b ++ b', v, by rw [hv, List.append_assoc], hb.append hb', hstring.written, hstring⟩

lemma answers_readString : Answers readString IsString := by
  intro s text r h
  obtain ⟨b, v, rfl, hb, hstring⟩ := readString_eq_ok h
  exact ⟨b, v, rfl, hb, hstring.written, hstring⟩

end Texts

end Keyring.Json
