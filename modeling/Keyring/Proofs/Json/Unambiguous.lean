import Mathlib.Tactic
import Keyring.Proofs.Json.Records

/-!
A document is an object or a list in one way only.

A value ends where it is passed over, a text where it is read. So of two ways to divide the same
octets the first parts agree, and then the rest.

* `value_inj`, `label_inj`: values and names that begin at one place end at one place.
* `IsObject.members_eq`, `IsList.elements_eq`: the members of an object and the elements of a list
  are determined, with their order and their names.
* `IsObject.not_isList`: no document is both.
-/

namespace Keyring.Json

variable {b b' s s' r r' l l' v v' document : List UInt8} {c c' : UInt8}
  {name name' text text' : String} {ms ms' : List (String × List UInt8)}
  {vs vs' : List (List UInt8)}

/-! ### Where parts end -/

/-- Blanks end at the first octet that is none. -/
lemma blanks_inj (hb : Blanks b) (hb' : Blanks b') (hc : isSpace c = false)
    (hc' : isSpace c' = false) (h : b ++ c :: r = b' ++ c' :: r') : c = c' ∧ r = r' := by
  have hskip := congrArg skipBlank h
  rw [skipBlank_append hb, skipBlank_append hb', skipBlank_cons hc, skipBlank_cons hc'] at hskip
  exact List.cons.inj hskip

/-- Values that begin at one place, after blanks, end at one place. -/
lemma value_inj (hb : Blanks b) (hb' : Blanks b') (hv : Written .value v) (hv' : Written .value v')
    (hr : Stops r) (hr' : Stops r') (h : b ++ (v ++ r) = b' ++ (v' ++ r')) : v = v' ∧ r = r' := by
  have hblank : ∀ {v : List UInt8}, Written .value v → ∀ r, skipBlank (v ++ r) = v ++ r := by
    intro v hv r
    obtain ⟨c, t, rfl, hspace, -⟩ := head_value hv
    rw [List.cons_append, skipBlank_cons hspace]
  have hvalues : v ++ r = v' ++ r' := by
    have hskip := congrArg skipBlank h
    rwa [skipBlank_append hb, skipBlank_append hb', hblank hv, hblank hv'] at hskip
  have hrest : r = r' := by
    have hskip := skipValue_append hv hr
    rw [hvalues, skipValue_append hv' hr'] at hskip
    exact (Except.ok.inj hskip).symm
  exact ⟨List.append_cancel_right (hvalues.trans (hrest ▸ rfl)), hrest⟩

/-- Names that begin at one place are the same, and end with one colon. -/
lemma label_inj (hl : Label name l) (hl' : Label name' l') (h : l ++ r = l' ++ r') :
    name = name' ∧ r = r' := by
  obtain ⟨b, v, d, rfl, hb, hv, hd⟩ := hl
  obtain ⟨b', v', d', rfl, hb', hv', hd'⟩ := hl'
  simp only [List.append_assoc, List.cons_append, List.nil_append] at h
  have hname := nextName_append hb hv (d ++ colon :: r)
  rw [h, nextName_append hb' hv'] at hname
  obtain ⟨hsome, hrest⟩ := Prod.mk.inj (Except.ok.inj hname)
  exact ⟨(Option.some.inj hsome).symm, (blanks_inj hd hd' (by decide) (by decide) hrest.symm).2⟩

lemma IsString.text_eq (h : IsString v text) (h' : IsString v text') : text = text' := by
  have hread := readString_append h []
  rw [readString_append h'] at hread
  exact (Prod.mk.inj (Except.ok.inj hread)).1.symm

/-! ### What stands between commas -/

/-- Values with commas between them, each after a lead that says what it is the value of. -/
inductive Row {κ : Type} (lead : κ → List UInt8 → Prop) :
    List (κ × List UInt8) → List UInt8 → Prop where
  | last {k : κ} {l b v b' : List UInt8} (hl : lead k l) (hb : Blanks b)
      (hv : Written .value v) (hb' : Blanks b') : Row lead [(k, v)] (l ++ (b ++ (v ++ b')))
  | more {k : κ} {l b v b' s : List UInt8} {rest : List (κ × List UInt8)} (hl : lead k l)
      (hb : Blanks b) (hv : Written .value v) (hb' : Blanks b') (h : Row lead rest s) :
      Row lead ((k, v) :: rest) (l ++ (b ++ (v ++ (b' ++ comma :: s))))

/-- Members are values with their names before them. -/
lemma Members.row (h : Members ms s) : Row Label ms s := by
  induction h with
  | last hl hb hv hb' => exact .last hl hb hv hb'
  | more hl hb hv hb' _ ih => exact .more hl hb hv hb' ih

/-- Nothing stands before an element. -/
def Bare (_ : Unit) (l : List UInt8) : Prop := l = []

/-- Elements are values with nothing before them. -/
lemma Elements.row (h : Elements vs s) : Row Bare (vs.map (Prod.mk ())) s := by
  have hbare : Bare () [] := rfl
  induction h with
  | last hb hv hb' => exact Row.last hbare hb hv hb'
  | more hb hv hb' _ ih => exact Row.more hbare hb hv hb' ih

/-- After blanks, the closing octet is no comma. -/
lemma close_ne_comma (hb : Blanks b) (hb' : Blanks b') (f : Frame) :
    b ++ f.close :: r ≠ b' ++ comma :: r' := by
  intro h
  have hclose := (blanks_inj hb hb' (by cases f <;> decide) (by decide) h).1
  cases f <;> exact absurd hclose (by decide)

/-- **Values between commas that begin at one place are the same**, up to the octet that closes the
list or the object, if what stands before each value is determined. -/
lemma row_inj {κ : Type} {lead : κ → List UInt8 → Prop} {ps ps' : List (κ × List UInt8)}
    (f : Frame)
    (hlead : ∀ {k k' l l' r r'}, lead k l → lead k' l' → l ++ r = l' ++ r' → k = k' ∧ r = r')
    (h : Row lead ps s) (h' : Row lead ps' s') (heq : s ++ f.close :: r = s' ++ f.close :: r') :
    ps = ps' := by
  have hstops : ∀ {b}, Blanks b → ∀ r, Stops (b ++ f.close :: r) :=
    fun hb r => stops_append hb (stops_close f r)
  have hcomma : ∀ {b}, Blanks b → ∀ t, Stops (b ++ comma :: t) :=
    fun hb t => stops_append hb (stops_comma t)
  induction h generalizing ps' s' with
  | last hl hb hv hb' =>
      cases h' with
      | last hl₂ hb₂ hv₂ hb₂' =>
          simp only [List.append_assoc] at heq
          obtain ⟨rfl, hvalue⟩ := hlead hl hl₂ heq
          obtain ⟨rfl, -⟩ := value_inj hb hb₂ hv hv₂ (hstops hb' r) (hstops hb₂' r') hvalue
          rfl
      | more hl₂ hb₂ hv₂ hb₂' h₂ =>
          -- the closing octet would have to be a comma
          simp only [List.append_assoc, List.cons_append] at heq
          obtain ⟨-, hvalue⟩ := hlead hl hl₂ heq
          obtain ⟨-, hrest⟩ := value_inj hb hb₂ hv hv₂ (hstops hb' r) (hcomma hb₂' _) hvalue
          exact absurd hrest (close_ne_comma hb' hb₂' f)
  | more hl hb hv hb' h ih =>
      cases h' with
      | last hl₂ hb₂ hv₂ hb₂' =>
          simp only [List.append_assoc, List.cons_append] at heq
          obtain ⟨-, hvalue⟩ := hlead hl hl₂ heq
          obtain ⟨-, hrest⟩ := value_inj hb hb₂ hv hv₂ (hcomma hb' _) (hstops hb₂' r') hvalue
          exact absurd hrest.symm (close_ne_comma hb₂' hb' f)
      | more hl₂ hb₂ hv₂ hb₂' h₂ =>
          simp only [List.append_assoc, List.cons_append] at heq
          obtain ⟨rfl, hvalue⟩ := hlead hl hl₂ heq
          obtain ⟨rfl, hrest⟩ := value_inj hb hb₂ hv hv₂ (hcomma hb' _) (hcomma hb₂' _) hvalue
          obtain ⟨-, hlater⟩ := blanks_inj hb' hb₂' (by decide) (by decide) hrest
          rw [ih h₂ hlater]

/-! ### Objects -/

/-- **Members that begin at one place are the same**, up to the brace that closes the object. -/
lemma members_inj (h : Members ms s) (h' : Members ms' s')
    (heq : s ++ closeObject :: r = s' ++ closeObject :: r') : ms = ms' :=
  row_inj .object label_inj h.row h'.row heq

/-- Where members stand, the object is not closed at once. -/
lemma members_ne_blanks (h : Members ms s) (hb : Blanks b) :
    s ++ closeObject :: r ≠ b ++ closeObject :: r' := by
  intro heq
  obtain ⟨t, ht⟩ := skipBlank_members h (closeObject :: r)
  rw [heq, skipBlank_append hb, skipBlank_cons (by decide)] at ht
  exact absurd (List.cons.inj ht).1 (by decide)

/-- **A document is an object in one way only.** -/
theorem IsObject.members_eq (h : IsObject document ms) (h' : IsObject document ms') :
    ms = ms' := by
  obtain ⟨b, s, d, rfl, hb, -, hs⟩ := h
  obtain ⟨b', s', d', heq, hb', -, hs'⟩ := h'
  have hinside := (blanks_inj hb hb' (by decide) (by decide) heq).2
  rcases hs with ⟨rfl, hblanks⟩ | hs <;> rcases hs' with ⟨rfl, hblanks'⟩ | hs'
  · rfl
  · exact absurd hinside.symm (members_ne_blanks hs' hblanks)
  · exact absurd hinside (members_ne_blanks hs hblanks')
  · exact members_inj hs hs' hinside

/-! ### Lists -/

/-- **Elements that begin at one place are the same**, up to the bracket that closes the list. -/
lemma elements_inj (h : Elements vs s) (h' : Elements vs' s')
    (heq : s ++ closeList :: r = s' ++ closeList :: r') : vs = vs' := by
  have hbare : ∀ {k k' : Unit} {l l' r r' : List UInt8}, Bare k l → Bare k' l' →
      l ++ r = l' ++ r' → k = k' ∧ r = r' := by
    rintro ⟨⟩ ⟨⟩ l l' r r' rfl rfl h
    exact ⟨rfl, h⟩
  exact List.map_injective_iff.mpr (Prod.mk_right_injective ())
    (row_inj .list hbare h.row h'.row heq)

/-- Where elements stand, the list is not closed at once. -/
lemma elements_ne_blanks (h : Elements vs s) (hb : Blanks b) :
    s ++ closeList :: r ≠ b ++ closeList :: r' := by
  have hfirst : ∀ {d v t : List UInt8}, Blanks d → Written .value v →
      d ++ (v ++ t) ≠ b ++ closeList :: r' := by
    intro d v t hd hv heq
    obtain ⟨c, u, rfl, hspace, hclose⟩ := head_value hv
    exact hclose (blanks_inj hd hb hspace (by decide) heq).1
  cases h with
  | last hd hv => simpa only [List.append_assoc] using hfirst hd hv
  | more hd hv => simpa only [List.append_assoc] using hfirst hd hv

/-- **A document is a list in one way only.** -/
theorem IsList.elements_eq (h : IsList document vs) (h' : IsList document vs') : vs = vs' := by
  obtain ⟨b, s, d, rfl, hb, -, hs⟩ := h
  obtain ⟨b', s', d', heq, hb', -, hs'⟩ := h'
  have hinside := (blanks_inj hb hb' (by decide) (by decide) heq).2
  rcases hs with ⟨rfl, hblanks⟩ | hs <;> rcases hs' with ⟨rfl, hblanks'⟩ | hs'
  · rfl
  · exact absurd hinside.symm (elements_ne_blanks hs' hblanks)
  · exact absurd hinside (elements_ne_blanks hs hblanks')
  · exact elements_inj hs hs' hinside

/-- An object is no list. -/
theorem IsObject.not_isList (h : IsObject document ms) : ¬ IsList document vs := by
  obtain ⟨b, s, d, rfl, hb, -⟩ := h
  rintro ⟨b', s', d', heq, hb', -⟩
  exact absurd (blanks_inj hb hb' (by decide) (by decide) heq).1 (by decide)

end Keyring.Json
