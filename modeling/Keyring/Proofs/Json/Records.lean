import Mathlib.Tactic
import Keyring.Proofs.Json.Skipped

/-!
Where a record is read, an object or a list of its fields stands.

* `Elements`, `IsList`: a list with its elements, as `IsObject` is an object with its members.
* `Rest`: what may stand after an element, up to the bracket that closes the list.
* `Answers`: a reader of single values takes a value, after blanks, and answers with what it tells.
* `readElement_first`, `readElement_next`, `readElement_none`, `leaveList_eq_ok`: where elements are
  read one after the other, they stand with commas between them.
* `readRecord_eq_ok`, `readDocument_eq_ok`: what stands around a record and a document.
-/

namespace Keyring.Json

variable {b b' s t r v : List UInt8} {vs : List (List UInt8)} {first : Bool}

/-! ### Lists with their elements -/

/-- Elements, each as it is written. -/
inductive Elements : List (List UInt8) → List UInt8 → Prop where
  | last {b v b' : List UInt8} (hb : Blanks b) (hv : Written .value v) (hb' : Blanks b') :
      Elements [v] (b ++ (v ++ b'))
  | more {b v b' s : List UInt8} {rest : List (List UInt8)} (hb : Blanks b)
      (hv : Written .value v) (hb' : Blanks b') (h : Elements rest s) :
      Elements (v :: rest) (b ++ (v ++ (b' ++ comma :: s)))

/-- **A document that is a list** with these elements. -/
def IsList (document : List UInt8) (elements : List (List UInt8)) : Prop :=
  ∃ b s b', document = b ++ openList :: (s ++ closeList :: b') ∧ Blanks b ∧ Blanks b'
    ∧ (elements = [] ∧ Blanks s ∨ Elements elements s)

/-- What may stand after an element: blanks, or a comma and further elements. -/
inductive Rest : List (List UInt8) → List UInt8 → Prop where
  | nil {b : List UInt8} (hb : Blanks b) : Rest [] b
  | cons {b s : List UInt8} {vs : List (List UInt8)} (hb : Blanks b) (h : Elements vs s) :
      Rest vs (b ++ comma :: s)

/-- With what stands after it, an element is all elements. -/
lemma Rest.elements (h : Rest vs s) (hb : Blanks b) (hv : Written .value v) :
    Elements (v :: vs) (b ++ (v ++ s)) := by
  cases h with
  | nil hb' => exact .last hb hv hb'
  | cons hb' h => exact .more hb hv hb' h

/-! ### Elements that are read -/

section Elements

variable {α : Type} {read : List UInt8 → Reading α} {tells : List UInt8 → α → Prop} {a : α}

/-- **A reader of single values takes a value**, after blanks, and answers with what it tells. -/
def Answers (read : List UInt8 → Reading α) (tells : List UInt8 → α → Prop) : Prop :=
  ∀ ⦃s a r⦄, read s = .ok (a, r) →
    ∃ b v, s = b ++ (v ++ r) ∧ Blanks b ∧ Written .value v ∧ tells v a

/-- Where a first element is read, it stands. -/
lemma readElement_first (hread : Answers read tells)
    (h : readElement true read s = .ok (some a, r)) :
    ∃ b v, s = b ++ (v ++ r) ∧ Blanks b ∧ Written .value v ∧ tells v a := by
  unfold readElement nextElement at h
  cases hs : skipBlank s with
  | nil => simp [hs] at h
  | cons c t =>
      simp only [hs, if_true] at h
      split_ifs at h with hclose
      · simp at h
      · obtain ⟨⟨a', r'⟩, ha, hp⟩ := map_eq_ok_iff.mp h
        obtain ⟨rfl, rfl⟩ : a' = a ∧ r' = r := by simpa using hp
        obtain ⟨b, rfl, hb⟩ := skipBlank_eq_cons hs
        obtain ⟨d, v, hd, hblanks, hv, htells⟩ := hread ha
        exact ⟨b ++ d, v, by rw [hd, List.append_assoc], hb.append hblanks, hv, htells⟩

/-- Where a further element is read, it stands after a comma. -/
lemma readElement_next (hread : Answers read tells)
    (h : readElement false read s = .ok (some a, r)) :
    ∃ b b' v, s = b ++ comma :: (b' ++ (v ++ r)) ∧ Blanks b ∧ Blanks b' ∧ Written .value v
      ∧ tells v a := by
  unfold readElement nextElement at h
  cases hs : skipBlank s with
  | nil => simp [hs] at h
  | cons c t =>
      simp only [hs, Bool.false_eq_true, if_false] at h
      split_ifs at h with hclose hcomma
      · simp at h
      · cases ht : skipBlank t with
        | nil => simp [ht] at h
        | cons c' t' =>
            have hfirst : readElement true read t = .ok (some a, r) := by
              unfold readElement nextElement
              simp only [ht, if_true] at h ⊢
              split_ifs at h ⊢
              exact h
            obtain ⟨b, rfl, hb⟩ := skipBlank_eq_cons hs
            obtain ⟨b', v, rfl, hb', hv, htells⟩ := readElement_first hread hfirst
            exact ⟨b, b', v, by rw [hcomma], hb, hb', hv, htells⟩

/-- Where no further element is read, blanks stand. -/
lemma readElement_none (h : readElement first read s = .ok (none, r)) :
    ∃ b, s = b ++ r ∧ Blanks b := by
  have hclosed : nextElement first s = .ok (false, r) := by
    unfold readElement at h
    split at h
    · cases h
    · next hn =>
      cases h
      exact hn
    · obtain ⟨p, -, hp⟩ := map_eq_ok_iff.mp h
      cases hp
  unfold nextElement at hclosed
  cases hs : skipBlank s with
  | nil => simp [hs] at hclosed
  | cons c t =>
      obtain ⟨b, rfl, hb⟩ := skipBlank_eq_cons hs
      simp only [hs] at hclosed
      split_ifs at hclosed
      · cases hclosed
        exact ⟨b, rfl, hb⟩
      · cases hclosed
      · split at hclosed
        · cases hclosed
        · split_ifs at hclosed
          cases hclosed

/-- Where a list is left, its closing bracket stands. -/
lemma leaveList_eq_ok (h : leaveList s = .ok r) : ∃ b, s = b ++ closeList :: r ∧ Blanks b := by
  unfold leaveList at h
  split at h
  · cases h
  · next c t hs =>
    split_ifs at h with hclose
    cases h
    rw [hclose] at hs
    exact skipBlank_eq_cons hs

/-- Where a list is read, its elements are, and then its closing bracket. -/
lemma readList_eq_ok {elements : List UInt8 → Reading α} (h : readList elements s = .ok (a, r)) :
    ∃ t b, elements s = .ok (a, t) ∧ t = b ++ closeList :: r ∧ Blanks b := by
  unfold readList at h
  split at h
  · cases h
  · next a' t hread =>
    obtain ⟨r', hleave, hp⟩ := map_eq_ok_iff.mp h
    obtain ⟨rfl, rfl⟩ : a' = a ∧ r' = r := by simpa using hp
    obtain ⟨b, ht, hb⟩ := leaveList_eq_ok hleave
    exact ⟨t, b, hread, ht, hb⟩

end Elements

/-! ### Records and documents -/

section Records

variable {α : Type} {expected : String} {read ofObject ofList : List UInt8 → Reading α}
  {document : List UInt8} {a : α} {p : α × List UInt8}

/-- Where a record is read, an object is opened or a list. -/
lemma readRecord_eq_ok (h : readRecord expected ofObject ofList s = .ok p) :
    ∃ b t, Blanks b ∧ (s = b ++ openObject :: t ∧ ofObject t = .ok p
      ∨ s = b ++ openList :: t ∧ ofList t = .ok p) := by
  unfold readRecord at h
  split at h
  · cases h
  · next c t hs =>
    obtain ⟨b, rfl, hb⟩ := skipBlank_eq_cons hs
    split_ifs at h with hobject hlist
    · exact ⟨b, t, hb, .inl ⟨by rw [hobject], h⟩⟩
    · exact ⟨b, t, hb, .inr ⟨by rw [hlist], h⟩⟩

/-- Where a document is read, nothing but blanks stands after its value. -/
lemma readDocument_eq_ok (h : readDocument read document = .ok a) :
    ∃ r, read document = .ok (a, r) ∧ Blanks r := by
  unfold readDocument at h
  split at h
  · cases h
  · next a' r hread =>
    split at h
    · next hr =>
      cases h
      exact ⟨r, hread, skipBlank_eq_nil hr⟩
    · cases h

end Records

end Keyring.Json
