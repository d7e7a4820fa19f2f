import Mathlib.Tactic

/-!
Results that are values or errors: what a step comes to after another one.

* `bind_eq_ok_iff`, `map_eq_ok_iff`: there is a value in the end exactly if every step has one.
* `eq_ok_iff_toOption`: whether there is a value can be told without the errors.
* `mapM_eq_ok_iff`, `mapM_eq_error_iff`: steps for the members of a list, one after the other, have
  the values of all of them, or fail with the first one that fails.
-/

namespace Keyring

universe u v

variable {ε : Type u} {α β : Type v}

/-- A step goes on with the value of the step before it. -/
@[simp]
lemma ok_bind (x : α) (f : α → Except ε β) : (Except.ok x >>= f) = f x := rfl

/-- An error stays. -/
@[simp]
lemma error_bind (e : ε) (f : α → Except ε β) : (Except.error e >>= f) = .error e := rfl

/-- Two steps have a value exactly if the first has one that the second has one for. -/
lemma bind_eq_ok_iff {r : Except ε α} {f : α → Except ε β} {y : β} :
    (r >>= f) = .ok y ↔ ∃ x, r = .ok x ∧ f x = .ok y := by
  cases r with
  | error e => simp
  | ok x => simp

/-- A value is made of a value. -/
lemma map_eq_ok_iff {r : Except ε α} {f : α → β} {y : β} :
    r.map f = .ok y ↔ ∃ x, r = .ok x ∧ f x = y := by
  cases r with
  | error e => simp [Except.map]
  | ok x => simp [Except.map]

/-- A value is there with the errors as without them. -/
lemma eq_ok_iff_toOption {r : Except ε α} {x : α} : r = .ok x ↔ r.toOption = some x := by
  cases r with
  | error e => simp [Except.toOption]
  | ok y => simp [Except.toOption]

/-- Steps for the members of a list have values exactly if each of them has. -/
lemma mapM_eq_ok_iff {f : α → Except ε β} {l : List α} {ys : List β} :
    l.mapM f = .ok ys ↔ l.map f = ys.map Except.ok := by
  induction l generalizing ys with
  | nil => cases ys <;> simp [pure, Except.pure]
  | cons a l ih =>
      rw [List.mapM_cons, bind_eq_ok_iff]
      constructor
      · rintro ⟨y, hy, h⟩
        obtain ⟨ys', hys', hcons⟩ := bind_eq_ok_iff.mp h
        obtain rfl : y :: ys' = ys := Except.ok.inj hcons
        rw [List.map_cons, List.map_cons, hy, ih.mp hys']
      · intro h
        obtain ⟨y, ys', rfl, hy, hys'⟩ := List.map_eq_cons_iff.mp h.symm
        exact ⟨y, hy.symm, by rw [ih.mpr hys'.symm]; rfl⟩

/-- Steps for the members of a list, one after the other, fail with the first one that fails. -/
lemma mapM_eq_error_iff {f : α → Except ε β} {l : List α} {e : ε} :
    l.mapM f = .error e ↔ ∃ before x after, l = before ++ x :: after
      ∧ (∀ b ∈ before, ∃ y, f b = .ok y) ∧ f x = .error e := by
  induction l with
  | nil => simp [pure, Except.pure]
  | cons a l ih =>
      rw [List.mapM_cons]
      constructor
      · cases hf : f a with
        | error e' =>
            intro h
            obtain rfl : e' = e := by simpa using h
            exact ⟨[], a, l, rfl, by simp, hf⟩
        | ok y =>
            cases hl : l.mapM f with
            | ok ys => simp [pure, Except.pure]
            | error e' =>
                intro h
                obtain rfl : e' = e := by simpa [hl] using h
                obtain ⟨before, x, after, rfl, hbefore, hx⟩ := ih.mp hl
                refine ⟨a :: before, x, after, rfl, fun b hb => ?_, hx⟩
                rcases List.mem_cons.mp hb with rfl | hb
                · exact ⟨y, hf⟩
                · exact hbefore b hb
      · rintro ⟨before, x, after, hl, hbefore, hx⟩
        cases before with
        | nil =>
            obtain ⟨rfl, rfl⟩ := List.cons.inj hl
            rw [hx, error_bind]
        | cons b before =>
            obtain ⟨rfl, rfl⟩ := List.cons.inj hl
            obtain ⟨y, hy⟩ := hbefore a List.mem_cons_self
            have hrest := ih.mpr ⟨before, x, after, rfl,
              fun b hb => hbefore b (List.mem_cons_of_mem _ hb), hx⟩
            rw [hy, ok_bind, hrest, error_bind]

end Keyring
