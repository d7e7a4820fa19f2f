import Mathlib.Data.List.TakeWhile
import Mathlib.Data.Nat.Digits.Defs
import Mathlib.Tactic
import Keyring.Decimal.Natural

/-!
Which texts are whole numbers of 64 bits, and what is wrong with the others.

* `value`: the number that digits stand for.
* `parseDigits_append`: digits are taken as long as the number stays below 2^64.
* `Reads`: a text is digits after at most one plus sign, or it is not, in one of four ways.
* `parse64_eq_iff`: it is read so.
-/

namespace Keyring.Decimal

variable {c : Char} {cs ds sign rest : List Char} {m n : ℕ}

/-! ### Digits -/

/-- A digit. -/
def IsDigit (c : Char) : Prop := '0' ≤ c ∧ c ≤ '9'

instance (c : Char) : Decidable (IsDigit c) := inferInstanceAs (Decidable (_ ∧ _))

/-- The reader's test is the same. -/
lemma isDigit_iff : ('0' ≤ c && c ≤ '9') = true ↔ IsDigit c := by simp [IsDigit]

/-- The number that a digit stands for. -/
def digit (c : Char) : ℕ := c.toNat - '0'.toNat

/-- The number that digits stand for, the last one being worth the least. -/
def value (digits : List Char) : ℕ := Nat.ofDigits 10 (digits.map digit).reverse

@[simp] lemma value_nil : value [] = 0 := rfl

/-- A first digit is worth itself times a power of ten. -/
lemma value_cons (c : Char) (ds : List Char) :
    value (c :: ds) = digit c * 10 ^ ds.length + value ds := by
  rw [value, List.map_cons, List.reverse_cons, Nat.ofDigits_append, Nat.ofDigits_singleton,
    List.length_reverse, List.length_map, ← value]
  ring

/-- **Digits are taken as long as the number stays below 2^64.** -/
lemma parseDigits_append (hds : ∀ c ∈ ds, IsDigit c)
    (hlt : m * 10 ^ ds.length + value ds < UInt64.size) (rest : List Char) :
    parseDigits m (ds ++ rest) = parseDigits (m * 10 ^ ds.length + value ds) rest := by
  induction ds generalizing m with
  | nil => simp
  | cons c ds ih =>
      obtain ⟨hc, hds⟩ := List.forall_mem_cons.mp hds
      have hstep : (m * 10 + digit c) * 10 ^ ds.length + value ds
          = m * 10 ^ (c :: ds).length + value (c :: ds) := by
        rw [value_cons, List.length_cons]
        ring
      have hpow : 1 ≤ 10 ^ ds.length := Nat.one_le_pow _ _ (by norm_num)
      have hfits : m * 10 + digit c < UInt64.size := by
        calc m * 10 + digit c
            ≤ (m * 10 + digit c) * 10 ^ ds.length := Nat.le_mul_of_pos_right _ hpow
          _ ≤ (m * 10 + digit c) * 10 ^ ds.length + value ds := Nat.le_add_right _ _
          _ < UInt64.size := hstep ▸ hlt
      rw [List.cons_append, parseDigits, if_pos (isDigit_iff.mpr hc), ← hstep,
        ← ih hds (hstep ▸ hlt)]
      exact if_pos hfits

/-- Of digits whose number is too large, some come first for which it is not. -/
lemma exists_largest_fitting (hlt : value ds < UInt64.size)
    (hge : UInt64.size ≤ value (ds ++ rest)) :
    ∃ before c after, rest = before ++ c :: after ∧ value (ds ++ before) < UInt64.size
      ∧ UInt64.size ≤ value (ds ++ before ++ [c]) := by
  induction rest generalizing ds with
  | nil => simp at hge; omega
  | cons c rest ih =>
      by_cases hc : UInt64.size ≤ value (ds ++ [c])
      · exact ⟨[], c, rest, rfl, by simpa using hlt, by simpa using hc⟩
      · obtain ⟨before, c', after, rfl, hfits, hlarge⟩ :=
          @ih (ds ++ [c]) (not_le.mp hc) (by simpa using hge)
        exact ⟨c :: before, c', after, rfl, by simpa using hfits, by simpa using hlarge⟩

/-- Digits whose number is too large are refused, whatever follows them. -/
lemma parseDigits_tooLarge (hds : ∀ c ∈ ds, IsDigit c) (hge : UInt64.size ≤ value ds)
    (rest : List Char) : parseDigits 0 (ds ++ rest) = .error .tooLarge := by
  obtain ⟨before, c, after, rfl, hfits, hlarge⟩ :=
    @exists_largest_fitting [] ds (by decide) hge
  have hbefore : ∀ c ∈ before, IsDigit c := fun c hc => hds c (List.mem_append_left _ hc)
  have hc : IsDigit c := hds c (List.mem_append_right _ List.mem_cons_self)
  have hvalue : value (before ++ [c]) = value before * 10 + digit c := by
    simp [value, Nat.ofDigits_cons]
    ring
  have hlarge' : ¬ value before * 10 + digit c < UInt64.size := by
    simpa [hvalue] using hlarge
  rw [List.append_assoc, parseDigits_append hbefore (by simpa using hfits), List.cons_append,
    parseDigits, if_pos (isDigit_iff.mpr hc)]
  rw [Nat.zero_mul, Nat.zero_add]
  exact if_neg hlarge'

/-- A character that is no digit is refused. -/
lemma parseDigits_badDigit (hds : ∀ c ∈ ds, IsDigit c) (hlt : value ds < UInt64.size)
    (hc : ¬ IsDigit c) (rest : List Char) :
    parseDigits 0 (ds ++ c :: rest) = .error .badDigit := by
  rw [parseDigits_append hds (by simpa using hlt), parseDigits, if_neg (mt isDigit_iff.mp hc)]

/-! ### Numbers -/

/-- **Which texts are whole numbers of 64 bits**, and what is wrong with the others: what comes
first decides. -/
inductive Reads : List Char → Except NaturalFault ℕ → Prop where
  /-- Digits, after at most one plus sign, whose number is below 2^64. -/
  | number {sign ds : List Char} (hsign : sign = [] ∨ sign = ['+']) (hne : ds ≠ [])
      (hds : ∀ c ∈ ds, IsDigit c) (hlt : value ds < UInt64.size) :
      Reads (sign ++ ds) (.ok (value ds))
  /-- Nothing at all. -/
  | empty : Reads [] (.error .noDigits)
  /-- A plus sign alone. -/
  | alone : Reads ['+'] (.error .badDigit)
  /-- Digits, after at most one plus sign, whose number is too large. -/
  | tooLarge {sign ds rest : List Char} (hsign : sign = [] ∨ sign = ['+'])
      (hds : ∀ c ∈ ds, IsDigit c) (hge : UInt64.size ≤ value ds) :
      Reads (sign ++ (ds ++ rest)) (.error .tooLarge)
  /-- Digits, or none, after at most one plus sign, and then something else. -/
  | badDigit {sign ds rest : List Char} {c : Char} (hsign : sign = [] ∨ sign = ['+'])
      (hds : ∀ c ∈ ds, IsDigit c) (hlt : value ds < UInt64.size) (hc : ¬ IsDigit c)
      (hplus : sign = [] → ds = [] → c ≠ '+') :
      Reads (sign ++ (ds ++ c :: rest)) (.error .badDigit)

/-- Digits are those of a number, or too many, or something else follows them. -/
lemma digits_cases (cs : List Char) :
    (∀ c ∈ cs, IsDigit c) ∧ value cs < UInt64.size
      ∨ (∃ ds rest, cs = ds ++ rest ∧ (∀ c ∈ ds, IsDigit c) ∧ UInt64.size ≤ value ds)
      ∨ ∃ ds c rest, cs = ds ++ c :: rest ∧ (∀ c ∈ ds, IsDigit c) ∧ value ds < UInt64.size
        ∧ ¬ IsDigit c := by
  have hsplit := List.takeWhile_append_dropWhile (p := fun c => decide (IsDigit c)) (l := cs)
  have hds : ∀ c ∈ cs.takeWhile fun c => decide (IsDigit c), IsDigit c := fun c hc => by
    simpa using List.mem_takeWhile_imp hc
  by_cases hge : UInt64.size ≤ value (cs.takeWhile fun c => decide (IsDigit c))
  · exact .inr (.inl ⟨_, _, hsplit.symm, hds, hge⟩)
  · have hlt := not_le.mp hge
    cases hrest : cs.dropWhile fun c => decide (IsDigit c) with
    | nil =>
        rw [hrest, List.append_nil] at hsplit
        rw [hsplit] at hds hlt
        exact .inl ⟨hds, hlt⟩
    | cons c rest =>
        have hc : ¬ IsDigit c := by
          have hhead := List.head_dropWhile_not (fun c => decide (IsDigit c)) (l := cs)
            (by simp [hrest])
          simpa [hrest] using hhead
        rw [hrest] at hsplit
        exact .inr (.inr ⟨_, c, rest, hsplit.symm, hds, hlt, hc⟩)

/-- There is always one of these. -/
lemma exists_reads (cs : List Char) : ∃ r, Reads cs r := by
  -- what follows the sign
  have hafter : ∀ sign cs : List Char, sign = [] ∨ sign = ['+'] → cs ≠ [] →
      (sign = [] → cs.head? ≠ some '+') → ∃ r, Reads (sign ++ cs) r := by
    intro sign cs hsign hne hplus
    rcases digits_cases cs with ⟨hds, hlt⟩ | ⟨ds, rest, rfl, hds, hge⟩
      | ⟨ds, c, rest, rfl, hds, hlt, hc⟩
    · exact ⟨_, .number hsign hne hds hlt⟩
    · exact ⟨_, .tooLarge hsign hds hge⟩
    · refine ⟨_, .badDigit hsign hds hlt hc fun hnil hnone heq => hplus hnil ?_⟩
      rw [hnone, heq]
      rfl
  cases cs with
  | nil => exact ⟨_, .empty⟩
  | cons c rest =>
      by_cases hc : c = '+'
      · subst hc
        cases rest with
        | nil => exact ⟨_, .alone⟩
        | cons c rest => exact hafter ['+'] (c :: rest) (.inr rfl) (by simp) (by simp)
      · exact hafter [] (c :: rest) (.inl rfl) (by simp) fun _ => by simpa using hc

/-- A text that does not begin with a plus sign is read from its first character on. -/
lemma parse64_of_head (hne : cs ≠ []) (h : cs.head? ≠ some '+') :
    parse64 cs = parseDigits 0 cs := by
  unfold parse64
  split
  · exact absurd rfl hne
  · exact absurd rfl h
  · exact absurd rfl h
  · rfl

/-- A text that begins with a plus sign is read from its second character on. -/
lemma parse64_plus (hne : cs ≠ []) : parse64 ('+' :: cs) = parseDigits 0 cs := by
  cases cs with
  | nil => exact absurd rfl hne
  | cons c cs => rfl

/-- The sign is left out. -/
lemma parse64_sign (hsign : sign = [] ∨ sign = ['+']) (hne : cs ≠ [])
    (h : sign = [] → cs.head? ≠ some '+') : parse64 (sign ++ cs) = parseDigits 0 cs := by
  rcases hsign with rfl | rfl
  · exact parse64_of_head hne (h rfl)
  · exact parse64_plus hne

/-- Digits do not begin with a plus sign. -/
lemma head_ne_plus (hne : ds ≠ []) (hds : ∀ c ∈ ds, IsDigit c) :
    (ds ++ rest).head? ≠ some '+' := by
  obtain ⟨c, ds, rfl⟩ := List.exists_cons_of_ne_nil hne
  intro hplus
  obtain rfl : c = '+' := by simpa using hplus
  exact absurd (hds '+' List.mem_cons_self) (by decide)

/-- **A text is read as what it is.** -/
lemma Reads.parse64_eq {r : Except NaturalFault ℕ} (h : Reads cs r) : parse64 cs = r := by
  cases h with
  | @number sign ds hsign hne hds hlt =>
      have hhead := @head_ne_plus ds [] hne hds
      rw [List.append_nil] at hhead
      have hread := parseDigits_append (m := 0) hds (by simpa using hlt) []
      rw [List.append_nil] at hread
      rw [parse64_sign hsign hne fun _ => hhead, hread]
      simp [parseDigits]
  | empty => rfl
  | alone => rfl
  | @tooLarge sign ds rest hsign hds hge =>
      have hne : ds ≠ [] := by
        rintro rfl
        exact absurd hge (by decide)
      rw [parse64_sign hsign (by simp [hne]) fun _ => head_ne_plus hne hds,
        parseDigits_tooLarge hds hge]
  | @badDigit sign ds rest c hsign hds hlt hc hplus =>
      rw [parse64_sign hsign (by simp) fun hnil => ?_, parseDigits_badDigit hds hlt hc]
      by_cases hne : ds = []
      · simpa [hne] using hplus hnil hne
      · exact head_ne_plus hne hds

/-- **A text is a whole number of 64 bits, or not**, exactly as it is read. -/
theorem parse64_eq_iff {r : Except NaturalFault ℕ} : parse64 cs = r ↔ Reads cs r := by
  constructor
  · rintro rfl
    obtain ⟨r, hr⟩ := exists_reads cs
    rwa [hr.parse64_eq]
  · exact Reads.parse64_eq

end Keyring.Decimal
