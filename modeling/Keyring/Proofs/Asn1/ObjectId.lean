import Mathlib.Tactic
import Keyring.Asn1.ObjectId

/-!
Object identifiers are told by their numbers, which can be read off the text that they are written
as.

* `arcs`: the numbers of an identifier.
* `IsShortest`, `arcs_inj`: identifiers as short as can be are told by their numbers.
* `dotted_inj`: numbers with points between them are told by the text.
* `arcs_of_render_eq`: so an identifier that is written like that of RSA has its numbers.
-/

namespace Keyring.Asn1.ObjectId

variable {s : List UInt8} {ns ms : List ℕ}

/-- **The numbers of an identifier**: two in the first octet, and one in each group after it. Of a
group that has not ended 64 bits are taken. -/
def arcs : List UInt8 → List ℕ
  | [] => []
  | b :: r =>
    b.toNat / 40 :: b.toNat % 40 :: (groups r).map groupValue
      ++ if (unended r).isEmpty then [] else [groupValue (unended r) % UInt64.size]

/-! ### Groups as short as can be -/

variable {g g' r : List UInt8}

lemma groupValue_append_singleton (g : List UInt8) (b : UInt8) :
    groupValue (g ++ [b]) = groupValue g * 128 + b.toNat % 128 := by
  simp [groupValue]

/-- The beginning of a group: octets from 128 on, the first of which counts. -/
structure Begins (g : List UInt8) : Prop where
  large : ∀ b ∈ g, 0x80 ≤ b.toNat
  head : g.head? ≠ some 0x80

lemma Begins.left {b : UInt8} (h : Begins (g ++ [b])) : Begins g := by
  refine ⟨fun c hc => h.large c (List.mem_append_left _ hc), ?_⟩
  intro hhead
  apply h.head
  rw [List.head?_append, hhead]
  rfl

/-- The beginning of a group is worth more than zero. -/
lemma Begins.groupValue_pos (h : Begins g) (hne : g ≠ []) : 0 < groupValue g := by
  induction g using List.reverseRecOn with
  | nil => exact absurd rfl hne
  | append_singleton g b ih =>
      rw [groupValue_append_singleton]
      by_cases hg : g = []
      · have hlarge := h.large b (by simp)
        have hsmall := b.toNat_lt
        have hne : b.toNat ≠ 0x80 := by
          intro heq
          obtain rfl : b = 0x80 := UInt8.toNat_inj.mp heq
          exact h.head (by rw [hg, List.nil_append, List.head?_singleton])
        omega
      · have hpos := ih h.left hg
        omega

/-- Beginnings are told by what they are worth. -/
lemma Begins.eq_of_groupValue_eq (h : Begins g) (h' : Begins g')
    (heq : groupValue g = groupValue g') : g = g' := by
  induction g using List.reverseRecOn generalizing g' with
  | nil =>
      by_contra hne
      have hpos := h'.groupValue_pos (Ne.symm hne)
      rw [← heq] at hpos
      exact absurd hpos (by decide)
  | append_singleton g b ih =>
      obtain rfl | ⟨g', c, rfl⟩ := List.eq_nil_or_concat' g'
      · have hpos := h.groupValue_pos (by simp)
        rw [heq] at hpos
        exact absurd hpos (by decide)
      · rw [groupValue_append_singleton, groupValue_append_singleton] at heq
        have hb := h.large b (by simp)
        have hc := h'.large c (by simp)
        have hb' := b.toNat_lt
        have hc' := c.toNat_lt
        have hbc : b.toNat = c.toNat := by omega
        rw [ih h.left h'.left (by omega), UInt8.toNat_inj.mp hbc]

/-- A group as short as can be. -/
inductive IsGroup : List UInt8 → Prop where
  | ended {g : List UInt8} {b : UInt8} (hg : Begins g) (hb : b.toNat < 0x80) : IsGroup (g ++ [b])

/-- Groups are told by their numbers. -/
lemma IsGroup.eq_of_groupValue_eq (h : IsGroup g) (h' : IsGroup g')
    (heq : groupValue g = groupValue g') : g = g' := by
  obtain @⟨g, b, h, hb⟩ := h
  obtain @⟨g', c, h', hc⟩ := h'
  rw [groupValue_append_singleton, groupValue_append_singleton] at heq
  have hbc : b.toNat = c.toNat := by omega
  rw [h.eq_of_groupValue_eq h' (by omega), UInt8.toNat_inj.mp hbc]

/-- A list of groups is told by their numbers. -/
lemma eq_of_map_groupValue_eq {gs gs' : List (List UInt8)} (h : ∀ g ∈ gs, IsGroup g)
    (h' : ∀ g ∈ gs', IsGroup g) (heq : gs.map groupValue = gs'.map groupValue) : gs = gs' := by
  induction gs generalizing gs' with
  | nil => exact (List.map_eq_nil_iff.mp heq.symm).symm
  | cons g gs ih =>
      obtain ⟨g', gs', rfl, hhead, htail⟩ := List.map_eq_cons_iff.mp heq.symm
      rw [List.forall_mem_cons] at h h'
      rw [h.1.eq_of_groupValue_eq h'.1 hhead.symm, ih h.2 h'.2 htail.symm]

/-! ### Identifiers as short as can be -/

/-- **An identifier as short as can be**: its last group has ended, and in none of its groups the
first octet is without effect. -/
structure IsShortest (s : List UInt8) : Prop where
  ne_nil : s ≠ []
  ended : ∀ b ∈ s.tail.getLast?, b < 0x80
  short : ∀ g ∈ groups s.tail, g.head? ≠ some 0x80

/-- The groups of octets that end with one are these octets. -/
lemma flatten_groups_go {acc : List UInt8} (hacc : r = [] → acc = [])
    (hend : ∀ b ∈ r.getLast?, b < 0x80) : (groups.go acc r).flatten = acc.reverse ++ r := by
  induction r generalizing acc with
  | nil => simp [groups.go, hacc rfl]
  | cons b r ih =>
      have hend' : ∀ c ∈ r.getLast?, c < 0x80 := fun c hc => hend c (by
        rw [List.getLast?_cons, Option.mem_def.mp hc]
        rfl)
      rw [groups.go]
      split_ifs with hb
      · rw [List.flatten_cons, ih (fun _ => rfl) hend']
        simp
      · have hr : r ≠ [] := by
          rintro rfl
          exact hb (hend b rfl)
        rw [ih (fun hr' => absurd hr' hr) hend']
        simp

/-- A piece of the octets is a group if its first octet counts. -/
lemma isGroup_of_mem_go {acc : List UInt8} (hacc : ∀ b ∈ acc, 0x80 ≤ b.toNat)
    (hg : g ∈ groups.go acc r) (hhead : g.head? ≠ some 0x80) : IsGroup g := by
  induction r generalizing acc with
  | nil => cases hg
  | cons b r ih =>
      rw [groups.go] at hg
      split_ifs at hg with hb
      · rcases List.mem_cons.mp hg with rfl | hg
        · rw [List.reverse_cons] at hhead ⊢
          refine .ended ⟨fun c hc => hacc c (List.mem_reverse.mp hc), fun h => hhead ?_⟩
            (UInt8.lt_iff_toNat_lt.mp hb)
          rw [List.head?_append, h]
          rfl
        · exact ih (by simp) hg
      · refine ih (fun c hc => ?_) hg
        rcases List.mem_cons.mp hc with rfl | hc
        · exact not_lt.mp fun hlt => hb (UInt8.lt_iff_toNat_lt.mpr hlt)
        · exact hacc c hc

/-- If the last octet ends a group, nothing is left after the last group. -/
lemma unended_eq_nil (hend : ∀ b ∈ r.getLast?, b < 0x80) : unended r = [] := by
  obtain rfl | ⟨r, b, rfl⟩ := List.eq_nil_or_concat' r
  · rfl
  · have hb : ¬ 0x80 ≤ b := UInt8.not_le.mpr (hend b (by simp))
    simp [unended, hb]

/-- The numbers of an identifier as short as can be. -/
lemma IsShortest.arcs_eq {b : UInt8} (h : IsShortest (b :: r)) :
    arcs (b :: r) = b.toNat / 40 :: b.toNat % 40 :: (groups r).map groupValue := by
  rw [arcs, unended_eq_nil (r := r) h.ended]
  exact List.append_nil _

/-- **Identifiers as short as can be are told by their numbers.** -/
theorem arcs_inj {t : List UInt8} (hs : IsShortest s) (ht : IsShortest t) :
    arcs s = arcs t ↔ s = t := by
  constructor
  · intro heq
    obtain ⟨b, r, rfl⟩ := List.exists_cons_of_ne_nil hs.ne_nil
    obtain ⟨c, q, rfl⟩ := List.exists_cons_of_ne_nil ht.ne_nil
    rw [hs.arcs_eq, ht.arcs_eq] at heq
    obtain ⟨hdiv, heq⟩ := List.cons.inj heq
    obtain ⟨hmod, hvalues⟩ := List.cons.inj heq
    have hbc : b.toNat = c.toNat := by omega
    have hgroups : groups r = groups q := eq_of_map_groupValue_eq
      (fun g hg => isGroup_of_mem_go (by simp) hg (hs.short g hg))
      (fun g hg => isGroup_of_mem_go (by simp) hg (ht.short g hg)) hvalues
    have hflat : ∀ {r}, (∀ b ∈ r.getLast?, b < 0x80) → (groups r).flatten = r := fun hend =>
      flatten_groups_go (fun _ => rfl) hend
    rw [UInt8.toNat_inj.mp hbc, ← hflat (r := r) hs.ended, hgroups, hflat (r := q) ht.ended]
  · rintro rfl
    rfl

/-! ### Numbers with points between them -/

lemma point_notMem_toDigits (n : ℕ) : '.' ∉ Nat.toDigits 10 n := fun h =>
  absurd (Nat.isDigit_of_mem_toDigits (by norm_num) le_rfl h) (by decide)

/-- **Numbers are told by the text of them** with points between them. -/
theorem dotted_inj (hns : ns ≠ []) (hms : ms ≠ []) : dotted ns = dotted ms ↔ ns = ms := by
  constructor
  · intro h
    have hsplit : ∀ {ns : List ℕ}, ns ≠ [] →
        (dotted ns).toList.splitOn '.' = ns.map (Nat.toDigits 10) := by
      intro ns hne
      rw [dotted, String.toList_ofList]
      refine List.splitOn_intercalate '.' (fun l hl => ?_) (by simpa using hne)
      obtain ⟨n, -, rfl⟩ := List.mem_map.mp hl
      exact point_notMem_toDigits n
    have hdigits : Function.Injective (Nat.toDigits 10) := fun n m heq => by
      rw [← Nat.ofDigitChars_ten_toDigits (n := n), heq, Nat.ofDigitChars_ten_toDigits]
    refine List.map_injective_iff.mpr hdigits ?_
    rw [← hsplit hns, h, hsplit hms]
  · rintro rfl
    rfl

/-- Octets that are spelled are not written like the identifier of RSA: of the pieces between blanks
each has two digits. -/
lemma spelled_ne_rsaName (hs : s ≠ []) : spelled s ≠ rsaName := by
  intro h
  have hdigit : ∀ n < 16, Hex.digit n ≠ ' ' := by decide
  have hpair : ∀ b : UInt8, ' ' ∉ Hex.pair b := by
    intro b hmem
    have hb := b.toNat_lt
    rcases List.mem_pair.mp hmem with heq | heq
    · exact hdigit (b.toNat / 16) (by omega) heq.symm
    · exact hdigit (b.toNat % 16) (by omega) heq.symm
  have hsplit : (spelled s).toList.splitOn ' ' = s.map Hex.pair := by
    rw [spelled, String.toList_ofList]
    refine List.splitOn_intercalate ' ' (fun l hl => ?_) (by simpa using hs)
    obtain ⟨b, -, rfl⟩ := List.mem_map.mp hl
    exact hpair b
  have hname : rsaName.toList.splitOn ' ' = [rsaName.toList] := by decide
  rw [h, hname] at hsplit
  obtain ⟨b, -, hb⟩ := List.mem_map.mp (hsplit ▸ List.mem_singleton_self rsaName.toList)
  have hlength : 2 = rsaName.toList.length := congrArg List.length hb
  exact absurd hlength (by decide)

/-! ### The identifier of RSA -/

lemma isShortest_rsaEncryption : IsShortest rsaEncryption :=
  ⟨by decide, by simp [rsaEncryption], by decide⟩

lemma render_rsaEncryption : render rsaEncryption = rsaName := by decide

/-- **An identifier that is written like that of RSA has its numbers.** -/
theorem arcs_of_render_eq (h : render s = rsaName) : arcs s = arcs rsaEncryption := by
  have hname : rsaName = dotted (arcs rsaEncryption) := by decide
  match s with
  | [] => exact absurd h (by decide)
  | b :: r =>
      by_cases hzero : b :: r = [0x00]
      · rw [hzero] at h
        exact absurd h (by decide)
      · rw [render] at h
        · by_cases hlong : (groups r).any (9 < ·.length) = true
          · rw [if_pos hlong] at h
            exact absurd h (spelled_ne_rsaName (List.cons_ne_nil b r))
          · rw [if_neg hlong] at h
            have hdotted : dotted (arcs (b :: r)) = dotted (arcs rsaEncryption) := h.trans hname
            exact (dotted_inj (by simp [arcs]) (by decide)).mp hdotted
        · simpa using hzero

end Keyring.Asn1.ObjectId
