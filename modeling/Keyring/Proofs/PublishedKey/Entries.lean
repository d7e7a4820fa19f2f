import Mathlib.Data.String.Basic
import Mathlib.Tactic
import Keyring.PublishedKey
import Keyring.Proofs.Result
import Keyring.Proofs.Text.Order

/-!
The entries of a key document: its members as a map from ids to values.

* `lastValue?`, `lastValue?_eq_some_iff`: the value that was given last for an id.
* `entries_sorted`: entries stand in the order of their ids, each id once.
* `mem_entries_iff`, `entries_congr`: they are the ids that were given, with their last values, and
  nothing else of the members counts.
* `Decodes`, `kid_of_ofPem`: an id has a key, and that key is under the id.
* `ofEntries_entries_eq_error_iff`: what is wrong with a document is what is wrong with its least id
  that has no key.
* `ofPem_error`: the kinds of errors that a value can have.
-/

namespace Keyring.PublishedKey

variable {members : List (String × String)} {es : List (String × String)} {kid name value : String}

/-! ### A map in the order of its names -/

/-- The value that was given last for an id. -/
def lastValue? (members : List (String × String)) (kid : String) : Option String :=
  members.reverse.lookup kid

/-- One member more: it hides those before it. -/
lemma lastValue?_append_singleton (m : String × String) :
    lastValue? (members ++ [m]) kid = if kid = m.1 then some m.2 else lastValue? members kid := by
  obtain ⟨name, value⟩ := m
  rw [lastValue?, List.reverse_append, List.reverse_singleton, List.singleton_append,
    List.lookup_cons]
  by_cases h : kid = name
  · simp [h]
  · have hbeq : (kid == name) = false := beq_eq_false_iff_ne.mpr h
    simp only [hbeq, h, if_false, lastValue?]

/-- **A value that was given last** is one that no later member of its name hides. -/
theorem lastValue?_eq_some_iff : lastValue? members kid = some value ↔
    ∃ before after, members = before ++ (kid, value) :: after ∧ kid ∉ after.map Prod.fst := by
  rw [lastValue?, List.lookup_eq_some_iff]
  constructor
  · rintro ⟨later, earlier, heq, hlater⟩
    refine ⟨earlier.reverse, later.reverse, by simpa using congrArg List.reverse heq, fun hk => ?_⟩
    obtain ⟨p, hp, rfl⟩ := List.mem_map.mp hk
    simpa using hlater p (List.mem_reverse.mp hp)
  · rintro ⟨before, after, rfl, hafter⟩
    refine ⟨after.reverse, before.reverse, by simp, fun p hp => bne_iff_ne.mpr ?_⟩
    rintro rfl
    exact hafter (List.mem_map_of_mem (List.mem_reverse.mp hp))

/-- One more entry in its place. -/
lemma mem_insertEntry_iff (hes : es.Pairwise fun a b => a.1 < b.1) {e : String × String} :
    e ∈ insertEntry name value es ↔ e = (name, value) ∨ e.1 ≠ name ∧ e ∈ es := by
  induction es with
  | nil => simp [insertEntry]
  | cons first r ih =>
      obtain ⟨n, v⟩ := first
      obtain ⟨hfirst, hr⟩ := List.pairwise_cons.mp hes
      have hne : ∀ {x : String × String}, x ∈ (n, v) :: r → name < n → x.1 ≠ name := by
        intro x hx hlt
        rcases List.mem_cons.mp hx with rfl | hx
        · exact hlt.ne'
        · exact (hlt.trans (hfirst x hx)).ne'
      rw [insertEntry]
      split_ifs with hlt heq
      · rw [List.mem_cons]
        exact or_congr_right ⟨fun h => ⟨hne h hlt, h⟩, And.right⟩
      · subst heq
        rw [List.mem_cons, List.mem_cons]
        refine or_congr_right ⟨fun h => ⟨(hfirst e h).ne', .inr h⟩, ?_⟩
        rintro ⟨hen, rfl | h⟩
        · exact absurd rfl hen
        · exact h
      · rw [List.mem_cons, ih hr, List.mem_cons]
        constructor
        · rintro (rfl | rfl | ⟨hen, h⟩)
          · exact .inr ⟨Ne.symm heq, .inl rfl⟩
          · exact .inl rfl
          · exact .inr ⟨hen, .inr h⟩
        · rintro (rfl | ⟨hen, rfl | h⟩)
          · exact .inr (.inl rfl)
          · exact .inl rfl
          · exact .inr (.inr ⟨hen, h⟩)

/-- Inserting an entry keeps the order. -/
lemma insertEntry_sorted (hes : es.Pairwise fun a b => a.1 < b.1) :
    (insertEntry name value es).Pairwise fun a b => a.1 < b.1 := by
  induction es with
  | nil => exact List.pairwise_singleton _ _
  | cons first r ih =>
      obtain ⟨n, v⟩ := first
      obtain ⟨hfirst, hr⟩ := List.pairwise_cons.mp hes
      rw [insertEntry]
      split_ifs with hlt heq
      · refine List.pairwise_cons.mpr ⟨fun x hx => ?_, hes⟩
        rcases List.mem_cons.mp hx with rfl | hx
        · exact hlt
        · exact hlt.trans (hfirst x hx)
      · subst heq
        exact List.pairwise_cons.mpr ⟨hfirst, hr⟩
      · refine List.pairwise_cons.mpr ⟨fun x hx => ?_, ih hr⟩
        rcases (mem_insertEntry_iff hr).mp hx with rfl | ⟨-, hx⟩
        · exact lt_of_le_of_ne (not_lt.mp hlt) (Ne.symm heq)
        · exact hfirst x hx

lemma entries_append_singleton (m : String × String) :
    entries (members ++ [m]) = insertEntry m.1 m.2 (entries members) := by
  rw [entries, List.foldl_append]
  rfl

/-- **Entries stand in the order of their ids**, each id once. -/
theorem entries_sorted (members : List (String × String)) :
    (entries members).Pairwise fun a b => a.1 < b.1 := by
  induction members using List.reverseRecOn with
  | nil => exact List.Pairwise.nil
  | append_singleton members m ih =>
      rw [entries_append_singleton]
      exact insertEntry_sorted ih

/-- **The entries are the ids that were given**, with their last values. -/
theorem mem_entries_iff : (kid, value) ∈ entries members ↔ lastValue? members kid = some value := by
  induction members using List.reverseRecOn with
  | nil => simp [entries, lastValue?]
  | append_singleton members m ih =>
      rw [entries_append_singleton, mem_insertEntry_iff (entries_sorted members), ih,
        lastValue?_append_singleton]
      by_cases h : kid = m.1
      · simp [h, Prod.ext_iff, eq_comm]
      · simp [h, Prod.ext_iff]

/-- Members whose names differ are all given last. -/
lemma lastValue?_of_nodup (hn : (members.map Prod.fst).Nodup) :
    lastValue? members kid = some value ↔ (kid, value) ∈ members := by
  rw [lastValue?_eq_some_iff]
  constructor
  · rintro ⟨before, after, rfl, -⟩
    simp
  · intro h
    obtain ⟨before, after, rfl⟩ := List.append_of_mem h
    refine ⟨before, after, rfl, ?_⟩
    rw [List.map_append, List.map_cons, List.nodup_append] at hn
    exact (List.nodup_cons.mp hn.2.1).1

/-- **The entries are told by what was given last**, in whatever way and order it was given. -/
theorem entries_congr {members' : List (String × String)}
    (h : ∀ kid, lastValue? members' kid = lastValue? members kid) :
    entries members' = entries members := by
  have hnodup : ∀ members, (entries members).Nodup := fun members =>
    (entries_sorted members).imp fun hlt heq => hlt.ne (congrArg Prod.fst heq)
  have hperm : (entries members').Perm (entries members) := by
    refine (List.perm_ext_iff_of_nodup (hnodup _) (hnodup _)).mpr fun ⟨kid, value⟩ => ?_
    rw [mem_entries_iff, mem_entries_iff, h]
  exact hperm.eq_of_pairwise (fun _ _ _ _ hlt hgt => absurd hgt hlt.asymm) (entries_sorted _)
    (entries_sorted _)

/-! ### What is wrong with a document -/

/-- An id has a key: its value is an armoured certificate that holds one. -/
def Decodes (kid value : String) : Prop := ∃ key, ofPem kid (Utf8.encode value.toList) = .ok key

/-- The key of an id is under that id. -/
lemma kid_of_ofPem {armoured : List UInt8} {key : PublishedKey}
    (h : ofPem kid armoured = .ok key) : key.kid = kid := by
  unfold ofPem at h
  cases hc : Pem.contents armoured with
  | error f => simp [hc] at h
  | ok der =>
      simp only [hc, ofCertificate] at h
      cases hs : Certificate.subjectKey? der with
      | none => simp [hs] at h
      | some s =>
          simp only [hs, ofSubjectKey] at h
          split_ifs at h
          cases hk : Rsa.PublicKey.ofInfo? s.encoded with
          | none => simp [hk] at h
          | some k =>
              simp only [hk, Except.ok.injEq] at h
              rw [← h]

/-- **What is wrong with the entries of a document** is what is wrong with its least id that has no
key, in the order of the octets. -/
theorem ofEntries_entries_eq_error_iff {e : Error} :
    ofEntries (entries members) = .error e ↔ ∃ kid value, lastValue? members kid = some value
      ∧ ofPem kid (Utf8.encode value.toList) = .error e
      ∧ ∀ kid' value', lastValue? members kid' = some value' →
        Utf8.encode kid'.toList < Utf8.encode kid.toList → Decodes kid' value' := by
  have hsorted := entries_sorted members
  rw [ofEntries, mapM_eq_error_iff]
  constructor
  · rintro ⟨before, ⟨kid, value⟩, after, hes, hbefore, he⟩
    refine ⟨kid, value, mem_entries_iff.mp (by simp [hes]), he, fun kid' value' hv hlt => ?_⟩
    have hmem := mem_entries_iff.mpr hv
    rw [hes] at hmem hsorted
    obtain ⟨-, hlater, -⟩ := List.pairwise_append.mp hsorted
    rcases List.mem_append.mp hmem with hmem | hmem
    · exact hbefore (kid', value') hmem
    · -- neither the id itself nor a later one is smaller
      have hle : kid ≤ kid' := by
        rcases List.mem_cons.mp hmem with hmem | hmem
        · exact (congrArg Prod.fst hmem).ge
        · exact ((List.pairwise_cons.mp hlater).1 _ hmem).le
      exact absurd (Utf8.encode_lt_iff.mp hlt) hle.not_gt
  · rintro ⟨kid, value, hv, he, hleast⟩
    obtain ⟨before, after, hes⟩ := List.append_of_mem (mem_entries_iff.mpr hv)
    refine ⟨before, (kid, value), after, hes, fun b hb => ?_, he⟩
    rw [hes] at hsorted
    have hlt := (List.pairwise_append.mp hsorted).2.2 b hb _ List.mem_cons_self
    exact hleast b.1 b.2 (mem_entries_iff.mp (by simp [hes, hb])) (Utf8.encode_lt_iff.mpr hlt)

/-- What can be wrong with the key in a certificate: its type, or its encoding. -/
lemma ofSubjectKey_error {s : Certificate.SubjectKey} {e : Error}
    (h : ofSubjectKey kid s = .error e) : (∃ f, e = .format f) ∨ ∃ f, e = .keyType f := by
  unfold ofSubjectKey at h
  split at h
  · exact .inr ⟨_, (Except.error.inj h).symm⟩
  · cases hk : Rsa.PublicKey.ofInfo? s.encoded with
    | some key => simp [hk] at h
    | none =>
        simp only [hk] at h
        exact .inl ⟨_, (Except.error.inj h).symm⟩

/-- **What can be wrong with a value**: its armour, its encoding, or the type of its key. -/
lemma ofPem_error {armoured : List UInt8} {e : Error} (h : ofPem kid armoured = .error e) :
    (∃ f, e = .pem f) ∨ (∃ f, e = .format f) ∨ ∃ f, e = .keyType f := by
  unfold ofPem at h
  cases hc : Pem.contents armoured with
  | error f =>
      simp only [hc] at h
      exact .inl ⟨f, (Except.error.inj h).symm⟩
  | ok der =>
      simp only [hc, ofCertificate] at h
      cases hs : Certificate.subjectKey? der with
      | none =>
          simp only [hs] at h
          exact .inr (.inl ⟨_, (Except.error.inj h).symm⟩)
      | some s =>
          simp only [hs] at h
          exact .inr (ofSubjectKey_error h)

end Keyring.PublishedKey
