import Mathlib.Tactic
import Keyring.Config.Document
import Keyring.Proofs.Json.Layout
import Keyring.Proofs.Json.Writing

/-!
A length of time comes back from the value that is written of it.

* `Duration.layout`: the two members of a length of time.
* `Duration.Says`: a value says a length of time; `Duration.read_append`: it is read so.
* `Duration.says_toValue`: what is written says it.
-/

namespace Keyring.Duration

open Json (Blanks Members Written)

/-- The members of a length of time. -/
inductive Field where
  | seconds
  | nanos

namespace Field

/-- The name of a member. -/
def name : Field → String
  | .seconds => "secs"
  | .nanos => "nanos"

/-- What its number is below. -/
def bound : Field → ℕ
  | .seconds => secondsBound
  | .nanos => nanosBound

end Field

/-- Both members are numbers. -/
def layout : Json.Layout readMember where
  Field := Field
  Value := fun _ => ℕ
  name := Field.name
  part := fun
    | .seconds, p => p.seconds
    | .nanos, p => p.nanos
  put := fun
    | .seconds, p, n => { p with seconds := some n }
    | .nanos, p, n => { p with nanos := some n }
  read := fun
    | .seconds => readSeconds
    | .nanos => readNanos
  Tells := fun f => Json.IsNatural f.bound
  name_injective := by
    intro f g h
    cases f <;> cases g <;> first | rfl | exact absurd h (by decide)
  part_put := by
    intro f p n
    cases f <;> rfl
  part_put_of_ne := by
    intro f g p n h
    cases f <;> cases g <;> first | rfl | exact absurd rfl h
  member_name := by
    intro f p s
    cases f with
    | seconds => rw [Field.name, readMember, if_pos rfl]
    | nanos => rw [Field.name, readMember, if_neg (by decide), if_pos rfl]
  read_append := by
    intro f v b r n h hb hr
    cases f with
    | seconds => exact h.readNatural_append (by decide) hb hr
    | nanos => exact h.readNatural_append (by decide) hb hr

variable (d : Duration)

/-- What a member says of a length of time. -/
def part : Field → ℕ
  | .seconds => d.seconds.toNat
  | .nanos => d.nanos

lemma part_lt (f : Field) : d.part f < f.bound := by
  cases f with
  | seconds => exact d.seconds.toNat_lt_size
  | nanos => exact d.nanos_lt.trans (by decide)

/-- A member as it is written. -/
def written (f : Field) : String × List UInt8 :=
  (f.name, Utf8.encode (Nat.toDigits 10 (d.part f)))

/-- **A value says a length of time**: it is an object of its seconds and its nanoseconds, in either
order. -/
def Says (v : List UInt8) : Prop :=
  ∃ s ms, v = Json.openObject :: (s ++ [Json.closeObject]) ∧ Members ms s
    ∧ ms.Perm [d.written .seconds, d.written .nanos]

variable {d}

/-- The parts of a length of time make it. -/
lemma ofParts_part : ofParts d.seconds.toNat d.nanos = .ok d := by
  have hnanos := d.nanos_lt
  have hcarry : d.nanos / nanosPerSecond = 0 := Nat.div_eq_of_lt hnanos
  simp only [ofParts, hcarry, Nat.add_zero, Nat.mod_eq_of_lt hnanos]
  rw [if_pos (show d.seconds.toNat < secondsBound from d.seconds.toNat_lt_size)]
  simp

/-- **A length of time is read** as what is said. -/
theorem read_append {v b : List UInt8} (h : d.Says v) (hb : Blanks b) (r : List UInt8) :
    read (b ++ (v ++ r)) = .ok (d, r) := by
  obtain ⟨s, ms, rfl, hms, hperm⟩ := h
  have hwritten : ∀ f : Field, d.written f ∈ ms := fun f => by
    rw [hperm.mem_iff]
    cases f <;> simp
  have htells : ∀ f : Field, layout.Tells f (d.written f).2 (d.part f) := fun f =>
    ⟨d.part_lt f, rfl⟩
  have hnames := hperm.map Prod.fst
  have hnodup : ["secs", "nanos"].Nodup := by decide
  obtain ⟨p, hp⟩ := Json.Layout.exists_gathers (L := layout) ms ⟨none, none⟩
    (fun {name v} hv => by
      have hmem := hperm.mem_iff.mp hv
      simp only [List.mem_cons, List.not_mem_nil, or_false] at hmem
      rcases hmem with h | h
      · obtain ⟨rfl, rfl⟩ := Prod.mk.inj h
        exact .field (L := layout) (f := Field.seconds) (htells .seconds)
      · obtain ⟨rfl, rfl⟩ := Prod.mk.inj h
        exact .field (L := layout) (f := Field.nanos) (htells .nanos))
    (fun f => (hnames.count_eq _).trans_le (List.nodup_iff_count_le_one.mp hnodup _))
    fun f _ => by cases f <;> rfl
  have hseconds : p.seconds = some d.seconds.toNat :=
    hp.told (f := Field.seconds) (hwritten .seconds) (htells .seconds)
  have hnanos : p.nanos = some d.nanos :=
    hp.told (f := Field.nanos) (hwritten .nanos) (htells .nanos)
  have hfinish : Parts.finish p = .ok d := by
    rw [Parts.finish, hseconds, hnanos]
    exact ofParts_part
  rw [List.cons_append, List.append_assoc, List.singleton_append]
  exact Json.readRecord_append hb (.inr hms) hp.takes hfinish r

/-- What is written of a length of time says this length. -/
lemma says_toValue (d : Duration) : d.Says d.toValue.octets := by
  have hnanos : (UInt64.ofNat d.nanos).toNat = d.nanos := by
    rw [UInt64.toNat_ofNat', Nat.mod_eq_of_lt (d.nanos_lt.trans (by decide))]
  have hwritten : ∀ m ∈ [("secs", Json.Value.natural d.seconds),
      ("nanos", Json.Value.natural (UInt64.ofNat d.nanos))], Written .value m.2.octets := by
    simp [Json.written_natural]
  obtain ⟨s, hs, ⟨hnil, -⟩ | hmembers⟩ := Json.exists_inside hwritten
  · cases hnil
  · refine ⟨s, _, hs, hmembers, List.Perm.of_eq ?_⟩
    simp [Json.writtenMembers, written, part, Field.name, Json.Value.octets, Json.Value.natural,
      Json.Value.write, Json.Number.write, hnanos]

lemma written_toValue (d : Duration) : Written .value d.toValue.octets :=
  Json.written_object (by simp [Json.written_natural])

end Keyring.Duration
