import Mathlib.Tactic
import Keyring.Time.Clock

/-!
How far apart instants are.

Outside leap seconds an instant is its nanoseconds since the epoch. From an instant in a leap second
that one second counts too, so whatever comes after it is a second further away.

* `Instant.nanosFrom`: the nanoseconds of an instant on the line of time of another one.
* `Instant.Reaches`: one instant is a delta away from another; `Instant.add?_eq_some_iff`: that is
  the instant it is moved to.
* `Instant.InRange`: there is an instant so far away, `Instant.exists_reaches_iff`.
* `Instant.reaches_seconds_iff`: whole seconds, by the parts of an instant.
* `Instant.Joins`: when two moves are as good as one, `Instant.Reaches.exists_reaches`.
-/

namespace Keyring

namespace Instant

/-- The nanoseconds of an instant since the epoch as they count from `t`: a leap second that `t`
lies in is a second like any other, and there is no other leap second. -/
def nanosFrom (t u : Instant) : ℤ :=
  u.nanos + if t.IsLeap ∧ t.seconds < u.seconds then (nanosPerSecond : ℤ) else 0

/-- **An instant is a delta away from `t`.** It lies in no leap second but that of `t`. -/
@[mk_iff]
structure Reaches (t : Instant) (d : Delta) (u : Instant) : Prop where
  nanosFrom_eq : t.nanosFrom u = t.nanos + d.nanos
  leap : u.IsLeap → t.IsLeap ∧ u.seconds = t.seconds

/-- **There is an instant a delta away from `t`**: it is not before the first one, and not after the
end of the last second, which is a second further from a leap second. -/
def InRange (t : Instant) (d : Delta) : Prop :=
  firstNanos ≤ t.nanos + d.nanos
    ∧ t.nanos + d.nanos ≤ lastNanos + if t.IsLeap then (nanosPerSecond : ℤ) else 0

instance (t : Instant) (d : Delta) : Decidable (t.InRange d) := inferInstanceAs (Decidable (_ ∧ _))

variable {t u v : Instant} {d a b : Delta}

/-- From an instant outside leap seconds every nanosecond since the epoch counts once. -/
lemma reaches_iff_of_not_isLeap (h : ¬ t.IsLeap) :
    t.Reaches d u ↔ u.nanos = t.nanos + d.nanos ∧ ¬ u.IsLeap := by
  rw [reaches_iff, nanosFrom, if_neg fun hno => h hno.1, add_zero]
  exact and_congr_right fun _ => imp_congr_right fun _ => iff_false_intro fun hno => h hno.1

/-- Outside leap seconds instants are in the order of their nanoseconds. -/
lemma lt_iff_of_not_isLeap (ht : ¬ t.IsLeap) (hu : ¬ u.IsLeap) : t < u ↔ t.nanos < u.nanos := by
  rw [lt_iff]
  simp only [IsLeap, nanos, nanosPerSecond] at *
  omega

lemma firstNanos_le (t : Instant) : firstNanos ≤ t.nanos := by
  have hfirst := t.first_le
  simp only [firstNanos, nanos, nanosPerSecond]
  omega

/-! ### Sums -/

/-- A delta that leads back out of a leap second counts all nanoseconds since the epoch once. -/
lemma add?_of_lt (h : t.subsecond + d.nanos < nanosPerSecond) :
    t.add? d = ofNanos? (t.nanos + d.nanos) := if_pos (.inr h)

/-- A delta that does not lead out of a leap second moves within it. -/
lemma exists_add?_of_stays (ht : t.IsLeap) (hlow : nanosPerSecond ≤ t.subsecond + d.nanos)
    (hhigh : t.subsecond + d.nanos < 2 * nanosPerSecond) :
    ∃ u, t.add? d = some u ∧ u.seconds = t.seconds ∧ (u.subsecond : ℤ) = t.subsecond + d.nanos := by
  have hin : ¬ (t.subsecond < nanosPerSecond ∨ t.subsecond + d.nanos < nanosPerSecond) :=
    fun hno => hno.elim (Nat.not_lt.mpr ht) (not_lt.mpr hlow)
  rw [add?, if_neg hin, dif_pos hhigh]
  exact ⟨_, rfl, rfl, Int.toNat_of_nonneg (le_trans (Int.natCast_nonneg _) hlow)⟩

/-- A delta that leads past the end of a leap second counts that second too. -/
lemma add?_of_le (ht : t.IsLeap) (h : 2 * nanosPerSecond ≤ t.subsecond + d.nanos) :
    t.add? d = ofNanos? (t.nanos + d.nanos - nanosPerSecond) := by
  have hbillion : (nanosPerSecond : ℤ) = 1000000000 := rfl
  have hin : ¬ (t.subsecond < nanosPerSecond ∨ t.subsecond + d.nanos < nanosPerSecond) :=
    fun hno => hno.elim (Nat.not_lt.mpr ht) (by omega)
  rw [add?, if_neg hin, dif_neg (not_lt.mpr h)]

/-- **A sum is the instant that the delta reaches.** -/
lemma add?_eq_some_iff : t.add? d = some u ↔ t.Reaches d u := by
  by_cases ht : t.IsLeap
  · have htlt := t.subsecond_lt
    have hult := u.subsecond_lt
    rw [reaches_iff, nanosFrom]
    -- back out of the leap second, within it, and past its end
    rcases lt_or_ge (t.subsecond + d.nanos) nanosPerSecond with hback | hlow
    · rw [add?_of_lt hback, ofNanos?_eq_some]
      split_ifs
      all_goals
        simp only [nanos, IsLeap, nanosPerSecond] at *
        omega
    · rcases lt_or_ge (t.subsecond + d.nanos) (2 * nanosPerSecond) with hhigh | hpast
      · obtain ⟨v, hv, hseconds, hsubsecond⟩ := exists_add?_of_stays ht hlow hhigh
        rw [hv, Option.some.injEq, Instant.ext_iff]
        split_ifs
        all_goals
          simp only [nanos, IsLeap, nanosPerSecond] at *
          omega
      · rw [add?_of_le ht hpast, ofNanos?_eq_some]
        split_ifs
        all_goals
          simp only [nanos, IsLeap, nanosPerSecond] at *
          omega
  · rw [add?_of_not_isLeap ht, ofNanos?_eq_some, reaches_iff_of_not_isLeap ht]

/-- **There is a sum exactly if it is in range.** -/
lemma isSome_add?_iff : (t.add? d).isSome ↔ t.InRange d := by
  have hfirst := t.first_le
  have hlast := t.le_last
  have htlt := t.subsecond_lt
  rw [InRange]
  by_cases ht : t.IsLeap
  · rw [if_pos ht]
    rcases lt_or_ge (t.subsecond + d.nanos) nanosPerSecond with hback | hlow
    · rw [add?_of_lt hback, isSome_ofNanos?]
      simp only [nanos, firstNanos, lastNanos, nanosPerSecond] at *
      omega
    · rcases lt_or_ge (t.subsecond + d.nanos) (2 * nanosPerSecond) with hhigh | hpast
      · obtain ⟨v, hv, -, -⟩ := exists_add?_of_stays ht hlow hhigh
        rw [hv, Option.isSome_some, eq_self, true_iff]
        simp only [nanos, firstNanos, lastNanos, nanosPerSecond] at *
        omega
      · rw [add?_of_le ht hpast, isSome_ofNanos?]
        simp only [nanos, firstNanos, lastNanos, nanosPerSecond] at *
        omega
  · rw [add?_of_not_isLeap ht, isSome_ofNanos?, if_neg ht, add_zero]

lemma exists_reaches_iff : (∃ u, t.Reaches d u) ↔ t.InRange d := by
  rw [← isSome_add?_iff, Option.isSome_iff_exists]
  exact exists_congr fun _ => add?_eq_some_iff.symm

lemma add?_eq_none_iff : t.add? d = none ↔ ¬ t.InRange d := by
  rw [← isSome_add?_iff, Option.not_isSome_iff_eq_none]

/-- A delta that is not negative does not lead back, and only the one without length leads nowhere.
-/
lemma Reaches.le (h : t.Reaches d u) (hd : 0 ≤ d.nanos) : t ≤ u ∧ (u ≤ t ↔ d.nanos = 0) := by
  obtain ⟨hnanos, hleap⟩ := h
  have htlt := t.subsecond_lt
  have hult := u.subsecond_lt
  show t.rank ≤ u.rank ∧ (u.rank ≤ t.rank ↔ _)
  rw [nanosFrom] at hnanos
  split_ifs at hnanos
  all_goals
    simp only [rank, nanos, IsLeap, nanosPerSecond] at *
    omega

/-! ### Whole seconds -/

/-- **Whole seconds change the second only**, but the nanosecond of a leap second becomes one of the
second that is reached. -/
lemma reaches_seconds_iff {n : ℕ} : t.Reaches ⟨n * nanosPerSecond⟩ u ↔ u.seconds = t.seconds + n
    ∧ u.subsecond = if n = 0 then t.subsecond else t.subsecond % nanosPerSecond := by
  have htlt := t.subsecond_lt
  have hult := u.subsecond_lt
  rw [reaches_iff, nanosFrom]
  split_ifs
  all_goals
    simp only [nanos, IsLeap, nanosPerSecond] at *
    omega

/-! ### Two moves -/

/-- **Two moves are as good as one**: from an instant in a leap second, if the first one stays in
it, or if the first one and both together lead out of it on the same side. -/
def Joins (t : Instant) (a b : Delta) : Prop :=
  t.IsLeap →
    (t.subsecond + a.nanos < nanosPerSecond ∧ t.subsecond + a.nanos + b.nanos < nanosPerSecond)
      ∨ (nanosPerSecond ≤ t.subsecond + a.nanos ∧ t.subsecond + a.nanos < 2 * nanosPerSecond)
      ∨ (2 * nanosPerSecond ≤ t.subsecond + a.nanos
        ∧ 2 * nanosPerSecond ≤ t.subsecond + a.nanos + b.nanos)

instance (t : Instant) (a b : Delta) : Decidable (t.Joins a b) :=
  inferInstanceAs (Decidable (_ → _))

/-- If two moves succeed one does that is as long as both, and it leads to the same instant exactly
if they join. -/
lemma Reaches.exists_reaches (hu : t.Reaches a u) (hv : u.Reaches b v) :
    ∃ w, t.Reaches ⟨a.nanos + b.nanos⟩ w ∧ (v = w ↔ t.Joins a b) := by
  have hult := u.subsecond_lt
  have htlt := t.subsecond_lt
  have hvlt := v.subsecond_lt
  have hvfirst := v.first_le
  have hvlast := v.le_last
  have htfirst := t.first_le
  have htlast := t.le_last
  rw [reaches_iff, nanosFrom] at hu hv
  -- the sum of two moves that succeed is in range
  have hin : t.InRange ⟨a.nanos + b.nanos⟩ := by
    rw [InRange]
    split_ifs at hu hv ⊢
    all_goals
      simp only [nanos, IsLeap, firstNanos, lastNanos, nanosPerSecond] at *
      omega
  obtain ⟨w, hw⟩ := exists_reaches_iff.mpr hin
  refine ⟨w, hw, ?_⟩
  have hwlt := w.subsecond_lt
  rw [reaches_iff, nanosFrom] at hw
  -- by where each of the three instants lies beside the leap second of `t`
  rw [Joins, Instant.ext_iff]
  split_ifs at hu hv hw
  all_goals
    simp only [nanos, IsLeap, nanosPerSecond] at *
    omega

/-! ### An instant in a leap second -/

/-- The middle of a leap second after the first minute. -/
def midLeap : Instant := ⟨59, 1500000000, by decide, by decide, by decide⟩

/-- The half of the second after the leap second, which has as many nanoseconds since the epoch. -/
def afterLeap : Instant := ⟨60, 500000000, by decide, by decide, by decide⟩

/-- A second leads from the one instant to the other. -/
example : midLeap.add? ⟨1000000000⟩ = some afterLeap := by decide

end Instant

end Keyring
