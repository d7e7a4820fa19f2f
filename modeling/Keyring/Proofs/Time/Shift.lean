import Mathlib.Tactic
import Keyring.Proofs.Time.Words

/-!
Lengths of time of either sign, in words.

In words such a length is a number of whole seconds, rounded down, and the nanoseconds beyond them.
An instant is moved by seconds and nanoseconds of one sign, so the seconds are rounded towards zero
first.

* `Shift`: a length of time of either sign; `Shift.toSpan`: its parts with one sign.
* `Shift.move_toSpan`: an instant is moved by it as by its length, and no step leaves its word.
* `Shift.add?`, `Shift.exists_add?`: two of them added up.
-/

namespace Keyring.Words

/-- The nanoseconds of the longest span. -/
def greatest : ℤ := greatestSeconds * nanosPerSecond + greatestNanos

/-- A length of time of either sign. -/
structure Shift where
  /-- the whole seconds, rounded down -/
  seconds : ℤ
  /-- the nanoseconds beyond them -/
  nanos : ℤ
  nanos_nonneg : 0 ≤ nanos
  nanos_lt : nanos < nanosPerSecond
  neg_greatest_le : -greatest ≤ seconds * nanosPerSecond + nanos
  le_greatest : seconds * nanosPerSecond + nanos ≤ greatest

namespace Shift

/-- The shift of seconds and nanoseconds, if there is one. -/
def ofParts? (seconds nanos : ℤ) : Option Shift :=
  if h : (0 ≤ nanos ∧ nanos < nanosPerSecond) ∧ -greatest ≤ seconds * nanosPerSecond + nanos
      ∧ seconds * nanosPerSecond + nanos ≤ greatest then
    some ⟨seconds, nanos, h.1.1, h.1.2, h.2.1, h.2.2⟩
  else none

variable (s a b : Shift)

/-- The length of a shift in nanoseconds. -/
def toDelta : Delta := Delta.ofParts s.seconds s.nanos

lemma nanos_toDelta : s.toDelta.nanos = s.seconds * nanosPerSecond + s.nanos := rfl

/-- No two instants are further from each other than the longest span. -/
lemma bounds_of_inRange {t : Instant} {d : Delta} (h : t.InRange d) :
    -greatest ≤ d.nanos ∧ d.nanos ≤ greatest := by
  obtain ⟨hlow, hhigh⟩ := h
  have hfirst := t.first_le
  have hlast := t.le_last
  have hlt := t.subsecond_lt
  simp only [Instant.nanos, firstNanos, lastNanos, firstSecond, lastSecond, nanosPerSecond,
    greatest, greatestSeconds, greatestNanos] at *
  split_ifs at hhigh <;> omega

/-- Below zero, a second more and the nanoseconds that it takes away have one sign. -/
lemma bounds_of_neg (h : s.seconds < 0 ∧ 0 < s.nanos) :
    (-greatestSeconds ≤ s.seconds + 1 ∧ s.seconds + 1 ≤ greatestSeconds)
      ∧ (-nanosPerSecond < s.nanos - nanosPerSecond ∧ s.nanos - nanosPerSecond < nanosPerSecond)
      ∧ s.seconds + 1 ≤ 0 ∧ s.nanos - nanosPerSecond ≤ 0 := by
  have hlow := s.neg_greatest_le
  have hlt := s.nanos_lt
  simp only [greatest, greatestSeconds, greatestNanos, nanosPerSecond] at *
  omega

lemma bounds_of_not_neg (h : ¬ (s.seconds < 0 ∧ 0 < s.nanos)) :
    (-greatestSeconds ≤ s.seconds ∧ s.seconds ≤ greatestSeconds)
      ∧ (-nanosPerSecond < s.nanos ∧ s.nanos < nanosPerSecond)
      ∧ ((0 ≤ s.seconds ∧ 0 ≤ s.nanos) ∨ (s.seconds ≤ 0 ∧ s.nanos ≤ 0)) := by
  have hlow := s.neg_greatest_le
  have hhigh := s.le_greatest
  have hlt := s.nanos_lt
  have hnonneg := s.nanos_nonneg
  simp only [greatest, greatestSeconds, greatestNanos, nanosPerSecond] at *
  omega

/-- The span of a shift: its seconds, rounded towards zero, and the nanoseconds beyond them, of the
same sign. -/
def toSpan : Span :=
  if h : s.seconds < 0 ∧ 0 < s.nanos then
    { seconds := s.seconds + 1
      nanos := s.nanos - nanosPerSecond
      seconds_bounds := (s.bounds_of_neg h).1
      nanos_bounds := (s.bounds_of_neg h).2.1
      one_sign := .inr (s.bounds_of_neg h).2.2 }
  else
    { seconds := s.seconds
      nanos := s.nanos
      seconds_bounds := (s.bounds_of_not_neg h).1
      nanos_bounds := (s.bounds_of_not_neg h).2.1
      one_sign := (s.bounds_of_not_neg h).2.2 }

/-- Nothing of a shift is lost in its span. -/
lemma toDelta_toSpan : s.toSpan.toDelta = s.toDelta := by
  refine Delta.ext ?_
  rw [Span.nanos_toDelta, nanos_toDelta, toSpan]
  split_ifs
  · ring
  · rfl

/-- **An instant is moved by a shift as by its length**, and no step of it leaves its word. -/
lemma move_toSpan (t : Instant) :
    (Moment.ofInstant t).move s.toSpan = some ((t.add? s.toDelta).map Moment.ofInstant) := by
  rw [Moment.move_ofInstant, s.toDelta_toSpan]

/-! ### Sums -/

/-- Two of them added up, if the sum is not too long. None if a step that is not checked leaves its
word. -/
def add? : Option (Option Shift) := do
  let seconds ← fits 64 (a.seconds + b.seconds)
  let nanos ← fits 32 (a.nanos + b.nanos)
  let (seconds, nanos) ← carry seconds nanos
  return ofParts? seconds nanos

/-- Seconds and nanoseconds make a shift of that length, if it is not too long. -/
lemma exists_ofParts? {seconds nanos : ℤ} (hnanos : 0 ≤ nanos ∧ nanos < nanosPerSecond)
    (hlow : -greatest ≤ seconds * nanosPerSecond + nanos)
    (hhigh : seconds * nanosPerSecond + nanos ≤ greatest) :
    ∃ s, ofParts? seconds nanos = some s
      ∧ s.toDelta.nanos = seconds * nanosPerSecond + nanos :=
  ⟨_, dif_pos ⟨hnanos, hlow, hhigh⟩, rfl⟩

/-- The seconds of a shift are few enough to be added up. -/
lemma seconds_bounds : -2 ^ 61 ≤ s.seconds ∧ s.seconds < 2 ^ 61 := by
  have hnonneg := s.nanos_nonneg
  have hlt := s.nanos_lt
  have hlow := s.neg_greatest_le
  have hhigh := s.le_greatest
  simp only [greatest, greatestSeconds, greatestNanos, nanosPerSecond] at *
  omega

/-- **The sum is exact**, and there is one unless it is too long. -/
lemma exists_add? {a b : Shift} (hlow : -greatest ≤ a.toDelta.nanos + b.toDelta.nanos)
    (hhigh : a.toDelta.nanos + b.toDelta.nanos ≤ greatest) :
    ∃ c, a.add? b = some (some c) ∧ c.toDelta.nanos = a.toDelta.nanos + b.toDelta.nanos := by
  have hbillion : (nanosPerSecond : ℤ) = 1000000000 := rfl
  have ha := a.seconds_bounds
  have hb := b.seconds_bounds
  have hna := a.nanos_nonneg
  have hnb := b.nanos_nonneg
  have hla := a.nanos_lt
  have hlb := b.nanos_lt
  obtain ⟨seconds, nanos, hcarry, hnanos, -, htotal⟩ :=
    @exists_carry (a.seconds + b.seconds) (a.nanos + b.nanos) (by omega) (by omega)
  have hsum : seconds * nanosPerSecond + nanos = a.toDelta.nanos + b.toDelta.nanos := by
    rw [htotal, nanos_toDelta, nanos_toDelta]
    ring
  obtain ⟨c, hc, hlength⟩ := exists_ofParts? hnanos (hsum ▸ hlow) (hsum ▸ hhigh)
  refine ⟨c, ?_, hlength.trans hsum⟩
  rw [add?]
  dsimp only [Option.bind_eq_bind]
  rw [fits_of_lt (by omega) (by omega), Option.bind_some, fits_of_lt (by omega) (by omega),
    Option.bind_some, hcarry, Option.bind_some, hc]
  rfl

end Shift

end Keyring.Words
