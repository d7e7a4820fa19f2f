import Keyring.Time.Duration

/-!
Points in time.

* `Instant`: a second since the epoch, within the years −262143 to 262142, and a nanosecond of it. A
  second may be followed by a leap second, which takes the nanoseconds from 10^9 on.
* `Instant.nanos`: nanoseconds since the epoch. Leap seconds do not count, so an instant in one has
  the nanoseconds of another instant in the second after it.
* `Instant.add?`: an instant moved by a delta, if the result is in range; exact to the nanosecond,
  where the leap second that the instant lies in counts as a second, and no other one does.
-/

namespace Keyring

/-- The second of the first instant, since the epoch: the start of the year −262143. -/
def firstSecond : Int := -8334601228800

/-- The last second, since the epoch: the end of the year 262142. -/
def lastSecond : Int := 8210266876799

/-- A point in time. -/
@[ext]
structure Instant where
  /-- the whole seconds since the epoch, negative before it -/
  seconds : Int
  /-- the nanoseconds beyond them; from 10^9 on they lie in a leap second -/
  subsecond : Nat
  first_le : firstSecond ≤ seconds
  le_last : seconds ≤ lastSecond
  subsecond_lt : subsecond < 2 * nanosPerSecond
  deriving DecidableEq, Repr

/-- The nanoseconds of the first instant since the epoch. -/
def firstNanos : Int := firstSecond * nanosPerSecond

/-- The nanoseconds since the epoch at the end of the last second. -/
def lastNanos : Int := lastSecond * nanosPerSecond + 999999999

namespace Instant

/-- The first instant there is. -/
def first : Instant where
  seconds := firstSecond
  subsecond := 0
  first_le := Int.le_refl _
  le_last := by decide
  subsecond_lt := by decide

/-- The last instant there is outside a leap second. -/
def last : Instant where
  seconds := lastSecond
  subsecond := 999999999
  first_le := by decide
  le_last := Int.le_refl _
  subsecond_lt := by decide

/-- The nanoseconds since the epoch, negative before it. -/
def nanos (t : Instant) : Int := t.seconds * nanosPerSecond + t.subsecond

/-- An instant in a leap second. -/
def IsLeap (t : Instant) : Prop := nanosPerSecond ≤ t.subsecond

instance (t : Instant) : Decidable t.IsLeap := Nat.decLe _ _

theorem seconds_bounds {n : Int} (h : firstNanos ≤ n ∧ n ≤ lastNanos) :
    firstSecond ≤ n / nanosPerSecond ∧ n / nanosPerSecond ≤ lastSecond := by
  simp only [firstNanos, lastNanos, nanosPerSecond] at h ⊢
  omega

theorem toNat_lt {n : Int} (h : n < 2 * nanosPerSecond) : n.toNat < 2 * nanosPerSecond := by
  simp only [nanosPerSecond] at h ⊢
  omega

theorem emod_lt (n : Int) : n % nanosPerSecond < 2 * nanosPerSecond := by
  simp only [nanosPerSecond]
  omega

/-- The nanoseconds of a second have room for those of a leap second. -/
theorem lt_of_lt_ite {p : Prop} [Decidable p] {n : Int}
    (h : n < (if p then 2 * nanosPerSecond else nanosPerSecond)) : n < 2 * nanosPerSecond := by
  simp only [nanosPerSecond] at h ⊢
  split at h <;> omega

/-- The instant outside leap seconds of a number of nanoseconds since the epoch, if it is in range.
-/
def ofNanos? (n : Int) : Option Instant :=
  if h : firstNanos ≤ n ∧ n ≤ lastNanos then
    some {
      seconds := n / nanosPerSecond
      subsecond := (n % nanosPerSecond).toNat
      first_le := (seconds_bounds h).1
      le_last := (seconds_bounds h).2
      subsecond_lt := toNat_lt (emod_lt n) }
  else none

/-- The instant of seconds and nanoseconds since the epoch, if it is in range. A leap second can
only follow the last second of a minute. -/
def ofParts? (seconds nanos : Int) : Option Instant :=
  if h : (firstSecond ≤ seconds ∧ seconds ≤ lastSecond) ∧ 0 ≤ nanos
      ∧ nanos < (if seconds % 60 = 59 then 2 * nanosPerSecond else nanosPerSecond) then
    some {
      seconds
      subsecond := nanos.toNat
      first_le := h.1.1
      le_last := h.1.2
      subsecond_lt := toNat_lt (lt_of_lt_ite h.2.2) }
  else none

/-- An instant moved by a delta, if the result is in range. Out of a leap second it moves past the
end of that second as if there were no leap second any more, and back as if the next second had
begun already. -/
def add? (t : Instant) (d : Delta) : Option Instant :=
  if t.subsecond < nanosPerSecond ∨ t.subsecond + d.nanos < nanosPerSecond then
    ofNanos? (t.nanos + d.nanos)
  else if h : t.subsecond + d.nanos < 2 * nanosPerSecond then
    some { t with
      subsecond := (t.subsecond + d.nanos).toNat
      subsecond_lt := toNat_lt h }
  else ofNanos? (t.nanos + d.nanos - nanosPerSecond)

/-- The place of an instant among all of them. Every second has room for a leap second. -/
def rank (t : Instant) : Int := t.seconds * (2 * nanosPerSecond) + t.subsecond

/-- Earlier than, or equal to. -/
instance : LE Instant := ⟨fun a b => a.rank ≤ b.rank⟩

/-- Earlier than. -/
instance : LT Instant := ⟨fun a b => a.rank < b.rank⟩

instance (a b : Instant) : Decidable (a ≤ b) := Int.decLe _ _

instance (a b : Instant) : Decidable (a < b) := Int.decLt _ _

variable {s t : Instant} {n : Int} {d : Delta}

/-- Instants are compared by their seconds, and within a second by their nanoseconds. -/
theorem lt_iff : s < t ↔
    s.seconds < t.seconds ∨ s.seconds = t.seconds ∧ s.subsecond < t.subsecond := by
  have hs := s.subsecond_lt
  have ht := t.subsecond_lt
  show s.rank < t.rank ↔ _
  simp only [rank, nanosPerSecond] at *
  omega

theorem not_le : ¬ s ≤ t ↔ t < s := Int.not_le

/-- The instant of a number of nanoseconds is the one outside leap seconds that has it. -/
theorem ofNanos?_eq_some : ofNanos? n = some t ↔ t.nanos = n ∧ ¬ t.IsLeap := by
  have hfirst := t.first_le
  have hlast := t.le_last
  unfold ofNanos?
  split
  · simp only [Option.some.injEq, Instant.ext_iff, IsLeap, nanos, nanosPerSecond]
    omega
  · simp only [reduceCtorEq, false_iff]
    rintro ⟨hnanos, hleap⟩
    simp only [IsLeap, nanos, firstNanos, lastNanos, nanosPerSecond] at *
    omega

/-- Numbers of nanoseconds make an instant exactly when they are in range. -/
theorem isSome_ofNanos? : (ofNanos? n).isSome ↔ firstNanos ≤ n ∧ n ≤ lastNanos := by
  unfold ofNanos?
  split <;> simp [*]

/-- Outside leap seconds a sum is exact. -/
theorem add?_of_not_isLeap (h : ¬ s.IsLeap) : s.add? d = ofNanos? (s.nanos + d.nanos) :=
  if_pos (.inl (Nat.not_le.mp h))

end Instant

end Keyring
