/-!
Lengths of time.

* `Duration`: whole seconds below 2^64 and nanoseconds below one second; never negative.
* `Delta`: a signed number of nanoseconds.
-/

namespace Keyring

/-- The number of nanoseconds in a second. -/
def nanosPerSecond : Nat := 1000000000

/-- A length of time that is not negative. -/
@[ext]
structure Duration where
  /-- the whole seconds -/
  seconds : UInt64
  /-- the nanoseconds beyond them -/
  nanos : Nat
  nanos_lt : nanos < nanosPerSecond := by decide
  deriving DecidableEq, Repr

namespace Duration

/-- A length of whole seconds. -/
def ofSeconds (s : UInt64) : Duration := { seconds := s, nanos := 0 }

/-- No time at all. -/
def zero : Duration := ofSeconds 0

/-- The whole length in nanoseconds. -/
def toNanos (d : Duration) : Nat := d.seconds.toNat * nanosPerSecond + d.nanos

/-- Two lengths of equally many nanoseconds are one. -/
theorem toNanos_injective {a b : Duration} (h : a.toNanos = b.toNanos) : a = b := by
  have ha := a.nanos_lt
  have hb := b.nanos_lt
  simp only [toNanos, nanosPerSecond] at h ha hb
  have hs : a.seconds.toNat = b.seconds.toNat := by omega
  have hn : a.nanos = b.nanos := by omega
  exact Duration.ext (UInt64.toNat_inj.1 hs) hn

/-- The whole length in microseconds, what is less than one left out. -/
def toMicros (d : Duration) : Nat := d.toNanos / 1000

/-- The whole length in seconds, as the nearest sum of two floats. -/
def toFloat (d : Duration) : Float :=
  d.seconds.toFloat + Float.ofNat d.nanos / Float.ofNat nanosPerSecond

/-- Shorter than, or as long as. -/
instance : LE Duration := ⟨fun a b => a.toNanos ≤ b.toNanos⟩

/-- Shorter than. -/
instance : LT Duration := ⟨fun a b => a.toNanos < b.toNanos⟩

instance (a b : Duration) : Decidable (a ≤ b) := Nat.decLe _ _

instance (a b : Duration) : Decidable (a < b) := Nat.decLt _ _

end Duration

/-- A signed length of time. -/
@[ext]
structure Delta where
  /-- its nanoseconds -/
  nanos : Int
  deriving DecidableEq, Repr

/-- The delta of a length of time. -/
def Duration.toDelta (d : Duration) : Delta := ⟨d.toNanos⟩

theorem Duration.toDelta_ofSeconds (s : UInt64) :
    (ofSeconds s).toDelta = ⟨s.toNat * nanosPerSecond⟩ := by
  simp [toDelta, toNanos, ofSeconds]

/-- Signed seconds and nanoseconds added up. -/
def Delta.ofParts (seconds nanos : Int) : Delta := ⟨seconds * nanosPerSecond + nanos⟩

end Keyring
