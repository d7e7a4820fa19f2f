import Keyring.Time.Instant

/-!
A clock set by hand. All handles of one clock share its reading, so the clock is that reading.

* `Clock.set`, `Clock.advance`: what moves it.
* `Clock.advance` answers whether the move was possible; a move out of the range of instants leaves
  the reading as it was.
-/

namespace Keyring

/-- A clock that shows what it was last set to. -/
structure Clock where
  /-- the instant it shows -/
  now : Instant
  deriving DecidableEq, Repr

namespace Clock

/-- The clock set to an instant. -/
def set (_ : Clock) (t : Instant) : Clock := ⟨t⟩

/-- The clock moved by a delta, and whether it could be. -/
def advance (c : Clock) (d : Delta) : Clock × Bool :=
  match c.now.add? d with
  | some t => (⟨t⟩, true)
  | none => (c, false)

end Clock

end Keyring
