import Mathlib.Tactic
import Keyring.Time.Clock
import Keyring.Proofs.Result
import Keyring.Proofs.Time.Shift

/-!
A clock whose reading is behind a lock.

A request takes the lock and releases it again, after a panic too. A panic under the lock poisons
it: taking it later is an error, which carries the lock all the same.

* `Request`, `Reply`: what a clock is asked for, and what it answers.
* `Clock.answer`: the answers of a clock; `Clock.advance_of_reaches`,
  `Clock.advance_of_not_inRange`: a move is exact, or it fails and changes nothing.
* `Cell`: a reading in words behind a lock; `Cell.answer`: the answers of a cell.
* `Cell.Shows`: the lock is free and the reading is that of a clock.
* `Cell.Shows.answer`: the answers are those of the clock, whatever the lock remembers.
* `Cell.Shows.answer_refused`: what a failed move leaves behind.
-/

namespace Keyring

namespace Clock

open Words (Moment Shift)

/-! ### What a clock answers -/

/-- What a clock is asked for. -/
inductive Request where
  /-- A request for the reading. -/
  | now
  /-- A request to show an instant. -/
  | set (t : Instant)
  /-- A request to move. -/
  | advance (d : Shift)

/-- What a clock answers. -/
inductive Reply where
  /-- The clock shows an instant. -/
  | shown (m : Moment)
  /-- The clock has been set or moved. -/
  | done
  /-- The clock could not be moved, and the request has panicked. -/
  | panicked

/-- A clock after a request, and its answer. -/
def answer (c : Clock) : Request → Clock × Reply
  | .now => (c, .shown (.ofInstant c.now))
  | .set t => (c.set t, .done)
  | .advance d =>
    match c.advance d.toDelta with
    | (c', true) => (c', .done)
    | (c', false) => (c', .panicked)

section

variable {c : Clock} {δ : Delta} {u : Instant}

/-- A move in range leads to the instant that it reaches. -/
lemma advance_of_reaches (h : c.now.Reaches δ u) : c.advance δ = (⟨u⟩, true) := by
  rw [advance, Instant.add?_eq_some_iff.mpr h]

lemma advance_of_not_inRange (h : ¬ c.now.InRange δ) : c.advance δ = (c, false) := by
  rw [advance, Instant.add?_eq_none_iff.mpr h]

end

/-! ### A reading behind a lock -/

/-- What no request may run into. -/
inductive Trouble where
  /-- The request waits for a lock that is never released. -/
  | waitsForEver
  /-- A step that is not checked leaves its word. -/
  | leavesWord

/-- A reading behind a lock. -/
structure Cell where
  /-- the reading -/
  reading : Moment
  /-- whether the lock is held -/
  held : Bool
  /-- whether a request has panicked while it held the lock -/
  poisoned : Bool

namespace Cell

/-- A reading behind a lock that has not been taken yet. -/
def fresh (t : Instant) : Cell := ⟨.ofInstant t, false, false⟩

/-- The lock is taken. If it is poisoned, that is an error, which carries the lock. -/
def lock (x : Cell) : Except Trouble (Except Cell Cell) :=
  if x.held then .error .waitsForEver
  else .ok (if x.poisoned then .error { x with held := true } else .ok { x with held := true })

/-- The lock is taken in spite of that error. -/
def enter (x : Cell) : Except Trouble Cell :=
  x.lock.map fun
    | .ok x => x
    | .error x => x

/-- The lock is released, by a panic or without one. -/
def leave (x : Cell) (panicking : Bool) : Cell :=
  { x with held := false, poisoned := x.poisoned || panicking }

/-- Under the lock the reading is moved. The new one is computed before the old one is overwritten;
if there is none, the panic releases the lock. -/
def move (x : Cell) (d : Shift) : Except Trouble (Cell × Reply) :=
  match x.reading.move d.toSpan with
  | none => .error .leavesWord
  | some none => .ok (x.leave true, .panicked)
  | some (some m) => .ok ({ x with reading := m }.leave false, .done)

/-- A cell after a request, and its answer. -/
def answer (x : Cell) (r : Request) : Except Trouble (Cell × Reply) := do
  let x ← x.enter
  match r with
  | .now => return (x.leave false, .shown x.reading)
  | .set t => return ({ x with reading := .ofInstant t }.leave false, .done)
  | .advance d => x.move d

lemma enter_of_not_held {x : Cell} (h : x.held = false) :
    x.enter = .ok { x with held := true } := by
  rw [enter, lock, h]
  cases x.poisoned <;> rfl

/-- **A cell shows what a clock shows**, and its lock is free. -/
structure Shows (x : Cell) (c : Clock) : Prop where
  free : x.held = false
  reading : x.reading = .ofInstant c.now

lemma fresh_shows (t : Instant) : (fresh t).Shows ⟨t⟩ := ⟨rfl, rfl⟩

namespace Shows

variable {x : Cell} {c : Clock} {d : Shift} {u : Instant}

/-- A move in range leads to the instant that it reaches. -/
lemma answer_moved (h : x.Shows c) (hu : c.now.Reaches d.toDelta u) :
    ∃ x', x.answer (.advance d) = .ok (x', .done) ∧ x'.Shows ⟨u⟩ := by
  rw [Cell.answer, enter_of_not_held h.free, ok_bind]
  dsimp only
  rw [move, h.reading, d.move_toSpan, Instant.add?_eq_some_iff.mpr hu]
  exact ⟨_, rfl, rfl, rfl⟩

/-- A move out of range fails: the lock remembers it and is free, and the reading is what it was. -/
lemma answer_refused (h : x.Shows c) (hout : ¬ c.now.InRange d.toDelta) :
    ∃ x', x.answer (.advance d) = .ok (x', .panicked) ∧ x'.poisoned = true ∧ x'.Shows c := by
  rw [Cell.answer, enter_of_not_held h.free, ok_bind]
  dsimp only
  rw [move, h.reading, d.move_toSpan, Instant.add?_eq_none_iff.mpr hout]
  exact ⟨_, rfl, Bool.or_true _, rfl, rfl⟩

/-- **A cell answers as the clock does**, whatever its lock remembers, and it goes on to show what
the clock shows. -/
lemma answer (h : x.Shows c) (r : Request) :
    ∃ x', x.answer r = .ok (x', (c.answer r).2) ∧ x'.Shows (c.answer r).1 := by
  cases r with
  | now =>
      rw [Cell.answer, enter_of_not_held h.free, ok_bind, Clock.answer, ← h.reading]
      exact ⟨_, rfl, rfl, h.reading⟩
  | set t =>
      rw [Cell.answer, enter_of_not_held h.free, ok_bind]
      exact ⟨_, rfl, rfl, rfl⟩
  | advance d =>
      by_cases hin : c.now.InRange d.toDelta
      · obtain ⟨u, hu⟩ := Instant.exists_reaches_iff.mpr hin
        rw [Clock.answer, advance_of_reaches hu]
        exact h.answer_moved hu
      · obtain ⟨x', hx', -, hshows⟩ := h.answer_refused hin
        rw [Clock.answer, advance_of_not_inRange hin]
        exact ⟨x', hx', hshows⟩

end Shows

end Cell

end Clock

end Keyring
