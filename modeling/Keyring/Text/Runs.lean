import Keyring.Text.Table

/-!
Sets of code points as run lengths.

A set is given by the lengths of the stretches of code points that are alternately outside and
inside it, from zero on: `[2, 3]` is the set of 2, 3 and 4. Past the last length nothing is inside.

* `Runs.ofLines`: the lengths that a table lists.
* `Runs.contains`: whether a code point is inside.
-/

namespace Keyring.Runs

/-- The lengths that the words of a table stand for. -/
def ofLines (lines : List String) : List Nat := (Table.words lines).map Table.number

/-- Whether a number falls into an inner stretch; `inside` tells which kind the first one is. -/
def containsFrom (inside : Bool) : List Nat → Nat → Bool
  | [], _ => false
  | n :: r, x => if x < n then inside else containsFrom (!inside) r (x - n)

/-- Whether a code point belongs to the set. -/
def contains (runs : List Nat) (x : Nat) : Bool := containsFrom false runs x

end Keyring.Runs
