import Keyring.PublishedKey
import Keyring.Time.Instant

/-!
Keys and how long they may be used.

* `Snapshot`: a list of keys and the instant of its expiry.
* `Snapshot.isStale`: whether the keys have to be fetched anew.
* `Snapshot.mayOutlive`: whether expired keys may still be used when they cannot be.
-/

namespace Keyring

/-- Keys and the instant of their expiry. -/
structure Snapshot where
  /-- the keys -/
  keys : List PublishedKey
  /-- the instant of their expiry -/
  expiresAt : Instant
  deriving Repr, DecidableEq

namespace Snapshot

/-- No keys, expired from the beginning. -/
def empty : Snapshot := ⟨[], Instant.first⟩

/-- Whether there are no keys. -/
def isEmpty (s : Snapshot) : Bool := s.keys.isEmpty

/-- Whether the keys have to be fetched anew: there are none, or the instant of expiry has come. -/
def isStale (s : Snapshot) (now : Instant) : Bool := s.isEmpty || s.expiresAt ≤ now

/-- The first key under an id. -/
def find? (s : Snapshot) (kid : String) : Option PublishedKey := PublishedKey.find? s.keys kid

/-- Whether the keys may be used for `window` after their expiry. -/
def mayOutlive (s : Snapshot) (window : Duration) (now : Instant) : Bool :=
  !s.isEmpty &&
    match s.expiresAt.add? window.toDelta with
    | some deadline => now < deadline
    | none => false

end Snapshot

end Keyring
