import Mathlib.Tactic
import Keyring.Proofs.Result
import Keyring.Proofs.Source.Course

/-!
Operations on a source, one at a time.

A turn is an operation together with its inputs: the readings of the clock that it takes, the
replies to its requests, and whether it is cancelled. These decide what it comes to.

* `Operation`, `Answer`: the operations on a source, and what they answer.
* `Turn.run`: an operation alone on a source, by `Source.keys` and its like.
* `runInTurn`: operations one after the other.
* `Turn.came`, `Turn.yield`: what fetching came to on a turn, as a document and as keys to install.
* `Turn.Comes`, `Turn.run_comes`: what a turn can come to.
-/

namespace Keyring.Source

open Http (Attempt Client Fetching KeyDocument Playback Reply Request)

/-! ### Operations and turns -/

/-- The operations on a source. -/
inductive Operation where
  /-- The keys are asked for, with a client in place of the usual one or without. -/
  | keys (client : Option Client)
  /-- The keys are dropped. -/
  | invalidate
  /-- The keys at hand are copied. -/
  | snapshot
  deriving Repr, DecidableEq

/-- The client that an operation is given in place of the usual one. -/
def Operation.client? : Operation → Option Client
  | .keys client => client
  | _ => none

/-- What an operation answers. -/
inductive Answer where
  | keys (result : Except Error (List PublishedKey))
  | done
  | snapshot (snapshot : Snapshot)
  deriving Repr

/-- An operation and its inputs. -/
structure Turn where
  /-- the operation -/
  operation : Operation
  /-- the reading of the clock at the beginning, once it has been taken -/
  begun : Option Instant
  /-- what became of its requests, so far -/
  replies : List Reply
  /-- the reading when a document has arrived, once it has been taken -/
  arrived : Option Instant
  /-- the reading at the end of fetching, once it has been taken -/
  failed : Option Instant
  /-- whether it was cancelled while it waited for a reply -/
  cancelled : Bool
  deriving Repr

namespace Turn

/-- An operation before any input. -/
def ofOperation (operation : Operation) : Turn := ⟨operation, none, [], none, none, false⟩

/-- A turn as a call. Readings that were not taken do not matter. -/
def call (t : Turn) : Call where
  client := t.operation.client?
  begun := t.begun.getD Instant.first
  arrived := t.arrived.getD Instant.first
  failed := t.failed.getD Instant.first
  cancelled := t.cancelled

/-- An operation alone on a source: its answer, none if it is cancelled, the source after it, and
the requests that were sent. -/
def run (t : Turn) (s : Source) : Option Answer × Source × List Request :=
  match t.operation with
  | .keys _ =>
    let (r, s, net) := s.keys Playback.send t.call (.ofReplies t.replies)
    (r.map .keys, s, net.asked)
  | .invalidate => (some .done, s.invalidate, [])
  | .snapshot => (some (.snapshot s.snapshot), s, [])

end Turn

/-- Operations one after the other: their answers, the source after them, and all requests. -/
def runInTurn (s : Source) : List Turn → List (Option Answer) × Source × List Request
  | [] => ([], s, [])
  | t :: more =>
    let (answer, s, asked) := t.run s
    let (answers, s, asked') := runInTurn s more
    (answer :: answers, s, asked ++ asked')

lemma runInTurn_append_singleton (s : Source) (ts : List Turn) (t : Turn) :
    runInTurn s (ts ++ [t])
      = let before := runInTurn s ts
        let last := t.run before.2.1
        (before.1 ++ [last.1], last.2.1, before.2.2 ++ last.2.2) := by
  induction ts generalizing s with
  | nil => simp [runInTurn]
  | cons u ts ih => simp [runInTurn, ih, List.append_assoc]

/-! ### What fetching came to -/

namespace Turn

/-- Fetching on a turn, with its replies. -/
def played (t : Turn) (s : Source) : Attempt (Except Error KeyDocument) × Playback :=
  Fetching.played s.config (t.operation.client?.getD s.client) t.replies

/-- What fetching came to on a turn. -/
def came (t : Turn) (s : Source) : Except Error KeyDocument := (t.played s).1.settle s.config

/-- The keys that a turn fetched and the instant of their expiry, with the time it took. -/
def yield (t : Turn) (s : Source) : Except Error (Snapshot × Duration) :=
  refreshed (t.came s) t.call.arrived

variable {t : Turn} {s : Source}

/-- A document on a turn came from one of its replies. -/
lemma exists_response_of_came {document : KeyDocument} (h : t.came s = .ok document) :
    ∃ r, .response r ∈ t.replies ∧ KeyDocument.ofResponse s.config r = .ok document := by
  cases ha : (t.played s).1 with
  | waiting => simp [came, ha, Attempt.settle, KeyDocument.timedOut] at h
  | ended fetched =>
      rw [came, ha, Attempt.settle] at h
      exact Http.exists_response_of_played (h ▸ ha)

/-- What a turn yields is the content of the document that came. -/
lemma yield_eq_ok {p : Snapshot} {took : Duration} (h : t.yield s = .ok (p, took)) :
    ∃ document, t.came s = .ok document ∧ snapshotOf document t.call.arrived = .ok p
      ∧ took = document.elapsed := by
  cases hc : t.came s with
  | error e => simp [yield, refreshed, hc] at h
  | ok document =>
      rw [yield, hc] at h
      obtain ⟨p', hs, hp⟩ := map_eq_ok_iff.mp h
      obtain ⟨rfl, rfl⟩ := Prod.mk.inj hp
      exact ⟨document, rfl, hs, rfl⟩

lemma yield_ne_ok (h : t.replies = []) (p : Snapshot × Duration) : t.yield s ≠ .ok p := by
  intro hp
  obtain ⟨document, hc, -⟩ := yield_eq_ok hp
  obtain ⟨r, hr, -⟩ := exists_response_of_came hc
  simp [h] at hr

lemma yield_ne_ok_of_isWaiting (h : (t.played s).1.isWaiting = true) (p : Snapshot × Duration) :
    t.yield s ≠ .ok p := by
  intro hp
  obtain ⟨document, hc, -⟩ := yield_eq_ok hp
  cases ha : (t.played s).1 with
  | waiting => simp [came, ha, Attempt.settle, KeyDocument.timedOut] at hc
  | ended fetched => simp [ha, Attempt.isWaiting] at h

/-- **What a turn can come to.** -/
inductive Comes (t : Turn) (s : Source) : Option Answer × Source × List Request → Prop where
  /-- The keys are dropped. -/
  | invalidated (ho : t.operation = .invalidate) : Comes t s (some .done, s.invalidate, [])
  /-- The keys are copied. -/
  | copied (ho : t.operation = .snapshot) : Comes t s (some (.snapshot s.snapshot), s, [])
  /-- The keys at hand are not stale and are handed out. -/
  | served {client : Option Client} (ho : t.operation = .keys client)
      (hs : s.snapshot.isStale t.call.begun = false) :
      Comes t s (some (.keys (.ok s.snapshot.keys)), s.observe .hit, [])
  /-- The keys are stale, and the call is cancelled while it fetches. -/
  | cancelled {client : Option Client} {asked : List Request} (ho : t.operation = .keys client)
      (hs : s.snapshot.isStale t.call.begun = true) (hw : (t.played s).1.isWaiting = true) :
      Comes t s (none, s.asking, asked)
  /-- The keys are stale, and the refresh comes to an end. -/
  | ended {client : Option Client} {asked : List Request} {r : Except Error (List PublishedKey)}
      {s' : Source} (ho : t.operation = .keys client)
      (hs : s.snapshot.isStale t.call.begun = true)
      (hw : ((t.played s).1.isWaiting && t.cancelled) = false)
      (he : Ends s t.call (t.came s) (r, s')) : Comes t s (some (.keys r), s', asked)

/-- Keys that are not stale are handed out. -/
lemma run_of_not_isStale {client : Option Client} (ho : t.operation = .keys client)
    (hs : s.snapshot.isStale t.call.begun = false) :
    t.run s = (some (.keys (.ok s.snapshot.keys)), s.observe .hit, []) := by
  rw [run, ho]
  dsimp only
  rw [keys_of_not_isStale _ _ hs]
  rfl

/-- Where the keys are stale, they are fetched with the replies of the turn. -/
lemma run_of_isStale {client : Option Client} (ho : t.operation = .keys client)
    (hs : s.snapshot.isStale t.call.begun = true) :
    t.run s
      = if (t.played s).1.isWaiting && t.cancelled then (none, s.asking, (t.played s).2.asked)
        else
          let r := s.asking.finish s.kept? t.call (t.came s)
          (some (.keys r.1), r.2, (t.played s).2.asked) := by
  have hk : s.keys Playback.send t.call (.ofReplies t.replies)
      = if (t.played s).1.isWaiting && t.cancelled then (none, s.asking, (t.played s).2)
        else
          let r := s.asking.finish s.kept? t.call (t.came s)
          (some r.1, r.2, (t.played s).2) :=
    keys_of_isStale _ _ hs
  have hrun : t.run s = let r := s.keys Playback.send t.call (.ofReplies t.replies)
      (r.1.map .keys, r.2.1, r.2.2.asked) := by
    rw [run, ho]
  rw [hrun, hk]
  dsimp only
  split_ifs <;> rfl

/-- A refresh that is not cancelled comes to an end. -/
lemma run_of_uncancelled {client : Option Client} (ho : t.operation = .keys client)
    (hs : s.snapshot.isStale t.call.begun = true) (ha : t.cancelled = false) :
    t.run s
      = let r := s.asking.finish s.kept? t.call (t.came s)
        (some (.keys r.1), r.2, (t.played s).2.asked) := by
  rw [run_of_isStale ho hs, ha, Bool.and_false, if_neg Bool.false_ne_true]

/-- A call that is cancelled while it waits for a reply has no answer. -/
lemma run_of_cancelled {client : Option Client} (ho : t.operation = .keys client)
    (hs : s.snapshot.isStale t.call.begun = true) (ha : t.cancelled = true)
    (hw : (t.played s).1 = .waiting) :
    t.run s = (none, s.asking, (t.played s).2.asked) := by
  rw [run_of_isStale ho hs, ha, hw, Attempt.isWaiting, Bool.and_self, if_pos rfl]

theorem run_comes (t : Turn) (s : Source) : Comes t s (t.run s) := by
  cases ho : t.operation with
  | invalidate =>
      rw [run, ho]
      exact .invalidated ho
  | snapshot =>
      rw [run, ho]
      exact .copied ho
  | keys client =>
      cases hs : s.snapshot.isStale t.call.begun with
      | false =>
          rw [run_of_not_isStale ho hs]
          exact .served ho hs
      | true =>
          rw [run_of_isStale ho hs]
          dsimp only
          split_ifs with h
          · exact .cancelled ho hs (Bool.and_eq_true_iff.mp h).1
          · exact .ended ho hs (by simpa using h) (finish_ends s t.call (t.came s))

/-- No operation changes the configuration or the client. -/
lemma run_config_client (t : Turn) (s : Source) :
    (t.run s).2.1.config = s.config ∧ (t.run s).2.1.client = s.client := by
  have h := t.run_comes s
  generalize t.run s = r at h
  cases h with
  | invalidated => simp
  | copied => simp
  | served => simp
  | cancelled => simp
  | ended _ _ _ he => exact he.config_client_eq

/-- What is fetched does not depend on the keys at hand. -/
lemma yield_congr {s' : Source} (h : s'.config = s.config ∧ s'.client = s.client) :
    t.yield s' = t.yield s := by
  rw [yield, yield, came, came, played, played, h.1, h.2]

end Turn

end Keyring.Source
