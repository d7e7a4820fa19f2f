import Mathlib.Tactic
import Keyring.Proofs.Source.Turn

/-!
Concurrent operations on one source.

Clones of a source share one lock. An operation is queued for the lock, acquires it, and holds it
until its end. A refresh takes several steps; between two of them the clock may be set, further
operations may be queued or abandon the queue, and a reply may come. An operation may be cancelled
wherever it waits, in the queue or for a reply. The lock is assumed to be fair: `Shared.step` gives
it to one operation at a time, in the order of the queue, as soon as it is free.

* `Phase`, `Holder`: how far an operation has come since it acquired the lock.
* `Holder.proceed`, `Holder.reply`, `Holder.cancel`: its steps, made of `Source.start`,
  `Http.Fetching` and `Source.finish`.
* `Shared`, `Move`, `Shared.step`, `Shared.run`: the source, its lock and all operations. A move
  that is not possible changes nothing, so that every list of moves is a run.
* `Shared.run_append`: a run of two lists of moves.
-/

namespace Keyring.Source

open Http (Fetching KeyDocument Reply Request)

/-! ### An operation that holds the lock -/

/-- How far an operation has come since it acquired the lock. -/
inductive Phase where
  /-- The lock is acquired, and nothing is done yet. -/
  | acquired
  /-- The keys were stale and are fetched; the previous ones may be kept for the case that this
  fails. -/
  | fetching (previous : Option Snapshot) (progress : Fetching)
  /-- Fetching has ended, and the clock has been read. -/
  | arrived (previous : Option Snapshot) (fetched : Except Error KeyDocument)
  /-- The answer is known, and the lock is still held. -/
  | answered (answer : Answer)
  /-- The lock is released; there is no answer if the operation was cancelled. -/
  | released (answer : Option Answer)
  deriving Repr

/-- An operation that has acquired the lock. -/
structure Holder where
  /-- the number under which it was queued -/
  number : ℕ
  /-- the operation, its readings of the clock and its replies -/
  turn : Turn
  /-- the requests that were sent for it -/
  requests : List Request
  /-- how far it has come -/
  phase : Phase
  deriving Repr

namespace Holder

/-- An operation that has just acquired the lock. -/
def acquire (number : ℕ) (operation : Operation) : Holder :=
  ⟨number, Turn.ofOperation operation, [], .acquired⟩

/-- Whether the lock is released. -/
def hasReleased (v : Holder) : Bool :=
  match v.phase with
  | .released _ => true
  | _ => false

/-- Whether a refresh is in flight: the keys were stale, and the new ones are not yet installed. -/
def isRefreshing (v : Holder) : Bool :=
  match v.phase with
  | .fetching _ _ => true
  | .arrived _ _ => true
  | _ => false

/-- The answer, as soon as it is known. -/
def answer? (v : Holder) : Option Answer :=
  match v.phase with
  | .answered answer => some answer
  | .released answer => answer
  | _ => none

/-- The first step under the lock: keys are served or have to be fetched. -/
def check (now : Instant) (s : Source) (v : Holder) : Source × Holder :=
  match v.turn.operation with
  | .keys _ =>
    let turn := { v.turn with begun := some now }
    match s.start now with
    | (.served keys, s') => (s', { v with turn, phase := .answered (.keys (.ok keys)) })
    | (.fetching previous, s') =>
      let client := v.turn.operation.client?.getD s.client
      (s', { v with turn, phase := .fetching previous (Fetching.start s.config client) })
  | .invalidate => (s.invalidate, { v with phase := .answered .done })
  | .snapshot => (s, { v with phase := .answered (.snapshot s.snapshot) })

/-- The end of a refresh: keys are installed, or the failure is dealt with. -/
def conclude (now : Instant) (s : Source) (v : Holder) (previous : Option Snapshot)
    (fetched : Except Error KeyDocument) : Source × Holder :=
  let turn := { v.turn with failed := some now }
  let r := s.finish previous turn.call fetched
  (r.2, { v with turn, phase := .answered (.keys r.1) })

/-- The next step that waits for nothing: the source and the operation after it, and the requests
that are sent. -/
def proceed (now : Instant) (s : Source) (v : Holder) : Source × Holder × List Request :=
  match v.phase with
  | .acquired => let r := v.check now s; (r.1, r.2, [])
  | .fetching previous (.asking left url) =>
    let r := Fetching.ask s.config (v.turn.operation.client?.getD s.client) left url
    (s, { v with requests := v.requests ++ r.2, phase := .fetching previous r.1 }, r.2)
  | .fetching _ (.waiting _ _) => (s, v, [])
  | .fetching previous (.ended fetched) =>
    (s, { v with turn := { v.turn with arrived := some now }, phase := .arrived previous fetched },
      [])
  | .arrived previous fetched => let r := v.conclude now s previous fetched; (r.1, r.2, [])
  | .answered answer => (s, { v with phase := .released (some answer) }, [])
  | .released _ => (s, v, [])

/-- A reply comes, or the time for it is over. -/
def reply (s : Source) (v : Holder) (r : Reply) : Holder :=
  match v.phase with
  | .fetching previous (.waiting left url) =>
    { v with
      turn := { v.turn with replies := v.turn.replies ++ [r] }
      phase :=
        .fetching previous
          (Fetching.reply s.config (v.turn.operation.client?.getD s.client) left url r) }
  | _ => v

/-- An operation is cancelled while it waits for a reply. -/
def cancel (v : Holder) : Holder :=
  match v.phase with
  | .fetching _ (.waiting _ _) =>
    { v with turn := { v.turn with cancelled := true }, phase := .released none }
  | _ => v

end Holder

/-! ### The lock and its queue -/

/-- A source with its lock, and all operations on it. -/
structure Shared where
  /-- the source -/
  source : Source
  /-- the instant that the clock shows -/
  clock : Instant
  /-- how many operations have been queued -/
  issued : ℕ
  /-- the operations that wait for the lock, under their numbers, the first one first -/
  queue : List (ℕ × Operation)
  /-- the numbers of those that were cancelled while they were queued -/
  abandoned : List ℕ
  /-- those that have acquired the lock, in this order -/
  holders : List Holder
  /-- all requests in the order in which they were sent -/
  requests : List Request
  deriving Repr

/-- What can happen. An operation that has acquired the lock is given by its place in their order.
-/
inductive Move where
  /-- The clock is set. -/
  | tick (now : Instant)
  /-- An operation is queued. -/
  | enqueue (operation : Operation)
  /-- A queued operation is cancelled. -/
  | abandon (place : ℕ)
  /-- The first operation in the queue acquires the lock, if it is free. -/
  | acquire
  /-- An operation takes its next step. -/
  | proceed (place : ℕ)
  /-- A reply to the last request of an operation comes. -/
  | reply (place : ℕ) (reply : Reply)
  /-- An operation that waits for a reply is cancelled. -/
  | cancel (place : ℕ)
  deriving Repr

namespace Shared

/-- A source before any operation. -/
def begin (s : Source) (now : Instant) : Shared := ⟨s, now, 0, [], [], [], []⟩

/-- Whether the lock is free. -/
def isFree (m : Shared) : Bool := m.holders.all Holder.hasReleased

/-- What a step of the operation at a place makes of it, of the source and of the requests. -/
def update (m : Shared) (place : ℕ) (act : Holder → Source × Holder × List Request) : Shared :=
  match m.holders[place]? with
  | some v =>
    let r := act v
    { m with
      source := r.1
      holders := m.holders.set place r.2.1
      requests := m.requests ++ r.2.2 }
  | none => m

/-- What a move makes of a shared source. -/
def step (m : Shared) : Move → Shared
  | .tick now => { m with clock := now }
  | .enqueue operation =>
    { m with issued := m.issued + 1, queue := m.queue ++ [(m.issued, operation)] }
  | .abandon place =>
    match m.queue[place]? with
    | some waiter =>
        { m with queue := m.queue.eraseIdx place, abandoned := waiter.1 :: m.abandoned }
    | none => m
  | .acquire =>
    match m.queue with
    | waiter :: queue =>
      if m.isFree then
        { m with queue, holders := m.holders ++ [Holder.acquire waiter.1 waiter.2] }
      else m
    | [] => m
  | .proceed place => m.update place fun v => v.proceed m.clock m.source
  | .reply place r => m.update place fun v => (m.source, v.reply m.source r, [])
  | .cancel place => m.update place fun v => (m.source, v.cancel, [])

/-- A source after moves, one after the other. -/
def run (s : Source) (now : Instant) (moves : List Move) : Shared := moves.foldl step (begin s now)

lemma run_append (s : Source) (now : Instant) (moves₁ moves₂ : List Move) :
    run s now (moves₁ ++ moves₂) = moves₂.foldl step (run s now moves₁) :=
  List.foldl_append

lemma run_append_singleton (s : Source) (now : Instant) (moves : List Move) (move : Move) :
    run s now (moves ++ [move]) = (run s now moves).step move := by
  rw [run_append, List.foldl_cons, List.foldl_nil]

end Shared

/-! ### A source to begin with -/

/-- The instant so many seconds after the epoch, or the first one if there is none such. -/
def sampleInstant (seconds : Int) : Instant := (Instant.ofParts? seconds 0).getD Instant.first

/-- A source for `https://a/k` without keys. -/
def sampleSource : Source :=
  ⟨Config.forUrl ⟨"https", some ⟨"", none, some (.name "a"), none⟩, .steps ["k"], none, none⟩,
    Http.Client.default, Snapshot.empty, Metrics.Counters.zero, []⟩

end Keyring.Source
