import Keyring.Http.KeyDocument
import Keyring.Metrics
import Keyring.Snapshot
import Keyring.Token

/-!
A source of keys that fetches them when it has to.

Only one call at a time works on a source; other calls wait for the lock. A call begins with a
reading of the clock: keys that are not stale are served at once. Otherwise keys are fetched, and
the clock is read again when they have arrived or when that has failed. A call that is cancelled
while it fetches leaves the source as its beginning has left it.

* `Source.ofConfig`: a source without keys.
* `Source.start`: the beginning of a call.
* `Source.finish`: its end, after fetching.
* `Source.keys`: a whole call; `Source.verify`: a call on behalf of a token.
* `Source.keysInTurn`: calls that wait for each other.
* `Source.invalidate`: drops the keys.
-/

namespace Keyring

/-- A source of keys. -/
structure Source where
  /-- the configuration -/
  config : Config
  /-- the client that fetches -/
  client : Http.Client
  /-- the keys at hand -/
  snapshot : Snapshot
  /-- what has been counted -/
  counters : Metrics.Counters
  /-- what has been measured, by name and labels -/
  registry : Metrics.Registry
  deriving Repr, BEq

namespace Source

/-- A source without keys, if its configuration can be used. -/
def ofConfig (config : Config) (client : Http.Client) : Except Error Source :=
  match config.validate with
  | .error e => .error e
  | .ok () => .ok ⟨config, client, Snapshot.empty, Metrics.Counters.zero, []⟩

/-- The source after an event. -/
def observe (s : Source) (e : Metrics.Event) : Source :=
  { s with
    counters := s.counters.record e
    registry := s.registry.record s.config.keyUrl.render e }

/-- The source with other keys. -/
def install (s : Source) (snapshot : Snapshot) : Source := { s with snapshot }

/-- The source without keys. -/
def invalidate (s : Source) : Source := s.install Snapshot.empty

/-! ### Fetching -/

/-- The keys of a document that arrived at an instant: they may be used from then on for as long as
its headers say. -/
def snapshotOf (document : Http.KeyDocument) (now : Instant) : Except Error Snapshot :=
  match PublishedKey.ofDocument document.body with
  | .error e => .error e
  | .ok keys =>
    match document.headers.maxAge with
    | .error e => .error e
    | .ok lifetime =>
      match now.add? lifetime.toDelta with
      | some expiresAt => .ok ⟨keys, expiresAt⟩
      | none => .error (.format (.lifetime lifetime.seconds))

/-- What fetching came to, as keys to install and the time that it took. -/
def refreshed (fetched : Except Error Http.KeyDocument) (now : Instant) :
    Except Error (Snapshot × Duration) :=
  match fetched with
  | .error e => .error e
  | .ok document => (snapshotOf document now).map fun fresh => (fresh, document.elapsed)

/-! ### Calls -/

/-- A call: the client it fetches with, and what the clock shows whenever it is read. -/
structure Call where
  /-- a client in place of the usual one -/
  client : Option Http.Client
  /-- the reading at the beginning -/
  begun : Instant
  /-- the reading when keys have arrived -/
  arrived : Instant
  /-- the reading when fetching has failed -/
  failed : Instant
  /-- whether the call is cancelled as soon as it would wait -/
  cancelled : Bool
  deriving Repr, DecidableEq

/-- A call with an unmoved clock. -/
def Call.at (now : Instant) (client : Option Http.Client) (cancelled : Bool) : Call :=
  ⟨client, now, now, now, cancelled⟩

/-- How a call goes on from its beginning. -/
inductive Started where
  /-- The keys at hand are served. -/
  | served (keys : List PublishedKey)
  /-- Keys have to be fetched; the ones before may be kept for the case that this fails. -/
  | fetching (previous : Option Snapshot)
  deriving Repr, DecidableEq

/-- The beginning of a call. -/
def start (s : Source) (now : Instant) : Started × Source :=
  if s.snapshot.isStale now then
    let s := s.observe .miss
    match s.config.failurePolicy with
    | .clear => (.fetching none, s.invalidate)
    | .serveStale => (.fetching (some s.snapshot), s)
  else (.served s.snapshot.keys, s.observe .hit)

/-- The keys from before that may be served although fetching failed. -/
def fallback? (s : Source) (previous : Option Snapshot) (now : Instant) : Option Snapshot :=
  previous.filter fun p => p.mayOutlive s.config.staleWhileError now

/-- The end of a call that had to fetch. -/
def finish (s : Source) (previous : Option Snapshot) (call : Call)
    (fetched : Except Error Http.KeyDocument) : Except Error (List PublishedKey) × Source :=
  match refreshed fetched call.arrived with
  | .ok (fresh, took) => (.ok fresh.keys, (s.install fresh).observe (.success took))
  | .error e =>
    let s := s.observe .failure
    match s.fallback? previous call.failed with
    | some p => (.ok p.keys, s.observe .stale)
    | none => (.error e, s.invalidate)

/-- What a call comes to; none if it is cancelled. -/
abbrev Outcome (α : Type) := Option (Except Error α)

/-- A whole call. One that waits for too long fails like one that is not answered. -/
def keys {σ : Type} (send : Http.Transport σ) (s : Source) (call : Call) (net : σ) :
    Outcome (List PublishedKey) × Source × σ :=
  match s.start call.begun with
  | (.served keys, s) => (some (.ok keys), s, net)
  | (.fetching previous, s) =>
    match Http.KeyDocument.fetch send (call.client.getD s.client) s.config net with
    | (.ended fetched, net) =>
      let (r, s) := s.finish previous call fetched
      (some r, s, net)
    | (.waiting, net) =>
      if call.cancelled then (none, s, net)
      else
        let (r, s) := s.finish previous call (Http.KeyDocument.timedOut s.config)
        (some r, s, net)

/-- Calls that came together: each is served after the ones before it. -/
def keysInTurn {σ : Type} (send : Http.Transport σ) (s : Source) :
    List Call → σ → List (Outcome (List PublishedKey)) × Source × σ
  | [], net => ([], s, net)
  | call :: more, net =>
    let (r, s, net) := s.keys send call net
    let (rs, s, net) := keysInTurn send s more net
    (r :: rs, s, net)

/-- The key id that a token is signed with. The source is only asked for keys if the token claims
one. -/
def verify {σ : Type} (send : Http.Transport σ) (s : Source) (call : Call) (token : String)
    (net : σ) : Outcome String × Source × σ :=
  match Token.claim token with
  | .error e => (some (.error e), s, net)
  | .ok (t, kid) =>
    let (r, s, net) := s.keys send call net
    (r.map fun r => r.bind fun keys => Token.checkClaim t kid keys, s, net)

end Source

end Keyring
