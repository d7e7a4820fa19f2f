import Mathlib.Tactic
import Keyring.Proofs.Source.Shared
import Keyring.Proofs.Token.Verdict

/-!
Accesses to a source, one after the other.

An access is an operation on a source, or the verification of a token, together with its inputs: the
readings of the clock and the replies to the requests. An access that calls for keys is decided by
what the call comes to.

* `Access`, `Result`, `Access.run`: calling for keys, verifying a token, dropping the keys and
  copying them.
* `Access.call?`, `Access.conclude`: the call for keys of an access, and its result by that of the
  call; `Access.run_of_call` says that this is all.
* `Call.came`, `Access.fetched?`: what fetching comes to, and the keys that are installed.
* `Access.run_of_isStale`: an access that has to fetch.
* `Access.run_of_fetched`: keys that are fetched are installed and handed out.
* `runAccesses`, `after`, `lastFetched`: accesses one after the other, the source after them, and
  the keys that the last successful refresh brought.
-/

namespace Keyring.Source

open Http (Attempt Fetching KeyDocument Playback Reply Request)

/-! ### Accesses -/

/-- An access to a source, and its inputs. -/
inductive Access where
  /-- A call for keys. -/
  | keys (call : Call) (replies : List Reply)
  /-- The verification of a token. -/
  | verify (token : String) (call : Call) (replies : List Reply)
  /-- The keys are dropped. -/
  | invalidate
  /-- The keys at hand are copied. -/
  | copy
  deriving Repr, DecidableEq

/-- What an access comes to. -/
inductive Result where
  | keys (outcome : Outcome (List PublishedKey))
  | verified (outcome : Outcome String)
  | done
  | copy (snapshot : Snapshot)
  deriving Repr

namespace Call

/-- Fetching on a call, with recorded replies. -/
def played (call : Call) (replies : List Reply) (s : Source) :
    Attempt (Except Error KeyDocument) × Playback :=
  Fetching.played s.config (call.client.getD s.client) replies

/-- What fetching comes to on a call that is not cancelled. -/
def came (call : Call) (replies : List Reply) (s : Source) : Except Error KeyDocument :=
  (call.played replies s).1.settle s.config

/-- Whether a call is cancelled while it fetches. -/
def isCancelled (call : Call) (replies : List Reply) (s : Source) : Bool :=
  (call.played replies s).1.isWaiting && call.cancelled

end Call

namespace Access

/-- An access alone: its result, the source after it, and the requests that were sent. -/
def run (e : Access) (s : Source) : Result × Source × List Request :=
  match e with
  | .keys call replies =>
    let (r, s, net) := s.keys Playback.send call (.ofReplies replies)
    (.keys r, s, net.asked)
  | .verify token call replies =>
    let (r, s, net) := s.verify Playback.send call token (.ofReplies replies)
    (.verified r, s, net.asked)
  | .invalidate => (.done, s.invalidate, [])
  | .copy => (.copy s.snapshot, s, [])

/-- The call for keys of an access. A token that claims no key id is verified without one. -/
def call? : Access → Option (Call × List Reply)
  | .keys call replies => some (call, replies)
  | .verify token call replies =>
    match Token.claim token with
    | .ok _ => some (call, replies)
    | .error _ => none
  | .invalidate => none
  | .copy => none

/-- The result of an access by that of its call. -/
def conclude (e : Access) (outcome : Outcome (List PublishedKey)) : Result :=
  match e with
  | .verify token _ _ => .verified (Token.judge outcome token)
  | _ => .keys outcome

/-- The readings of the clock for an access, in their order. One that is not taken may be thought of
as the one before it. -/
def readings (e : Access) : List Instant :=
  match e.call? with
  | some (call, _) => [call.begun, call.arrived, call.failed]
  | none => []

/-- The keys that an access fetches and installs, with the instant of their expiry. -/
def fetched? (e : Access) (s : Source) : Option Snapshot :=
  match e.call? with
  | some (call, replies) =>
    if s.snapshot.isStale call.begun then
      (refreshed (call.came replies s) call.arrived).toOption.map Prod.fst
    else none
  | none => none

variable {e : Access} {s : Source} {call : Call} {replies : List Reply}

/-- An access that calls for keys is decided by the call. -/
lemma run_of_call (h : e.call? = some (call, replies)) :
    e.run s = let r := s.keys Playback.send call (.ofReplies replies)
      (e.conclude r.1, r.2.1, r.2.2.asked) := by
  cases e with
  | keys call' replies' =>
      cases h
      rfl
  | verify token call' replies' =>
      cases hc : Token.claim token with
      | error e => simp [call?, hc] at h
      | ok c =>
          obtain ⟨rfl, rfl⟩ : call' = call ∧ replies' = replies := by simpa [call?, hc] using h
          simp only [run, Source.verify, conclude, Token.judge, hc]
  | invalidate => cases h
  | copy => cases h

/-- An access without a call sends nothing, and changes nothing unless it drops the keys. -/
lemma run_of_no_call (h : e.call? = none) (hno : e ≠ .invalidate) :
    (e.run s).2 = (s, []) := by
  cases e with
  | keys call replies => cases h
  | verify token call replies =>
      cases hc : Token.claim token with
      | error e => simp only [run, Source.verify, hc, Playback.ofReplies]
      | ok c => simp [call?, hc] at h
  | invalidate => exact absurd rfl hno
  | copy => rfl

/-- The result of an access without a call does not depend on the source, unless the keys are
copied. -/
lemma run_fst_of_no_call {s' : Source} (h : e.call? = none) (hno : e ≠ .copy) :
    (e.run s).1 = (e.run s').1 := by
  cases e with
  | keys call replies => cases h
  | verify token call replies =>
      cases hc : Token.claim token with
      | error e => simp only [run, Source.verify, hc]
      | ok c => simp [call?, hc] at h
  | invalidate => rfl
  | copy => exact absurd rfl hno

/-- Keys that are not stale are handed out without a request. -/
lemma run_of_not_isStale (h : e.call? = some (call, replies))
    (hs : s.snapshot.isStale call.begun = false) :
    e.run s = (e.conclude (some (.ok s.snapshot.keys)), s.observe .hit, []) := by
  rw [run_of_call h, keys_of_not_isStale _ _ hs]
  rfl

/-- Where the keys are stale, they are fetched until the call is cancelled or ends. -/
lemma run_of_isStale (h : e.call? = some (call, replies))
    (hs : s.snapshot.isStale call.begun = true) :
    e.run s
      = if call.isCancelled replies s then
          (e.conclude none, s.asking, (call.played replies s).2.asked)
        else
          let r := s.asking.finish s.kept? call (call.came replies s)
          (e.conclude (some r.1), r.2, (call.played replies s).2.asked) := by
  have hk : s.keys Playback.send call (.ofReplies replies)
      = if call.isCancelled replies s then (none, s.asking, (call.played replies s).2)
        else
          let r := s.asking.finish s.kept? call (call.came replies s)
          (some r.1, r.2, (call.played replies s).2) :=
    keys_of_isStale _ _ hs
  rw [run_of_call h, hk]
  dsimp only
  split_ifs <;> rfl

lemma run_config_client (e : Access) (s : Source) :
    (e.run s).2.1.config = s.config ∧ (e.run s).2.1.client = s.client := by
  cases hc : e.call? with
  | none =>
      by_cases hi : e = .invalidate
      · subst hi
        exact ⟨rfl, rfl⟩
      · rw [run_of_no_call hc hi]
        exact ⟨rfl, rfl⟩
  | some made =>
      obtain ⟨call, replies⟩ := made
      cases hs : s.snapshot.isStale call.begun with
      | false =>
          rw [run_of_not_isStale hc hs]
          exact ⟨rfl, rfl⟩
      | true =>
          rw [run_of_isStale hc hs]
          split_ifs
          · exact ⟨asking_config, asking_client⟩
          · exact (finish_ends s call _).config_client_eq

/-! ### What is fetched -/

lemma refreshed_of_isCancelled (h : call.isCancelled replies s = true) :
    (refreshed (call.came replies s) call.arrived).toOption = none := by
  have hw := (Bool.and_eq_true_iff.mp h).1
  cases ha : (call.played replies s).1 with
  | ended fetched => simp [ha, Attempt.isWaiting] at hw
  | waiting =>
      simp [Call.came, ha, Attempt.settle, KeyDocument.timedOut, refreshed, Except.toOption]

/-- Keys are fetched by a call that found others stale and was not cancelled. -/
lemma fetched?_eq_some {p : Snapshot} (h : e.fetched? s = some p) :
    ∃ call replies took, e.call? = some (call, replies) ∧ s.snapshot.isStale call.begun = true
      ∧ call.isCancelled replies s = false
      ∧ refreshed (call.came replies s) call.arrived = .ok (p, took) := by
  cases hc : e.call? with
  | none => simp [fetched?, hc] at h
  | some made =>
      obtain ⟨call, replies⟩ := made
      cases hs : s.snapshot.isStale call.begun with
      | false => simp [fetched?, hc, hs] at h
      | true =>
          simp only [fetched?, hc, hs, if_true, Option.map_eq_some_iff] at h
          obtain ⟨⟨fresh, took⟩, hr, rfl⟩ := h
          refine ⟨call, replies, took, rfl, hs, ?_, ?_⟩
          · by_contra hno
            rw [refreshed_of_isCancelled (by simpa using hno)] at hr
            cases hr
          · cases hf : refreshed (call.came replies s) call.arrived with
            | error f => simp [hf, Except.toOption] at hr
            | ok pair => simpa [hf, Except.toOption] using hr

/-- Keys that are fetched are installed and handed out. -/
lemma run_of_fetched {p : Snapshot} (h : e.fetched? s = some p) :
    (e.run s).1 = e.conclude (some (.ok p.keys)) ∧ (e.run s).2.1.snapshot = p := by
  obtain ⟨call, replies, took, hc, hs, hg, hr⟩ := fetched?_eq_some h
  rw [run_of_isStale hc hs, hg, if_neg Bool.false_ne_true]
  have hends := finish_ends s call (call.came replies s)
  generalize s.asking.finish s.kept? call (call.came replies s) = r at hends
  cases hends with
  | installed hr' =>
      obtain ⟨rfl, -⟩ : _ = p ∧ _ = took := by simpa [hr] using hr'.symm
      exact ⟨rfl, rfl⟩
  | servedStale hr' => simp [hr] at hr'
  | failed hr' => simp [hr] at hr'

end Access

/-! ### Accesses one after the other -/

/-- Accesses one after the other: their results, the source after them, and all requests. -/
def runAccesses (s : Source) : List Access → List Result × Source × List Request
  | [] => ([], s, [])
  | e :: more =>
    let (result, s, asked) := e.run s
    let (results, s, asked') := runAccesses s more
    (result :: results, s, asked ++ asked')

/-- The source after some accesses. -/
def after (s : Source) (es : List Access) : Source := (runAccesses s es).2.1

/-- The keys that the last successful refresh brought. -/
def lastFetched (s : Source) : List Access → Option Snapshot
  | [] => none
  | e :: more => (lastFetched (e.run s).2.1 more).or (e.fetched? s)

variable (s : Source) (e : Access) (es : List Access)

@[simp] lemma after_nil : after s [] = s := rfl

@[simp] lemma after_cons : after s (e :: es) = after (e.run s).2.1 es := rfl

lemma after_append_singleton : after s (es ++ [e]) = (e.run (after s es)).2.1 := by
  induction es generalizing s with
  | nil => rfl
  | cons first es ih => rw [List.cons_append, after_cons, ih, after_cons]

lemma lastFetched_append_singleton :
    lastFetched s (es ++ [e]) = (e.fetched? (after s es)).or (lastFetched s es) := by
  induction es generalizing s with
  | nil => simp [lastFetched]
  | cons first es ih =>
      rw [List.cons_append, lastFetched, ih, lastFetched, after_cons, Option.or_assoc]

/-! ### An access to begin with -/

/-- A call at an instant with an unmoved clock, and what becomes of its request. -/
def sampleAccess (seconds : Int) (reply : Reply) : Access :=
  .keys (.at (sampleInstant seconds) none false) [reply]

end Keyring.Source
