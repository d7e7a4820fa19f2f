import Mathlib.Tactic
import Keyring.Proofs.Source.Provenance
import Keyring.Proofs.Source.Serial

/-!
What a failed or cancelled refresh leaves of the keys.

* `Turn.RefreshError`: the ways in which a refresh can fail, each with its error.
* `Turn.refreshError_iff`: these are all the ways in which a turn yields no keys.
* `Turn.Unrefreshed`, `Turn.run_unrefreshed`: what a turn comes to then: the keys from before are
  kept as a whole, or there are none.
* `History.installed`: at any moment the keys at hand are all those of one answer.
* `failed_refresh_atomic`: a refresh that fails or is cancelled leaves the keys as they were or
  none, and never one of those that were refused.
-/

namespace Keyring.Source

open Http (Attempt Client Fetching KeyDocument Playback Reply Request Response)

/-! ### How a refresh can fail -/

namespace Turn

variable {t : Turn} {s : Source} {e : Error}

/-- What became of asking for the document: an answer in the end, or the reason why there is none.
-/
def followed (t : Turn) (s : Source) : Attempt (Except TransportFault Response) :=
  let client := t.operation.client?.getD s.client
  let url := Http.destination s.config.keyUrl
  (client.follow Playback.send url client.limit url (.ofReplies t.replies)).1

/-- A turn got an answer. -/
def Answered (t : Turn) (s : Source) (r : Response) : Prop :=
  Fetching.allowed s.config = .ok () ∧ t.followed s = .ended (.ok r)

/-- **The ways in which the refresh of a turn can fail**, and their errors. -/
inductive RefreshError (t : Turn) (s : Source) : Error → Prop where
  /-- Encryption is asked for, and the address does not have it. -/
  | insecure {e : Error} (h : Fetching.allowed s.config = .error e) : RefreshError t s e
  /-- The request could not be sent, was not answered, or was redirected too often. -/
  | transport {f : TransportFault} (ha : Fetching.allowed s.config = .ok ())
      (h : t.followed s = .ended (.error f)) : RefreshError t s (.transport f)
  /-- No answer came in time. -/
  | timeout (ha : Fetching.allowed s.config = .ok ()) (h : t.followed s = .waiting) :
      RefreshError t s (.transport (.unanswered (Http.destination s.config.keyUrl)))
  /-- The answer is no success. -/
  | status {r : Response} (h : t.Answered s r) (hs : r.status.isSuccess = false) :
      RefreshError t s (KeyDocument.refusal s.config r)
  /-- The answer announces more octets than are allowed. -/
  | announced {r : Response} {length : ℕ} (h : t.Answered s r) (hs : r.status.isSuccess = true)
      (ha : r.announced = some length) (hl : s.config.maxResponseBytes.toNat < length) :
      RefreshError t s (.config (.oversized s.config.maxResponseBytes))
  /-- The body has more octets than are allowed. -/
  | oversized {r : Response} (h : t.Answered s r) (hs : r.status.isSuccess = true)
      (hl : s.config.maxResponseBytes.toNat < r.body.octets.length) :
      RefreshError t s (.config (.oversized s.config.maxResponseBytes))
  /-- The body breaks off. -/
  | broken {r : Response} (h : t.Answered s r) (hs : r.status.isSuccess = true)
      (ha : ∀ length, r.announced = some length → length ≤ s.config.maxResponseBytes.toNat)
      (hl : r.body.octets.length ≤ s.config.maxResponseBytes.toNat) (hb : r.body.broken = true) :
      RefreshError t s (.transport .brokenBody)
  /-- The document is no object of texts. -/
  | json {document : KeyDocument} {f : Json.Failure} (h : t.came s = .ok document)
      (hf : Json.readDocument Json.readTextMap document.body = .error f) :
      RefreshError t s (.json f)
  /-- One of the texts is no armoured certificate with an RSA key. -/
  | key {document : KeyDocument} {members : List (String × String)} {e : Error}
      (h : t.came s = .ok document)
      (hm : Json.readDocument Json.readTextMap document.body = .ok members)
      (he : PublishedKey.ofEntries (PublishedKey.entries members) = .error e) : RefreshError t s e
  /-- The headers do not say how long the keys may be kept, or not in a way that can be read. -/
  | maxAge {document : KeyDocument} {keys : List PublishedKey} {e : Error}
      (h : t.came s = .ok document) (hk : PublishedKey.ofDocument document.body = .ok keys)
      (he : document.headers.maxAge = .error e) : RefreshError t s e
  /-- The keys may be kept for so long that there is no instant of their expiry. -/
  | expiry {document : KeyDocument} {keys : List PublishedKey} {lifetime : Duration}
      (h : t.came s = .ok document) (hk : PublishedKey.ofDocument document.body = .ok keys)
      (hl : document.headers.maxAge = .ok lifetime)
      (hn : t.call.arrived.add? lifetime.toDelta = none) :
      RefreshError t s (.format (.lifetime lifetime.seconds))

/-- What fetching came to, from what became of asking. -/
lemma came_eq (t : Turn) (s : Source) :
    t.came s = match Fetching.allowed s.config with
      | .error e => .error e
      | .ok () => ((t.followed s).document s.config).settle s.config := by
  rw [came, played, Fetching.played, Http.fetch_eq]
  cases Fetching.allowed s.config with
  | error e => rfl
  | ok u => rfl

/-- An answer is made a document, or refused. -/
lemma Answered.came_eq {r : Response} (h : t.Answered s r) :
    t.came s = KeyDocument.ofResponse s.config r := by
  rw [Turn.came_eq, h.1, h.2]
  rfl

/-- A refresh that fails yields its error. -/
lemma RefreshError.yield_eq (h : t.RefreshError s e) : t.yield s = .error e := by
  rw [yield]
  cases h with
  | insecure h => rw [Turn.came_eq, h]; rfl
  | transport ha h => rw [Turn.came_eq, ha, h]; rfl
  | timeout ha h => rw [Turn.came_eq, ha, h]; rfl
  | status h hs => rw [h.came_eq, KeyDocument.ofResponse, hs]; rfl
  | announced h hs ha hl => simp [h.came_eq, KeyDocument.ofResponse, hs, ha, hl, refreshed]
  | oversized h hs hl =>
      rw [h.came_eq, KeyDocument.ofResponse, KeyDocument.ofBody, Http.Body.take_eq, if_pos hl]
      simp [hs, refreshed]
  | @broken r h hs ha hl hb =>
      have hany : r.announced.any (s.config.maxResponseBytes.toNat < ·) = false := by
        cases hr : r.announced with
        | none => rfl
        | some length => simpa [hr] using ha length hr
      rw [h.came_eq, KeyDocument.ofResponse, KeyDocument.ofBody, Http.Body.take_eq,
        if_neg (Nat.not_lt.mpr hl), hb]
      simp [hs, hany, refreshed]
  | json h hf => simp [h, refreshed, snapshotOf, PublishedKey.ofDocument, hf, Except.map]
  | key h hm he => simp [h, refreshed, snapshotOf, PublishedKey.ofDocument, hm, he, Except.map]
  | maxAge h hk he => simp [h, refreshed, snapshotOf, hk, he, Except.map]
  | expiry h hk hl hn => simp [h, refreshed, snapshotOf, hk, hl, hn, Except.map]

/-- A document that yields no keys fails in one of these ways. -/
lemma refreshError_of_came {document : KeyDocument} (hc : t.came s = .ok document)
    (h : t.yield s = .error e) : t.RefreshError s e := by
  rw [yield, hc] at h
  cases hm : Json.readDocument Json.readTextMap document.body with
  | error f =>
      obtain rfl : .json f = e := by
        simpa [refreshed, snapshotOf, PublishedKey.ofDocument, hm, Except.map] using h
      exact .json hc hm
  | ok members =>
      have hk : PublishedKey.ofDocument document.body
          = PublishedKey.ofEntries (PublishedKey.entries members) := by
        rw [PublishedKey.ofDocument, hm]
      cases he : PublishedKey.ofEntries (PublishedKey.entries members) with
      | error e' =>
          obtain rfl : e' = e := by simpa [refreshed, snapshotOf, hk, he, Except.map] using h
          exact .key hc hm he
      | ok keys =>
          rw [he] at hk
          cases ha : document.headers.maxAge with
          | error e' =>
              obtain rfl : e' = e := by simpa [refreshed, snapshotOf, hk, ha, Except.map] using h
              exact .maxAge hc hk ha
          | ok lifetime =>
              cases hn : t.call.arrived.add? lifetime.toDelta with
              | some expiresAt => simp [refreshed, snapshotOf, hk, ha, hn, Except.map] at h
              | none =>
                  obtain rfl : .format (.lifetime lifetime.seconds) = e := by
                    simpa [refreshed, snapshotOf, hk, ha, hn, Except.map] using h
                  exact .expiry hc hk ha hn

/-- An answer that makes no document fails in one of these ways. -/
lemma refreshError_of_answered {r : Response} (ha : t.Answered s r)
    (h : KeyDocument.ofResponse s.config r = .error e) : t.RefreshError s e := by
  rw [KeyDocument.ofResponse, KeyDocument.ofBody, Http.Body.take_eq] at h
  split_ifs at h with hs hn hl
  · cases h
    exact .status ha (by simpa using hs)
  · cases h
    obtain ⟨length, hlength, hlt⟩ := (Option.any_eq_true _ _).mp hn
    exact .announced ha (by simpa using hs) hlength (of_decide_eq_true hlt)
  · cases h
    exact .oversized ha (by simpa using hs) hl
  · cases h
    refine .broken ha (by simpa using hs) (fun length hlength => ?_) (Nat.not_lt.mp hl) ‹_›
    simpa [hlength] using hn

/-- **There are no other ways to fail**: a turn yields keys, or its refresh fails in one of these.
-/
theorem refreshError_iff : t.RefreshError s e ↔ t.yield s = .error e := by
  refine ⟨RefreshError.yield_eq, fun h => ?_⟩
  cases hallowed : Fetching.allowed s.config with
  | error e' =>
      obtain rfl : e' = e := by simpa [yield, came_eq, hallowed, refreshed] using h
      exact .insecure hallowed
  | ok u =>
      cases hf : t.followed s with
      | waiting =>
          obtain rfl : .transport (.unanswered (Http.destination s.config.keyUrl)) = e := by
            simpa [yield, came_eq, hallowed, hf, refreshed, Attempt.document, Attempt.settle,
              KeyDocument.timedOut] using h
          exact .timeout hallowed hf
      | ended result =>
          cases result with
          | error f =>
              obtain rfl : .transport f = e := by
                simpa [yield, came_eq, hallowed, hf, refreshed, Attempt.document, Attempt.settle,
                  KeyDocument.ofResult] using h
              exact .transport hallowed hf
          | ok r =>
              have ha : t.Answered s r := ⟨hallowed, hf⟩
              cases hd : KeyDocument.ofResponse s.config r with
              | ok document => exact refreshError_of_came (ha.came_eq.trans hd) h
              | error e' =>
                  obtain rfl : e' = e := by simpa [yield, ha.came_eq, hd, refreshed] using h
                  exact refreshError_of_answered ha hd

/-! ### What a failed refresh leaves -/

/-- What a call that fetched no keys comes to, and what it leaves of the keys from `before`. -/
inductive Unrefreshed (policy : FailurePolicy) (before : Snapshot) :
    Option Answer → Snapshot → Prop where
  /-- The call is cancelled, and the keys are kept. -/
  | kept (hp : policy = .serveStale) : Unrefreshed policy before none before
  /-- The call is cancelled, and there are no keys. -/
  | cleared (hp : policy = .clear) : Unrefreshed policy before none Snapshot.empty
  /-- The keys are served stale, and kept. -/
  | servedStale (hp : policy = .serveStale) (hk : before.keys ≠ []) :
      Unrefreshed policy before (some (.keys (.ok before.keys))) before
  /-- The call fails, and there are no keys. -/
  | failed (e : Error) : Unrefreshed policy before (some (.keys (.error e))) Snapshot.empty

namespace Unrefreshed

variable {policy : FailurePolicy} {before after : Snapshot} {answer : Option Answer}

/-- The keys are kept if stale keys are served and the call has not failed. -/
lemma eq_before (h : Unrefreshed policy before answer after) (hp : policy = .serveStale)
    (ha : answer = none ∨ answer = some (.keys (.ok before.keys))) : after = before := by
  cases h with
  | kept => rfl
  | cleared hc => simp [hp] at hc
  | servedStale => rfl
  | failed e => simp at ha

/-- Unless stale keys are served and the call was cancelled or has answered them, no keys are left.
-/
lemma eq_empty (h : Unrefreshed policy before answer after)
    (hno : ¬ (policy = .serveStale
      ∧ (answer = none ∨ answer = some (.keys (.ok before.keys))))) : after = Snapshot.empty := by
  cases h with
  | kept hp => exact absurd ⟨hp, .inl rfl⟩ hno
  | cleared => rfl
  | servedStale hp => exact absurd ⟨hp, .inr rfl⟩ hno
  | failed e => rfl

/-- A call that is not cancelled answers the keys from before, or an error and there are none. -/
lemma answered (h : Unrefreshed policy before answer after) (ha : answer ≠ none) :
    (∃ e, answer = some (.keys (.error e)) ∧ after = Snapshot.empty)
      ∨ answer = some (.keys (.ok before.keys)) ∧ after.keys ≠ [] := by
  cases h with
  | kept => exact absurd rfl ha
  | cleared => exact absurd rfl ha
  | servedStale hp hk => exact .inr ⟨rfl, hk⟩
  | failed e => exact .inl ⟨e, rfl, rfl⟩

end Unrefreshed

/-- **A call whose refresh fails or is cancelled** keeps all keys or none; and its error, if it has
one, is that of the refresh. -/
theorem run_unrefreshed {client : Option Client} (ho : t.operation = .keys client)
    (hs : s.snapshot.isStale t.call.begun = true)
    (hbad : (t.run s).1 = none ∨ ∃ e, t.RefreshError s e) :
    Unrefreshed s.config.failurePolicy s.snapshot (t.run s).1 (t.run s).2.1.snapshot
      ∧ ∀ e e', t.RefreshError s e → (t.run s).1 = some (.keys (.error e')) → e' = e := by
  have hcomes := t.run_comes s
  generalize t.run s = r at hcomes hbad ⊢
  cases hcomes with
  | invalidated ho' => simp [ho] at ho'
  | copied ho' => simp [ho] at ho'
  | served _ hs' => simp [hs] at hs'
  | cancelled _ _ _ =>
      refine ⟨?_, by simp⟩
      dsimp only
      rw [asking_snapshot]
      split_ifs with hp
      · exact .cleared hp
      · exact .kept (by cases h : s.config.failurePolicy <;> simp_all)
  | ended _ _ _ he =>
      obtain ⟨e, hm⟩ := hbad.resolve_left (by simp)
      have hy := hm.yield_eq
      cases he with
      | installed hr => rw [yield, hr] at hy; simp at hy
      | servedStale hr hp hw =>
          refine ⟨?_, by simp⟩
          have hkept : s.asking.snapshot = s.snapshot := by
            rw [asking_snapshot, if_neg (by simp [hp])]
          simpa [hkept] using Unrefreshed.servedStale hp (Snapshot.mayOutlive_eq_true_iff.mp hw).1
      | @failed e₁ hr hno =>
          refine ⟨.failed _, fun e₂ e' hm₂ h => ?_⟩
          have hy₂ := hm₂.yield_eq
          rw [yield, hr] at hy₂
          cases h
          exact Except.error.inj hy₂

end Turn

/-! ### Where the keys at hand are from -/

variable {s s₀ : Source}

/-- The keys at hand, if there are any, are all those of one answer, whose refresh did not fail. -/
def Installed (s₀ : Source) (holders : List Holder) (snapshot : Snapshot) : Prop :=
  snapshot.keys = [] ∨ ∃ w ∈ holders, ∃ r,
    Delivery s₀ w.turn r snapshot.keys snapshot.expiresAt ∧ ∀ e, ¬ w.turn.RefreshError s₀ e

/-- A refresh that delivered keys has not failed. -/
lemma Delivery.not_refreshError {t : Turn} {r : Response} {keys : List PublishedKey}
    {expiry : Instant}
    {e : Error} (h : Delivery s t r keys expiry) : ¬ t.RefreshError s e := by
  intro hm
  have hy := hm.yield_eq
  rw [h.installs] at hy
  simp at hy

lemma Provenance.installed {holders : List Holder} {snapshot : Snapshot}
    (h : Provenance s₀ holders snapshot) : Installed s₀ holders snapshot := by
  rcases h with h | ⟨before, w, between, r, rfl, hd, -⟩
  · exact .inl h
  · exact .inr ⟨w, by simp, r, hd, fun _ => hd.not_refreshError⟩

/-- Later operations do not change where installed keys are from. -/
lemma Installed.snoc {holders : List Holder} {snapshot : Snapshot} {v : Holder}
    (h : Installed s₀ holders snapshot) : Installed s₀ (holders ++ [v]) snapshot := by
  rcases h with h | ⟨w, hw, rest⟩
  · exact .inl h
  · exact .inr ⟨w, List.mem_append_left _ hw, rest⟩

lemma Installed.asking {holders : List Holder} (h : Installed s₀ holders s.snapshot) :
    Installed s₀ holders s.asking.snapshot := by
  rw [asking_snapshot]
  split_ifs
  · exact .inl rfl
  · exact h

/-- **At any moment**, also while the lock is held, the keys at hand are all those of one answer, or
there are none. -/
theorem History.installed {holders : List Holder} {asked : List Request}
    (h : History s₀ holders s asked) (hs₀ : s₀.snapshot.keys = []) :
    Installed s₀ holders s.snapshot := by
  cases h with
  | nil => exact .inl hs₀
  | @snoc past s₁ _ asked v h hpast hv =>
      have hprov := h.provenance hpast hs₀
      have hbefore : Installed s₀ (past ++ [v]) s₁.snapshot := hprov.installed.snoc
      -- an operation has done what its turn does at once, or has only begun
      by_cases hdone : v.hasReleased = true ∨ v.answer?.isSome = true
      · obtain ⟨hrun, hcomplete⟩ := hv.run_eq hdone
        have hafter := hprov.run (h.config_client_eq hpast) hcomplete
        rw [hrun] at hafter
        exact hafter.installed
      · have hfetches : ∀ {previous progress}, v.Fetches s₁ s previous progress →
            Installed s₀ (past ++ [v]) s.snapshot := fun hf => by
          rw [(start_eq_fetching hf.start).2.2]
          exact hbefore.asking
        cases hp : v.phase with
        | acquired =>
            simp only [Holder.Accords, hp] at hv
            rw [hv.1]
            exact hbefore
        | fetching previous progress =>
            simp only [Holder.Accords, hp] at hv
            exact hfetches hv
        | arrived previous fetched =>
            simp only [Holder.Accords, hp] at hv
            exact hfetches hv.1
        | answered answer => simp [Holder.answer?, hp] at hdone
        | released answer => simp [Holder.hasReleased, hp] at hdone

/-! ### From one moment at which the lock is free to the next -/

namespace Shared

/-- A step of an operation changes none that has released the lock. -/
lemma update_holders {m : Shared} {past later : List Holder} (hm : m.holders = past ++ later)
    (hpast : past.all Holder.hasReleased = true) (place : ℕ)
    {act : Holder → Source × Holder × List Request}
    (hact : ∀ v, v.hasReleased = true → (act v).2.1 = v) :
    ∃ later', (m.update place act).holders = past ++ later' := by
  rw [Shared.update]
  cases hv : m.holders[place]? with
  | none => exact ⟨later, hm⟩
  | some v =>
      dsimp only
      rw [hm] at hv ⊢
      by_cases hp : place < past.length
      · rw [List.getElem?_append_left hp] at hv
        obtain ⟨_, hget⟩ := List.getElem?_eq_some_iff.mp hv
        have hout := List.all_eq_true.mp hpast v (List.mem_of_getElem? hv)
        refine ⟨later, ?_⟩
        rw [hact v hout, List.set_append_left _ _ hp, ← hget, List.set_getElem_self]
      · exact ⟨_, List.set_append_right _ _ (Nat.not_lt.mp hp)⟩

/-- **An operation that has released the lock does not change any more**, and those that acquire it
later come after it. -/
lemma exists_holders_eq_append {s : Source} {now : Instant} {moves₁ : List Move}
    (hfree : (run s now moves₁).isFree = true) (moves₂ : List Move) :
    ∃ later, (run s now (moves₁ ++ moves₂)).holders = (run s now moves₁).holders ++ later := by
  induction moves₂ using List.reverseRecOn with
  | nil => exact ⟨[], by simp⟩
  | append_singleton moves₂ move ih =>
      obtain ⟨later, hl⟩ := ih
      rw [← List.append_assoc, run_append_singleton]
      cases move with
      | tick now => exact ⟨later, hl⟩
      | enqueue operation => exact ⟨later, hl⟩
      | abandon place =>
          rw [Shared.step]
          split <;> exact ⟨later, hl⟩
      | acquire =>
          rw [Shared.step]
          split
          · split_ifs
            · exact ⟨_, by rw [hl, List.append_assoc]⟩
            · exact ⟨later, hl⟩
          · exact ⟨later, hl⟩
      | proceed place =>
          exact update_holders hl hfree place fun v hv => by rw [Holder.proceed_of_hasReleased _ hv]
      | reply place r =>
          exact update_holders hl hfree place fun v hv => Holder.reply_of_hasReleased r hv
      | cancel place =>
          exact update_holders hl hfree place fun v hv => Holder.cancel_of_hasReleased hv

end Shared

namespace History

variable {past : List Holder} {asked asked' : List Request} {v : Holder}

/-- The last operation has left the source as it is. -/
lemma last (h : History s₀ (past ++ [v]) s asked) :
    ∃ s₁ asked₁, History s₀ past s₁ asked₁ ∧ past.all Holder.hasReleased = true
      ∧ v.Accords s₁ s := by
  generalize hholders : past ++ [v] = holders at h
  cases h with
  | nil => simp at hholders
  | @snoc past' s₁ s₂ asked₁ v' h hpast hv =>
      obtain ⟨rfl, hlast⟩ := List.append_inj' hholders rfl
      obtain rfl : v = v' := List.head_eq_of_cons_eq hlast
      exact ⟨s₁, asked₁, h, hpast, hv⟩

/-- Operations that have released the lock determine the source after them. -/
lemma source_eq {s' : Source} (h : History s₀ past s asked) (h' : History s₀ past s' asked')
    (hout : past.all Holder.hasReleased = true) : s = s' := by
  have heq := (h.runInTurn_eq hout).symm.trans (h'.runInTurn_eq hout)
  exact (Prod.mk.inj (Prod.mk.inj heq).2).1

end History

/-- **A refresh that fails or is cancelled leaves all keys or none.** A call finds the keys stale,
and its refresh fails, or the call is cancelled. Then the keys are the same as before, with the same
expiry, if stale keys are served and the call was cancelled or has answered them; in all other cases
there are none. A call that is not cancelled answers these keys or the error of the refresh, the
latter exactly if there are no keys left. And the keys at hand are never those of a refresh that
failed: at any moment they are all those of the answer to another one. -/
theorem failed_refresh_atomic {config : Config} {client : Client} {override : Option Client}
    {now : Instant} {moves₁ moves₂ : List Move} {v : Holder}
    (hs : ofConfig config client = .ok s)
    (hfree : (Shared.run s now moves₁).isFree = true)
    (hv : (Shared.run s now (moves₁ ++ moves₂)).holders = (Shared.run s now moves₁).holders ++ [v])
    (hout : v.hasReleased = true) (ho : v.turn.operation = .keys override)
    (hstale : (Shared.run s now moves₁).source.snapshot.isStale v.turn.call.begun = true)
    (hbad : v.answer? = none ∨ ∃ e, v.turn.RefreshError (Shared.run s now moves₁).source e) :
    let before := (Shared.run s now moves₁).source.snapshot
    let after := (Shared.run s now (moves₁ ++ moves₂)).source.snapshot
    let kept : Prop := config.failurePolicy = .serveStale
      ∧ (v.answer? = none ∨ v.answer? = some (.keys (.ok before.keys)))
    (kept → after = before) ∧ (¬ kept → after = Snapshot.empty)
      ∧ (before ≠ Snapshot.empty → (after = before ↔ kept))
      ∧ (∀ e, v.answer? ≠ none → v.turn.RefreshError (Shared.run s now moves₁).source e →
        (v.answer? = some (.keys (.error e)) ∨ v.answer? = some (.keys (.ok before.keys)))
          ∧ (v.answer? = some (.keys (.error e)) ↔ after = Snapshot.empty))
      ∧ ∀ moves, Installed s (Shared.run s now moves).holders
          (Shared.run s now moves).source.snapshot := by
  intro before after kept
  have h₁ := run_history s now moves₁
  have h₂ := run_history s now (moves₁ ++ moves₂)
  rw [hv] at h₂
  -- the call was alone on the source as the moves before it have left it
  obtain ⟨s₁, _, h, -, hacc⟩ := h₂.last
  obtain rfl := h.source_eq h₁ hfree
  obtain ⟨hrun, -⟩ := hacc.run_eq (.inl hout)
  have hconfig : (Shared.run s now moves₁).source.config.failurePolicy = config.failurePolicy := by
    rw [(h₁.config_client_eq hfree).1, ofConfig_config hs]
  obtain ⟨hunrefreshed, herror⟩ := Turn.run_unrefreshed ho hstale (by rw [hrun]; exact hbad)
  rw [hrun, hconfig] at hunrefreshed
  rw [hrun] at herror
  have hkept : kept → after = before := fun h => hunrefreshed.eq_before h.1 h.2
  have hempty : ¬ kept → after = Snapshot.empty := hunrefreshed.eq_empty
  refine ⟨hkept, hempty, fun hne => ⟨fun heq => ?_, hkept⟩, fun e ha hm => ?_, fun moves => ?_⟩
  · by_contra hno
    exact hne (heq.symm.trans (hempty hno))
  · rcases hunrefreshed.answered ha with ⟨e', he', hnone⟩ | ⟨hgot, hsome⟩
    · obtain rfl := herror e e' hm he'
      exact ⟨.inl he', fun _ => hnone, fun _ => he'⟩
    · have hafter : after ≠ Snapshot.empty := fun h => hsome (congrArg Snapshot.keys h)
      exact ⟨.inr hgot, fun h => absurd (hgot.symm.trans h) (by simp), fun h => absurd h hafter⟩
  · exact (run_history s now moves).installed (by rw [ofConfig_snapshot hs]; rfl)

/-! ### A source that keeps its keys -/

/-- A source that serves stale keys. -/
def lenientSource : Source :=
  { sampleSource with config := { sampleSource.config with failurePolicy := .serveStale } }

/-- A call for keys gets a reply with keys for a minute. -/
def firstMoves : List Move := [
  .enqueue (.keys none), .acquire, .proceed 0, .proceed 0, .tick (sampleInstant 5),
  .reply 0 (.response sampleResponse), .proceed 0, .proceed 0, .proceed 0]

/-- After this minute another call gets no answer. -/
def laterMoves : List Move := [
  .tick (sampleInstant 70), .enqueue (.keys none), .acquire, .proceed 1, .proceed 1,
  .reply 1 .failure, .proceed 1, .proceed 1, .proceed 1]

/-- The second call is served the keys from before, which stay as they are. -/
theorem failed_refresh_atomic_sample :
    let m₁ := Shared.run lenientSource (sampleInstant 0) firstMoves
    let m₂ := Shared.run lenientSource (sampleInstant 0) (firstMoves ++ laterMoves)
    ∃ v, ofConfig lenientSource.config lenientSource.client = .ok lenientSource
      ∧ m₁.isFree = true ∧ m₂.holders = m₁.holders ++ [v] ∧ v.hasReleased = true
      ∧ v.turn.operation = .keys none
      ∧ m₁.source.snapshot.isStale v.turn.call.begun = true
      ∧ (∃ e, v.turn.RefreshError m₁.source e)
      ∧ v.answer? = some (.keys (.ok m₁.source.snapshot.keys))
      ∧ m₁.source.snapshot = ⟨[sampleKey], sampleInstant 65⟩
      ∧ m₂.source.snapshot = m₁.source.snapshot := by
  intro m₁ m₂
  have hs : ofConfig lenientSource.config lenientSource.client = .ok lenientSource := by
    rw [ofConfig, show lenientSource.config.validate = .ok () from rfl]
    rfl
  have hrun : m₁.isFree = true ∧ m₁.source.snapshot = ⟨[sampleKey], sampleInstant 65⟩
      ∧ m₁.holders.length = 1 ∧ m₂.holders.map (fun v => (v.hasReleased, v.turn.operation))
        = [(true, .keys none), (true, .keys none)]
      ∧ m₂.holders.map (fun v => (v.turn.call.begun, v.turn.replies, v.answer?.bind Answer.keys?))
        = [(sampleInstant 0, [.response sampleResponse], some [sampleKey]),
          (sampleInstant 70, [.failure], some [sampleKey])] := by decide +kernel
  obtain ⟨hfree, hsnapshot, hlength, hfirst, hsecond⟩ := hrun
  -- the call whose refresh fails is the only one after the first
  obtain ⟨v₀, hv₀⟩ := List.length_eq_one_iff.mp hlength
  obtain ⟨later, hlater⟩ := Shared.exists_holders_eq_append hfree laterMoves
  have hholders : m₂.holders = v₀ :: later := by rw [← List.singleton_append, ← hv₀]; exact hlater
  rw [hholders] at hfirst hsecond
  obtain ⟨v, rfl⟩ : ∃ v, later = [v] :=
    List.length_eq_one_iff.mp (by simpa using congrArg List.length hfirst)
  simp only [List.map_cons, List.map_nil, List.cons.injEq, Prod.mk.injEq, and_true]
    at hfirst hsecond
  obtain ⟨-, hout, ho⟩ := hfirst
  obtain ⟨-, hbegun, hreplies, hkeys⟩ := hsecond
  have hstale : m₁.source.snapshot.isStale v.turn.call.begun = true := by
    rw [hsnapshot, hbegun]
    decide
  obtain ⟨hconfig, hclient⟩ := (run_history lenientSource _ firstMoves).config_client_eq hfree
  -- its request is not answered
  have hrefreshError : v.turn.RefreshError m₁.source
      (.transport (.unanswered (Http.destination lenientSource.config.keyUrl))) := by
    refine .transport ?_ ?_
    · rw [hconfig]
      rfl
    · have hnamed : Http.isRequestable (Http.destination lenientSource.config.keyUrl) = true := by
        decide +kernel
      rw [Turn.followed, hreplies, ho, hconfig, hclient, Http.follow_requestable _ _ _ _ hnamed]
      rfl
  obtain ⟨answer, hanswer, hgot⟩ := Option.bind_eq_some_iff.mp hkeys
  rw [Answer.keys?_eq_some.mp hgot] at hanswer
  have hv : m₂.holders = m₁.holders ++ [v] := hlater
  have hatomic := failed_refresh_atomic hs hfree hv hout ho hstale (.inr ⟨_, hrefreshError⟩)
  have hanswer' : v.answer? = some (.keys (.ok m₁.source.snapshot.keys)) := by
    rw [hsnapshot, hanswer]
  exact ⟨v, hs, hfree, hv, hout, ho, hstale, ⟨_, hrefreshError⟩, hanswer', hsnapshot,
    hatomic.1 ⟨rfl, .inr hanswer'⟩⟩

end Keyring.Source
