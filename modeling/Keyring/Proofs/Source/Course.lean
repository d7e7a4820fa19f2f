import Mathlib.Tactic
import Keyring.Source
import Keyring.Proofs.Http.Fetching

/-!
What a call on a source can come to.

A call is decided by two things: whether the keys at hand are stale when it begins, and what
fetching came to.

* `Snapshot.isStale_eq_false_iff`, `Snapshot.mayOutlive_eq_true_iff`: how long keys may be used.
* `Source.eq_of_ofConfig`: the source before any call.
* `Source.asking`, `Source.kept?`: the source while a call fetches, and the snapshot that the call
  keeps for the case that fetching fails.
* `Source.start_of_isStale`, `Source.start_of_not_isStale`: the two beginnings.
* `Source.Ends`, `Source.finish_ends`: the three ends of a call that has to fetch: new keys are
  installed, stale ones are served because fetching failed, or the call fails.
* `Source.keys_of_isStale`, `Source.keys_of_not_isStale`: the whole call.
-/

namespace Keyring

/-! ### How long keys may be used -/

namespace Snapshot

variable {p : Snapshot} {now : Instant}

/-- Keys are not stale if there are any and the instant of their expiry is still to come. -/
lemma isStale_eq_false_iff : p.isStale now = false ↔ p.keys ≠ [] ∧ now < p.expiresAt := by
  rw [isStale, isEmpty, Bool.or_eq_false_iff, List.isEmpty_eq_false_iff, decide_eq_false_iff_not]
  exact and_congr_right fun _ => Instant.not_le

/-- Expired keys may be used if there are any and the end of the window is still to come. -/
lemma mayOutlive_eq_true_iff {window : Duration} : p.mayOutlive window now = true ↔
    p.keys ≠ [] ∧ ∃ deadline, p.expiresAt.add? window.toDelta = some deadline ∧ now < deadline := by
  rw [mayOutlive, isEmpty, Bool.and_eq_true_iff, Bool.not_eq_true', List.isEmpty_eq_false_iff]
  refine and_congr_right fun _ => ?_
  cases p.expiresAt.add? window.toDelta with
  | none => simp
  | some deadline => simp

end Snapshot

namespace Source

open Http (Attempt KeyDocument Transport)

variable {s : Source} {call : Call} {now : Instant}

/-! ### What the small steps change -/

@[simp] lemma observe_snapshot (e : Metrics.Event) : (s.observe e).snapshot = s.snapshot := rfl

@[simp] lemma observe_config (e : Metrics.Event) : (s.observe e).config = s.config := rfl

@[simp] lemma observe_client (e : Metrics.Event) : (s.observe e).client = s.client := rfl

@[simp] lemma observe_counters (e : Metrics.Event) :
    (s.observe e).counters = s.counters.record e := rfl

@[simp] lemma observe_registry (e : Metrics.Event) :
    (s.observe e).registry = s.registry.record s.config.keyUrl.render e := rfl

@[simp] lemma install_snapshot (p : Snapshot) : (s.install p).snapshot = p := rfl

@[simp] lemma install_config (p : Snapshot) : (s.install p).config = s.config := rfl

@[simp] lemma install_client (p : Snapshot) : (s.install p).client = s.client := rfl

@[simp] lemma install_counters (p : Snapshot) : (s.install p).counters = s.counters := rfl

@[simp] lemma install_registry (p : Snapshot) : (s.install p).registry = s.registry := rfl

@[simp] lemma invalidate_snapshot : s.invalidate.snapshot = Snapshot.empty := rfl

@[simp] lemma invalidate_config : s.invalidate.config = s.config := rfl

@[simp] lemma invalidate_client : s.invalidate.client = s.client := rfl

@[simp] lemma invalidate_counters : s.invalidate.counters = s.counters := rfl

@[simp] lemma invalidate_registry : s.invalidate.registry = s.registry := rfl

/-! ### A source that has just been set up -/

/-- A source that has been set up has nothing but its configuration and its client. -/
lemma eq_of_ofConfig {config : Config} {client : Http.Client} (h : ofConfig config client = .ok s) :
    s = ⟨config, client, Snapshot.empty, Metrics.Counters.zero, []⟩ := by
  rw [ofConfig] at h
  cases hv : config.validate with
  | error e => simp [hv] at h
  | ok u => simpa [hv] using h.symm

lemma ofConfig_snapshot {config : Config} {client : Http.Client}
    (h : ofConfig config client = .ok s) : s.snapshot = Snapshot.empty := by
  rw [eq_of_ofConfig h]

lemma ofConfig_config {config : Config} {client : Http.Client}
    (h : ofConfig config client = .ok s) : s.config = config := by
  rw [eq_of_ofConfig h]

/-! ### The beginning -/

/-- The source while a call fetches: under the policy `clear` it has no keys. -/
def asking (s : Source) : Source :=
  match s.config.failurePolicy with
  | .clear => (s.observe .miss).invalidate
  | .serveStale => s.observe .miss

/-- The snapshot that a call keeps while it fetches. -/
def kept? (s : Source) : Option Snapshot :=
  match s.config.failurePolicy with
  | .clear => none
  | .serveStale => some s.snapshot

@[simp] lemma asking_config : s.asking.config = s.config := by
  rw [asking]; split <;> rfl

@[simp] lemma asking_client : s.asking.client = s.client := by
  rw [asking]; split <;> rfl

@[simp] lemma asking_counters : s.asking.counters = s.counters.record .miss := by
  rw [asking]; split <;> rfl

@[simp] lemma asking_registry :
    s.asking.registry = s.registry.record s.config.keyUrl.render .miss := by
  rw [asking]; split <;> rfl

lemma asking_snapshot :
    s.asking.snapshot = if s.config.failurePolicy = .clear then Snapshot.empty else s.snapshot := by
  rw [asking]; split <;> simp_all

/-- A call that finds the keys stale begins to fetch. -/
lemma start_of_isStale (h : s.snapshot.isStale now = true) :
    s.start now = (.fetching s.kept?, s.asking) := by
  rw [start, kept?, asking, if_pos h]
  dsimp only [observe_config]
  cases s.config.failurePolicy <;> rfl

/-- A call that finds keys which are not stale is served with them. -/
lemma start_of_not_isStale (h : s.snapshot.isStale now = false) :
    s.start now = (.served s.snapshot.keys, s.observe .hit) := by
  simp [start, h]

/-- A call that fetches found the keys stale. -/
lemma start_eq_fetching {previous : Option Snapshot} {s' : Source}
    (h : s.start now = (.fetching previous, s')) :
    s.snapshot.isStale now = true ∧ previous = s.kept? ∧ s' = s.asking := by
  cases hs : s.snapshot.isStale now with
  | false => rw [start_of_not_isStale hs] at h; simp at h
  | true => rw [start_of_isStale hs] at h; simpa [eq_comm] using h

/-! ### The end -/

/-- **The ends of a call that has to fetch**, by what fetching came to. -/
inductive Ends (s : Source) (call : Call) (fetched : Except Error KeyDocument) :
    Except Error (List PublishedKey) × Source → Prop where
  /-- New keys are installed. -/
  | installed {fresh : Snapshot} {took : Duration}
      (hr : refreshed fetched call.arrived = .ok (fresh, took)) :
      Ends s call fetched (.ok fresh.keys, (s.asking.install fresh).observe (.success took))
  /-- Fetching failed; the keys from before are served and stay installed. -/
  | servedStale {e : Error} (hr : refreshed fetched call.arrived = .error e)
      (hpolicy : s.config.failurePolicy = .serveStale)
      (hwindow : s.snapshot.mayOutlive s.config.staleWhileError call.failed = true) :
      Ends s call fetched (.ok s.snapshot.keys, (s.asking.observe .failure).observe .stale)
  /-- Fetching failed; the call fails with its error, and no keys are left. -/
  | failed {e : Error} (hr : refreshed fetched call.arrived = .error e)
      (hno : ¬ (s.config.failurePolicy = .serveStale
        ∧ s.snapshot.mayOutlive s.config.staleWhileError call.failed = true)) :
      Ends s call fetched (.error e, (s.asking.observe .failure).invalidate)

/-- A call that has to fetch ends in one of these ways. -/
theorem finish_ends (s : Source) (call : Call) (fetched : Except Error KeyDocument) :
    Ends s call fetched (s.asking.finish s.kept? call fetched) := by
  rw [finish]
  cases hr : refreshed fetched call.arrived with
  | ok p => exact .installed hr
  | error e =>
      dsimp only
      rw [fallback?, observe_config, asking_config]
      cases hp : s.config.failurePolicy with
      | clear =>
          have hk : s.kept? = none := by simp [kept?, hp]
          rw [hk]
          exact .failed hr (by simp [hp])
      | serveStale =>
          have hk : s.kept? = some s.snapshot := by simp [kept?, hp]
          rw [hk]
          cases hw : s.snapshot.mayOutlive s.config.staleWhileError call.failed with
          | true =>
              rw [Option.filter_some, if_pos hw]
              exact .servedStale hr hp hw
          | false =>
              rw [Option.filter_some, if_neg (by simp [hw])]
              exact .failed hr (by simp [hw])

/-- The end of a call changes neither the configuration nor the client. -/
lemma Ends.config_client_eq {fetched : Except Error KeyDocument}
    {r : Except Error (List PublishedKey) × Source} (h : Ends s call fetched r) :
    r.2.config = s.config ∧ r.2.client = s.client := by
  cases h <;> simp

/-! ### The whole call -/

variable {σ : Type} (send : Transport σ) (net : σ)

lemma keys_of_not_isStale (h : s.snapshot.isStale call.begun = false) :
    s.keys send call net = (some (.ok s.snapshot.keys), s.observe .hit, net) := by
  simp [keys, start_of_not_isStale h]

/-- A call that finds the keys stale fetches. Where it would wait for too long, it is cancelled or
ends. -/
lemma keys_of_isStale (h : s.snapshot.isStale call.begun = true) :
    s.keys send call net
      = let a := KeyDocument.fetch send (call.client.getD s.client) s.config net
        if a.1.isWaiting && call.cancelled then (none, s.asking, a.2)
        else
          let r := s.asking.finish s.kept? call (a.1.settle s.config)
          (some r.1, r.2, a.2) := by
  rw [keys, start_of_isStale h]
  dsimp only
  rw [asking_config, asking_client]
  cases KeyDocument.fetch send (call.client.getD s.client) s.config net with
  | mk attempt net =>
      cases attempt with
      | ended fetched => simp [Attempt.isWaiting, Attempt.settle]
      | waiting => cases call.cancelled <;> simp [Attempt.isWaiting, Attempt.settle]

end Source

end Keyring
