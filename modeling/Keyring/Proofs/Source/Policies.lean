import Mathlib.Tactic
import Keyring.Proofs.Source.Access
import Keyring.Proofs.Source.Provenance

/-!
Two sources side by side, one that drops expired keys when fetching fails and one that serves them.

* `InStep`: what the two have in common after the same accesses. The keys are the same, or the first
  source has none and those of the second are stale; so both refresh on the same accesses and send
  the same requests.
* `SameOrStale`: two results are the same, or the second has stale keys where the first has an
  error.
* `InStep.run`: an access keeps two sources in step as long as the clock does not go back.
* `inStep_after`: two sources that have just been set up are in step after any accesses.
* `serveStale_same_or_stale`: at every access the second source does what the first does, or serves
  stale keys.
-/

namespace Keyring

/-- Counters that tell the same, but for how often stale keys were used. -/
def Metrics.Counters.SameButStale (a b : Metrics.Counters) : Prop :=
  b = { a with stales := b.stales }

namespace Metrics.Counters.SameButStale

variable {a b : Metrics.Counters}

lemma record (h : SameButStale a b) (event : Metrics.Event) :
    SameButStale (a.record event) (b.record event) := by
  rw [SameButStale] at h
  rw [h]
  cases event <;> rfl

/-- Counting a stale serve for one of them makes no other difference. -/
lemma stale (h : SameButStale a b) : SameButStale a (b.record .stale) := by
  rw [SameButStale] at h
  rw [h]
  rfl

end Metrics.Counters.SameButStale

namespace Source

open Http (Client Reply)

variable {c t : Source} {now later : Instant} {last : Option Snapshot} {e : Access} {call : Call}
  {replies : List Reply}

lemma isStale_mono {p : Snapshot} (h : p.isStale now = true) (hle : now ≤ later) :
    p.isStale later = true := by
  rw [← Bool.not_eq_false, Snapshot.isStale_eq_false_iff] at h ⊢
  exact fun hno => h ⟨hno.1, Int.lt_of_le_of_lt hle hno.2⟩

/-! ### In step -/

/-- **Two sources are in step** at an instant: the first one drops expired keys and the second one
serves them, what is configured and counted is the same apart from that, and the keys at hand are
the same, or the first source has none and those of the second are stale. If the second has keys,
they are those of the last successful refresh. -/
structure InStep (now : Instant) (last : Option Snapshot) (c t : Source) : Prop where
  clears : c.config.failurePolicy = .clear
  config : t.config = { c.config with
    failurePolicy := .serveStale, staleWhileError := t.config.staleWhileError }
  client : t.client = c.client
  counters : c.counters.SameButStale t.counters
  snapshots : c.snapshot = t.snapshot
    ∨ c.snapshot = Snapshot.empty ∧ t.snapshot.isStale now = true
  last : t.snapshot.keys = [] ∨ last = some t.snapshot

/-- Two results of an access are the same, or the first is an error and the second has the keys of
the last successful refresh. -/
inductive SameOrStale (last : Option Snapshot) (e : Access) : Result → Result → Prop where
  | same (r : Result) : SameOrStale last e r r
  | stale {error : Error} {p : Snapshot} (hlast : last = some p) :
      SameOrStale last e (e.conclude (some (.error error))) (e.conclude (some (.ok p.keys)))

namespace InStep

lemma played_eq (h : InStep now last c t) : call.played replies t = call.played replies c := by
  rw [Call.played, Call.played, h.client, h.config]
  rfl

lemma came_eq (h : InStep now last c t) : call.came replies t = call.came replies c := by
  rw [Call.came, Call.came, h.played_eq, h.config]
  rfl

lemma isCancelled_eq (h : InStep now last c t) :
    call.isCancelled replies t = call.isCancelled replies c := by
  rw [Call.isCancelled, Call.isCancelled, h.played_eq]

/-- The keys are stale for both or for none, now and later. -/
lemma isStale_eq (h : InStep now last c t) (hle : now ≤ later) :
    c.snapshot.isStale later = t.snapshot.isStale later := by
  rcases h.snapshots with hsame | ⟨hempty, hstale⟩
  · rw [hsame]
  · rw [hempty, isStale_mono hstale hle]
    rfl

lemma fetched?_eq (h : InStep now last c t) (hle : ∀ x ∈ e.readings, now ≤ x) :
    e.fetched? c = e.fetched? t := by
  rw [Access.fetched?, Access.fetched?]
  cases hc : e.call? with
  | none => rfl
  | some made =>
      obtain ⟨call, replies⟩ := made
      have hbegun : now ≤ call.begun := hle _ (by simp [Access.readings, hc])
      simp only [h.isStale_eq hbegun, h.came_eq]

/-! ### What keeps two sources in step -/

lemma mono (h : InStep now last c t) (hle : now ≤ later) : InStep later last c t :=
  { h with snapshots := h.snapshots.imp_right fun hno => ⟨hno.1, isStale_mono hno.2 hle⟩ }

lemma observe (h : InStep now last c t) (event : Metrics.Event) :
    InStep now last (c.observe event) (t.observe event) :=
  ⟨h.clears, h.config, h.client, h.counters.record event, h.snapshots, h.last⟩

lemma install (h : InStep now last c t) (p : Snapshot) :
    InStep now (some p) (c.install p) (t.install p) :=
  ⟨h.clears, h.config, h.client, h.counters, .inl rfl, .inr rfl⟩

lemma invalidate (h : InStep now last c t) : InStep now last c.invalidate t.invalidate :=
  ⟨h.clears, h.config, h.client, h.counters, .inl rfl, .inl rfl⟩

/-- The first source may drop its keys while those of the second are stale. -/
lemma drop (h : InStep now last c t) (hs : t.snapshot.isStale now = true) :
    InStep now last c.invalidate t :=
  ⟨h.clears, h.config, h.client, h.counters, .inr ⟨rfl, hs⟩, h.last⟩

lemma observe_stale (h : InStep now last c t) : InStep now last c (t.observe .stale) :=
  ⟨h.clears, h.config, h.client, h.counters.stale, h.snapshots, h.last⟩

/-- Both sources begin a refresh. -/
lemma asking (h : InStep now last c t) (hs : t.snapshot.isStale now = true) :
    InStep now last c.asking t.asking := by
  have hserves : t.config.failurePolicy = .serveStale := by rw [h.config]
  rw [Source.asking, Source.asking, h.clears, hserves]
  exact (h.observe .miss).drop hs

/-- During a refresh the second source keeps its stale keys. -/
lemma isStale_asking (h : InStep now last c t) (hs : t.snapshot.isStale now = true) :
    t.asking.snapshot = t.snapshot ∧ t.asking.snapshot.isStale now = true := by
  have hserves : t.config.failurePolicy = .serveStale := by rw [h.config]
  have hkept : t.asking.snapshot = t.snapshot := by
    rw [asking_snapshot, hserves, if_neg (by simp)]
  exact ⟨hkept, by rw [hkept, hs]⟩

/-- Both sources end a refresh. If it has failed the second one may serve the keys from before,
which are those of the last successful refresh. -/
lemma ends {fetched : Except Error Http.KeyDocument}
    {rc rt : Except Error (List PublishedKey) × Source} (h : InStep now last c t)
    (hs : t.snapshot.isStale now = true) (hrc : Ends c call fetched rc)
    (hrt : Ends t call fetched rt) :
    SameOrStale last e (e.conclude (some rc.1)) (e.conclude (some rt.1))
      ∧ InStep now (((refreshed fetched call.arrived).toOption.map Prod.fst).or last) rc.2
        rt.2 := by
  have hask := h.asking hs
  cases hrc with
  | @installed fresh took hr =>
      cases hrt with
      | installed hr' =>
          obtain ⟨rfl, rfl⟩ : _ = fresh ∧ _ = took := by simpa [hr] using hr'.symm
          rw [hr]
          exact ⟨.same _, (hask.install _).observe _⟩
      | servedStale hr' => simp [hr] at hr'
      | failed hr' => simp [hr] at hr'
  | servedStale hr hpolicy => simp [h.clears] at hpolicy
  | @failed error hr =>
      have hfailed := hask.observe .failure
      cases hrt with
      | installed hr' => simp [hr] at hr'
      | servedStale hr' hpolicy hwindow =>
          have hlast : last = some t.snapshot := by
            refine h.last.resolve_left fun hno => ?_
            exact (Snapshot.mayOutlive_eq_true_iff.mp hwindow).1 hno
          rw [hr]
          exact ⟨.stale hlast, (hfailed.drop (h.isStale_asking hs).2).observe_stale⟩
      | @failed error' hr' =>
          obtain rfl : error = error' := by simpa [hr] using hr'
          rw [hr]
          exact ⟨.same _, hfailed.invalidate⟩

/-! ### One access -/

/-- Both sources find stale keys and fetch. -/
lemma run_of_isStale (h : InStep now last c t) (hc : e.call? = some (call, replies))
    (hbegun : now ≤ call.begun) (hs : t.snapshot.isStale call.begun = true) :
    (e.run c).2.2 = (e.run t).2.2 ∧ SameOrStale last e (e.run c).1 (e.run t).1
      ∧ InStep call.begun ((e.fetched? t).or last) (e.run c).2.1 (e.run t).2.1 := by
  have hb := h.mono hbegun
  have hsc : c.snapshot.isStale call.begun = true := (h.isStale_eq hbegun).trans hs
  have hfetched : e.fetched? t
      = (refreshed (call.came replies t) call.arrived).toOption.map Prod.fst := by
    simp only [Access.fetched?, hc, hs, if_true]
  rw [Access.run_of_isStale hc hsc, Access.run_of_isStale hc hs, h.isCancelled_eq, h.played_eq,
    hfetched]
  by_cases hg : call.isCancelled replies c = true
  · rw [if_pos hg, if_pos hg, Access.refreshed_of_isCancelled (h.isCancelled_eq.trans hg)]
    exact ⟨rfl, .same _, hb.asking hs⟩
  · rw [if_neg hg, if_neg hg]
    have hends := finish_ends t call (call.came replies t)
    rw [h.came_eq] at hends ⊢
    obtain ⟨hresult, hstep⟩ := hb.ends hs (finish_ends c call (call.came replies c)) hends
    exact ⟨rfl, hresult, hstep⟩

/-- Both sources find keys that are not stale, and these are the same. -/
lemma run_of_not_isStale (h : InStep now last c t) (hc : e.call? = some (call, replies))
    (hbegun : now ≤ call.begun) (hs : t.snapshot.isStale call.begun = false) :
    (e.run c).2.2 = (e.run t).2.2 ∧ SameOrStale last e (e.run c).1 (e.run t).1
      ∧ InStep call.begun ((e.fetched? t).or last) (e.run c).2.1 (e.run t).2.1 := by
  have hb := h.mono hbegun
  have hsc : c.snapshot.isStale call.begun = false := (h.isStale_eq hbegun).trans hs
  have hsame : c.snapshot = t.snapshot := by
    refine hb.snapshots.resolve_right fun hno => ?_
    exact absurd hno.2 (by simp [hs])
  have hfetched : e.fetched? t = none := by simp [Access.fetched?, hc, hs]
  rw [Access.run_of_not_isStale hc hsc, Access.run_of_not_isStale hc hs, hsame, hfetched]
  exact ⟨rfl, .same _, hb.observe .hit⟩

/-- **An access keeps two sources in step** as long as the clock does not go back. Both send the
same requests, and they come to the same or the second one serves stale keys. -/
theorem run (h : InStep now last c t) (hclock : (now :: (e.readings ++ [later])).Pairwise (· ≤ ·)) :
    (e.run c).2.2 = (e.run t).2.2
      ∧ (e ≠ .copy → SameOrStale last e (e.run c).1 (e.run t).1)
      ∧ InStep later ((e.fetched? t).or last) (e.run c).2.1 (e.run t).2.1 := by
  cases hc : e.call? with
  | none =>
      have hle : now ≤ later := by simpa [Access.readings, hc] using hclock
      have hfetched : e.fetched? t = none := by simp [Access.fetched?, hc]
      rw [hfetched]
      by_cases hi : e = .invalidate
      · subst hi
        exact ⟨rfl, fun _ => .same _, (h.mono hle).invalidate⟩
      · refine ⟨?_, fun hno => ?_, ?_⟩
        · rw [Access.run_of_no_call hc hi, Access.run_of_no_call hc hi]
        · rw [Access.run_fst_of_no_call hc hno]
          exact .same _
        · rw [Access.run_of_no_call hc hi, Access.run_of_no_call hc hi]
          exact h.mono hle
  | some made =>
      obtain ⟨call, replies⟩ := made
      have hbegun : now ≤ call.begun := by
        refine List.rel_of_pairwise_cons hclock ?_
        simp [Access.readings, hc]
      have hlater : call.begun ≤ later := by
        simp only [Access.readings, hc] at hclock
        refine List.rel_of_pairwise_cons (List.Pairwise.of_cons hclock) ?_
        simp
      cases hs : t.snapshot.isStale call.begun with
      | false =>
          obtain ⟨hasked, hresult, hstep⟩ := h.run_of_not_isStale hc hbegun hs
          exact ⟨hasked, fun _ => hresult, hstep.mono hlater⟩
      | true =>
          obtain ⟨hasked, hresult, hstep⟩ := h.run_of_isStale hc hbegun hs
          exact ⟨hasked, fun _ => hresult, hstep.mono hlater⟩

end InStep

/-! ### Accesses one after the other -/

/-- Two sources that have just been set up are in step. -/
lemma inStep_ofConfig {config : Config} {window : Duration} {client : Client}
    (hc : ofConfig { config with failurePolicy := .clear } client = .ok c)
    (ht : ofConfig { config with failurePolicy := .serveStale, staleWhileError := window } client
      = .ok t) :
    InStep now none c t := by
  rw [eq_of_ofConfig hc, eq_of_ofConfig ht]
  exact ⟨rfl, rfl, rfl, rfl, .inl rfl, .inl rfl⟩

/-- The first reading of an access, or the one after it, is a last one for the accesses before it.
-/
lemma exists_first_reading {es : List Access}
    (h : ((es ++ [e]).flatMap Access.readings ++ [now]).Pairwise (· ≤ ·)) :
    ∃ first, (es.flatMap Access.readings ++ [first]).Pairwise (· ≤ ·)
      ∧ (first :: (e.readings ++ [now])).Pairwise (· ≤ ·) := by
  obtain ⟨first, more, hmore⟩ : ∃ first more, e.readings ++ [now] = first :: more :=
    List.exists_cons_of_ne_nil (by simp)
  rw [List.flatMap_append, List.flatMap_singleton, List.append_assoc, hmore] at h
  have hfirst := (List.pairwise_append.mp h).2.1
  refine ⟨first, h.sublist ?_, ?_⟩
  · exact (List.cons_sublist_cons.mpr (List.nil_sublist more)).append_left _
  · rw [hmore, List.pairwise_cons]
    refine ⟨fun x hx => ?_, hfirst⟩
    rcases List.mem_cons.mp hx with rfl | hx
    · exact Int.le_refl _
    · exact List.rel_of_pairwise_cons hfirst hx

/-- **Two sources stay in step along any accesses** on which the clock does not go back, and the
last successful refresh was the same. -/
theorem inStep_after {es : List Access} (h : ∀ now, InStep now none c t)
    (hclock : (es.flatMap Access.readings ++ [now]).Pairwise (· ≤ ·)) :
    InStep now (lastFetched t es) (after c es) (after t es)
      ∧ lastFetched c es = lastFetched t es := by
  induction es using List.reverseRecOn generalizing now with
  | nil => exact ⟨h now, rfl⟩
  | append_singleton es e ih =>
      obtain ⟨first, hbefore, he⟩ := exists_first_reading hclock
      obtain ⟨hstep, hlast⟩ := ih hbefore
      have hreadings : ∀ x ∈ e.readings, first ≤ x := fun x hx =>
        List.rel_of_pairwise_cons he (List.mem_append_left _ hx)
      rw [after_append_singleton, after_append_singleton, lastFetched_append_singleton,
        lastFetched_append_singleton, hstep.fetched?_eq hreadings, hlast]
      exact ⟨(hstep.run he).2.2, rfl⟩

/-- **Serving stale keys changes nothing but errors.** Two sources are set up alike, but for the
policy, and get the same accesses, on which the clock never goes back. Then at every step they send
the same requests; what the access comes to is the same, or an error for the source that drops
expired keys and those of the last successful refresh for the one that serves them; what they count
is the same, but for how often stale keys were used; and the keys at hand are the same, or the first
source has none and those of the second are stale. -/
theorem serveStale_same_or_stale {config : Config} {window : Duration} {client : Client}
    {es : List Access}
    (hc : ofConfig { config with failurePolicy := .clear } client = .ok c)
    (ht : ofConfig { config with failurePolicy := .serveStale, staleWhileError := window } client
      = .ok t)
    (hclock : ((es ++ [e]).flatMap Access.readings ++ [now]).Pairwise (· ≤ ·)) :
    let rc := e.run (after c es)
    let rt := e.run (after t es)
    rc.2.2 = rt.2.2
      ∧ (e ≠ .copy → SameOrStale (lastFetched t es) e rc.1 rt.1)
      ∧ lastFetched c es = lastFetched t es
      ∧ (rc.2.1.counters.total = rt.2.1.counters.total
        ∧ rc.2.1.counters.hits = rt.2.1.counters.hits
        ∧ rc.2.1.counters.successes = rt.2.1.counters.successes
        ∧ rc.2.1.counters.failures = rt.2.1.counters.failures
        ∧ rc.2.1.counters.micros = rt.2.1.counters.micros)
      ∧ (rc.2.1.snapshot = rt.2.1.snapshot
        ∨ rc.2.1.snapshot = Snapshot.empty ∧ rt.2.1.snapshot.isStale now = true) := by
  intro rc rt
  obtain ⟨first, hbefore, he⟩ := exists_first_reading hclock
  obtain ⟨hstep, hlast⟩ := inStep_after (fun _ => inStep_ofConfig hc ht) hbefore
  obtain ⟨hasked, hresult, hafter⟩ := hstep.run he
  have hcounters : rt.2.1.counters = { rc.2.1.counters with stales := rt.2.1.counters.stales } :=
    hafter.counters
  refine ⟨hasked, hresult, hlast, ?_, hafter.snapshots⟩
  rw [hcounters]
  exact ⟨rfl, rfl, rfl, rfl, rfl⟩

/-! ### A refresh that fails for both -/

/-- A source with one policy or the other. -/
def policySource (policy : FailurePolicy) : Source :=
  { sampleSource with config := { sampleSource.config with failurePolicy := policy } }

/-- What the source with a policy comes to if it has got keys, and the refresh after their expiry
fails. -/
def policyRun (policy : FailurePolicy) : Result × Source × List Http.Request :=
  (sampleAccess 70 .failure).run
    (after (policySource policy) [sampleAccess 0 (.response sampleResponse)])

/-- The keys that an access came to, if it came to any. -/
def Result.keys? : Result → Option (List PublishedKey)
  | .keys (some (.ok found)) => some found
  | _ => none

/-- One policy makes the failure an error, and the other one serves the keys from before. -/
theorem serveStale_same_or_stale_sample :
    (∀ policy, ofConfig (policySource policy).config sampleSource.client
        = .ok (policySource policy))
      ∧ ([sampleInstant 0, sampleInstant 0, sampleInstant 0, sampleInstant 70, sampleInstant 70,
        sampleInstant 70, sampleInstant 71].Pairwise (· ≤ ·))
      ∧ (policyRun .clear).1.keys? = none
      ∧ (policyRun .serveStale).1.keys? = some [sampleKey]
      ∧ SameOrStale (some ⟨[sampleKey], sampleInstant 60⟩) (sampleAccess 70 .failure)
        (policyRun .clear).1 (policyRun .serveStale).1
      ∧ (policyRun .clear).2.2 = (policyRun .serveStale).2.2
      ∧ (policyRun .clear).2.2.length = 1
      ∧ (policyRun .clear).2.1.snapshot = Snapshot.empty
      ∧ (policyRun .serveStale).2.1.snapshot = ⟨[sampleKey], sampleInstant 60⟩ := by
  have hset : ∀ policy, ofConfig (policySource policy).config sampleSource.client
      = .ok (policySource policy) := by
    intro policy
    cases policy with
    | clear =>
        rw [ofConfig, show (policySource .clear).config.validate = .ok () from rfl]
        rfl
    | serveStale =>
        rw [ofConfig, show (policySource .serveStale).config.validate = .ok () from rfl]
        rfl
  have hclock : [sampleInstant 0, sampleInstant 0, sampleInstant 0, sampleInstant 70,
      sampleInstant 70, sampleInstant 70, sampleInstant 71].Pairwise (· ≤ ·) := by decide
  have hlast : lastFetched (policySource .serveStale) [sampleAccess 0 (.response sampleResponse)]
      = some ⟨[sampleKey], sampleInstant 60⟩ := by decide +kernel
  have hrun : (policyRun .clear).1.keys? = none
      ∧ (policyRun .serveStale).1.keys? = some [sampleKey]
      ∧ (policyRun .clear).2.2.length = 1
      ∧ (policyRun .clear).2.1.snapshot = Snapshot.empty
      ∧ (policyRun .serveStale).2.1.snapshot = ⟨[sampleKey], sampleInstant 60⟩ := by decide +kernel
  obtain ⟨hclear, hserved, hone, hnone, hkept⟩ := hrun
  obtain ⟨hasked, hresult, -⟩ := @serveStale_same_or_stale _ _ (sampleInstant 71)
    (sampleAccess 70 .failure) sampleSource.config sampleSource.config.staleWhileError _
    [sampleAccess 0 (.response sampleResponse)] (hset .clear) (hset .serveStale) hclock
  rw [hlast] at hresult
  exact ⟨hset, hclock, hclear, hserved, hresult (by simp [sampleAccess]), hasked, hone, hnone,
    hkept⟩

end Source

end Keyring
