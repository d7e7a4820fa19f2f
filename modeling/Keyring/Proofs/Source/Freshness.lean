import Mathlib.Tactic
import Keyring.Proofs.Source.Access
import Keyring.Proofs.Source.Provenance

/-!
How long keys are used, and what happens afterwards.

* `Access.UsesCached`: an access that neither drops keys with some expiry nor comes after it.
* `Access.run_of_usesCached`, `runAccesses_of_usesCached`: such accesses, in any number, are
  answered from the keys at hand and send nothing.
* `Access.RefreshesOnce`: an access that fetches keys exactly once.
* `Access.refreshesOnce_of_isStale`: an access does so if it calls for keys and those at hand are
  stale.
* `cached_until_expiry`: keys are used until they expire, and fetched once afterwards; where there
  are none every call fetches once.
-/

namespace Keyring.Source

open Http (Reply Request)

variable {s : Source} {p : Snapshot} {now : Instant} {call : Call} {replies : List Reply}

lemma isStale_of_le (h : p.expiresAt ≤ now) : p.isStale now = true := by
  rw [← Bool.not_eq_false, Snapshot.isStale_eq_false_iff]
  exact fun hno => Int.not_le.mpr hno.2 h

/-- No keys are stale at any time. -/
lemma isStale_of_keys_eq_nil (h : p.keys = []) : p.isStale now = true := by
  rw [← Bool.not_eq_false, Snapshot.isStale_eq_false_iff]
  exact fun hno => hno.1 h

namespace Access

variable {e : Access}

/-! ### Before the expiry -/

/-- An access uses keys with this expiry from the cache: it does not drop them, and if it calls for
keys, the call begins before they expire. -/
def UsesCached (expiry : Instant) (e : Access) : Prop :=
  e ≠ .invalidate ∧ ∀ call replies, e.call? = some (call, replies) → call.begun < expiry

/-- The result of an access that is answered from these keys. -/
def resultWith (p : Snapshot) : Access → Result
  | .keys _ _ => .keys (some (.ok p.keys))
  | .verify token _ _ => .verified (some (Token.verify p.keys token))
  | .invalidate => .done
  | .copy => .copy p

lemma conclude_eq_resultWith (h : e.call? = some (call, replies)) :
    e.conclude (some (.ok p.keys)) = e.resultWith p := by
  cases e with
  | keys call' replies' => rfl
  | verify token call' replies' =>
      rw [conclude, resultWith, Token.judge, Token.verify]
      cases Token.claim token with
      | error e => rfl
      | ok c => rfl
  | invalidate => cases h
  | copy => cases h

/-- An access without a call is answered from the keys at hand. -/
lemma run_fst_eq_resultWith (h : e.call? = none) : (e.run s).1 = e.resultWith s.snapshot := by
  cases e with
  | keys call replies => cases h
  | verify token call replies =>
      cases hc : Token.claim token with
      | error e => simp only [run, Source.verify, resultWith, Token.verify, hc]
      | ok c => simp [call?, hc] at h
  | invalidate => rfl
  | copy => rfl

/-- **An access that uses the cache** is answered from the keys at hand, and sends nothing. -/
lemma run_of_usesCached (hkeys : s.snapshot.keys ≠ []) (h : e.UsesCached s.snapshot.expiresAt) :
    (e.run s).1 = e.resultWith s.snapshot ∧ (e.run s).2.1.snapshot = s.snapshot
      ∧ (e.run s).2.2 = [] := by
  cases hc : e.call? with
  | none =>
      refine ⟨run_fst_eq_resultWith hc, ?_, ?_⟩
      · rw [run_of_no_call hc h.1]
      · rw [run_of_no_call hc h.1]
  | some made =>
      obtain ⟨call, replies⟩ := made
      have hs : s.snapshot.isStale call.begun = false :=
        Snapshot.isStale_eq_false_iff.mpr ⟨hkeys, h.2 call replies hc⟩
      rw [run_of_not_isStale hc hs]
      exact ⟨conclude_eq_resultWith hc, rfl, rfl⟩

/-! ### After the expiry -/

/-- **An access refreshes the keys once** by its call: it sends the requests of one attempt to fetch
them; the call counts as a miss, and the attempt as a success or a failure unless the call is
cancelled; and the call ends as one that had to fetch. -/
structure RefreshesOnce (e : Access) (s : Source) (call : Call) (replies : List Reply) : Prop where
  made : e.call? = some (call, replies)
  requests : (e.run s).2.2 = (call.played replies s).2.asked
  total : (e.run s).2.1.counters.total = s.counters.total + 1
  hits : (e.run s).2.1.counters.hits = s.counters.hits
  attempts : (e.run s).2.1.counters.successes + (e.run s).2.1.counters.failures
    = s.counters.successes + s.counters.failures + if call.isCancelled replies s then 0 else 1
  comes : if call.isCancelled replies s then
      (e.run s).1 = e.conclude none ∧ (e.run s).2.1 = s.asking
    else ∃ r, (e.run s).1 = e.conclude (some r)
      ∧ Ends s call (call.came replies s) (r, (e.run s).2.1)

/-- The end of a call counts it once, and the attempt to fetch. -/
lemma counters_of_ends {fetched : Except Error Http.KeyDocument}
    {r : Except Error (List PublishedKey) × Source} (h : Ends s call fetched r) :
    r.2.counters.total = s.counters.total + 1 ∧ r.2.counters.hits = s.counters.hits
      ∧ r.2.counters.successes + r.2.counters.failures
        = s.counters.successes + s.counters.failures + 1 := by
  cases h with
  | installed hr =>
      simp only [observe_counters, install_counters, asking_counters, Metrics.Counters.record]
      exact ⟨trivial, trivial, by rw [UInt64.add_assoc, UInt64.add_comm 1, ← UInt64.add_assoc]⟩
  | servedStale hr => simp [Metrics.Counters.record, UInt64.add_assoc]
  | failed hr => simp [Metrics.Counters.record, UInt64.add_assoc]

/-- **An access that finds stale keys refreshes them once.** -/
lemma refreshesOnce_of_isStale (h : e.call? = some (call, replies))
    (hs : s.snapshot.isStale call.begun = true) : e.RefreshesOnce s call replies := by
  have hrun := run_of_isStale h hs
  by_cases hg : call.isCancelled replies s = true
  · rw [if_pos hg] at hrun
    have hcounters : (e.run s).2.1.counters = s.counters.record .miss := by
      rw [hrun, asking_counters]
    refine ⟨h, by rw [hrun], ?_, ?_, ?_, ?_⟩
    · rw [hcounters, Metrics.Counters.record]
    · rw [hcounters, Metrics.Counters.record]
    · rw [hcounters, Metrics.Counters.record, if_pos hg, UInt64.add_zero]
    · rw [if_pos hg, hrun]
      exact ⟨rfl, rfl⟩
  · rw [if_neg hg] at hrun
    have hends := finish_ends s call (call.came replies s)
    obtain ⟨htotal, hhits, hattempts⟩ := counters_of_ends hends
    refine ⟨h, by rw [hrun], by rw [hrun, htotal], by rw [hrun, hhits], ?_, ?_⟩
    · rw [hrun, hattempts, if_neg hg]
    · rw [if_neg hg, hrun]
      exact ⟨_, rfl, hends⟩

end Access

/-! ### Accesses one after the other -/

/-- **Accesses that use the cache** are answered from the keys at hand, and send nothing. -/
lemma runAccesses_of_usesCached {es : List Access} (hkeys : s.snapshot.keys ≠ [])
    (hes : ∀ e ∈ es, e.UsesCached s.snapshot.expiresAt) :
    (runAccesses s es).1 = es.map (Access.resultWith s.snapshot)
      ∧ (runAccesses s es).2.1.snapshot = s.snapshot ∧ (runAccesses s es).2.2 = [] := by
  induction es generalizing s with
  | nil => exact ⟨rfl, rfl, rfl⟩
  | cons e es ih =>
      obtain ⟨hresult, hsame, hnone⟩ := e.run_of_usesCached hkeys (hes e List.mem_cons_self)
      have hlater : ∀ e' ∈ es, e'.UsesCached (e.run s).2.1.snapshot.expiresAt := by
        rw [hsame]
        exact fun e' he' => hes e' (List.mem_cons_of_mem _ he')
      obtain ⟨hresults, hkept, hrest⟩ := ih (by rw [hsame]; exact hkeys) hlater
      rw [hsame] at hresults hkept
      simp only [runAccesses, List.map_cons]
      exact ⟨by rw [hresult, hresults], hkept, by rw [hnone, hrest, List.append_nil]⟩

/-- **Keys are used until they expire, and are fetched once afterwards.** Let an access install
keys, whatever happened to the source before. If there are any, then accesses that use the cache, in
any number and whatever the clock shows in between, are answered from these keys and send nothing,
and the keys at hand stay as they are; and the first call at or after the expiry fetches keys once.
If there are no keys in what was installed, the next call fetches once, however long they might have
been used; and so does any call on a source without keys. -/
theorem cached_until_expiry (s : Source) :
    (∀ (e : Access) (p : Snapshot) (es : List Access), e.fetched? s = some p → p.keys ≠ [] →
      (∀ e' ∈ es, e'.UsesCached p.expiresAt) →
      let r := runAccesses (e.run s).2.1 es
      r.1 = es.map (Access.resultWith p) ∧ r.2.1.snapshot = p ∧ r.2.2 = []
        ∧ ∀ (next : Access) (call : Call) (replies : List Reply),
          next.call? = some (call, replies) → p.expiresAt ≤ call.begun →
            next.RefreshesOnce r.2.1 call replies)
      ∧ (∀ (e next : Access) (p : Snapshot) (call : Call) (replies : List Reply),
        e.fetched? s = some p → p.keys = [] → next.call? = some (call, replies) →
          next.RefreshesOnce (e.run s).2.1 call replies)
      ∧ (∀ (next : Access) (call : Call) (replies : List Reply),
        s.snapshot.keys = [] → next.call? = some (call, replies) →
          next.RefreshesOnce s call replies) := by
  refine ⟨fun e p es hp hkeys hes => ?_, fun e next p call replies hp hkeys hc => ?_,
    fun next call replies hkeys hc => ?_⟩
  · obtain ⟨-, rfl⟩ := Access.run_of_fetched hp
    obtain ⟨hresults, hkept, hnone⟩ := runAccesses_of_usesCached hkeys hes
    refine ⟨hresults, hkept, hnone, fun next call replies hc hle => ?_⟩
    refine Access.refreshesOnce_of_isStale hc (isStale_of_le ?_)
    rw [hkept]
    exact hle
  · obtain ⟨-, rfl⟩ := Access.run_of_fetched hp
    exact Access.refreshesOnce_of_isStale hc (isStale_of_keys_eq_nil hkeys)
  · exact Access.refreshesOnce_of_isStale hc (isStale_of_keys_eq_nil hkeys)

/-- Two accesses to a source with keys for a minute, in the last second of it. -/
def timelyAccesses : List Access := [sampleAccess 59 .failure, .copy]

/-- They are answered from these keys, and only the call after the expiry sends a request. -/
theorem cached_until_expiry_sample :
    let s := (sampleAccess 0 (.response sampleResponse)).run sampleSource
    let r := runAccesses s.2.1 timelyAccesses
    (sampleAccess 0 (.response sampleResponse)).fetched? sampleSource
        = some ⟨[sampleKey], sampleInstant 60⟩
      ∧ (∀ e ∈ timelyAccesses, e.UsesCached (sampleInstant 60))
      ∧ r.1 = timelyAccesses.map (Access.resultWith ⟨[sampleKey], sampleInstant 60⟩)
      ∧ r.2.2 = []
      ∧ (sampleAccess 60 .failure).RefreshesOnce r.2.1 (.at (sampleInstant 60) none false)
        [.failure] := by
  intro s r
  have hfetched : (sampleAccess 0 (.response sampleResponse)).fetched? sampleSource
      = some ⟨[sampleKey], sampleInstant 60⟩ := by decide +kernel
  have hcached : ∀ e ∈ timelyAccesses, e.UsesCached (sampleInstant 60) := by
    have hearly : sampleInstant 59 < sampleInstant 60 := by decide
    intro e he
    rcases List.mem_pair.mp he with rfl | rfl
    · refine ⟨by simp [sampleAccess], fun call replies hc => ?_⟩
      obtain ⟨rfl, -⟩ := Prod.mk.inj (Option.some.inj hc)
      exact hearly
    · exact ⟨by simp, fun call replies hc => by cases hc⟩
  obtain ⟨hresults, -, hnone, hnext⟩ :=
    (cached_until_expiry sampleSource).1 _ _ _ hfetched (by simp) hcached
  exact ⟨hfetched, hcached, hresults, hnone, hnext _ _ _ rfl (Int.le_refl _)⟩

end Keyring.Source
