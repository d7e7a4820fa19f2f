import Mathlib.Tactic
import Keyring.Proofs.Metrics.Tally
import Keyring.Proofs.Source.Atomicity
import Keyring.Proofs.Source.Verifying

/-!
The accounts of a source.

An operation records its events with the counters and with the measures alike, and these tell for
each call for keys how far it has come.

* `Recorded`: some events were recorded with a source.
* `Holder.hasLookedUp`, `Holder.hasKeys`, `Holder.hasError`, `Holder.wasCancelled`, `Holder.took?`:
  what an operation that has acquired the lock has come to.
* `Balances`: the events account for some operations.
* `Holder.Accords.recorded`: one operation is accounted for by the events that it has recorded.
* `History.recorded`: all operations that have acquired the lock are accounted for.
* `counters_conserved`: the counters and the measures agree with each other and with the calls.
-/

namespace Keyring.Source

open Http (Request Transport)
open Metrics (Counters Event Item)

/-! ### Recording events -/

/-- These events were recorded between the source `s` and the source `s'`. -/
structure Recorded (s : Source) (log : List Event) (s' : Source) : Prop where
  counters : s'.counters = log.foldl Counters.record s.counters
  registry : s'.registry
    = log.foldl (fun r e => Metrics.Registry.record r s.config.keyUrl.render e) s.registry

namespace Recorded

variable {s s' s'' : Source} {log log' : List Event}

lemma nil (s : Source) : Recorded s [] s := ⟨rfl, rfl⟩

lemma append (h : Recorded s log s') (h' : Recorded s' log' s'') (hc : s'.config = s.config) :
    Recorded s (log ++ log') s'' where
  counters := by rw [h'.counters, h.counters, List.foldl_append]
  registry := by rw [h'.registry, h.registry, List.foldl_append, hc]

lemma asking (s : Source) : Recorded s [.miss] s.asking := ⟨by simp, by simp⟩

/-- A counter is the number of its events, if nothing was counted before. -/
lemma counters_value (h : Recorded s log s') (hzero : s.counters = Counters.zero) (i : Item) :
    s'.counters.value i = UInt64.ofNat (log.countP i.counts) := by
  have hi : Counters.zero.value i = 0 := by cases i <;> rfl
  rw [h.counters, Counters.foldl_record_value, hzero, hi, UInt64.zero_add]

/-- A row of the measures is the number of its events, if nothing was measured before. -/
lemma registry_value (h : Recorded s log s') (hnone : s.registry = []) (i : Item) :
    s'.registry.value s.config.keyUrl.render i
      = .count (UInt64.ofNat (log.countP i.counts)) := by
  have hi : s.registry.value s.config.keyUrl.render i = .count 0 := by rw [hnone]; rfl
  rw [h.registry, Metrics.Registry.measured_foldl_record log hi, UInt64.zero_add]

/-- The samples are the times of the successes. -/
lemma registry_times (h : Recorded s log s') (hnone : s.registry = []) :
    s'.registry.times s.config.keyUrl.render
      = .samples ((log.filterMap Event.took?).map Duration.toFloat) := by
  have hi : s.registry.times s.config.keyUrl.render = .samples [] := by rw [hnone]; rfl
  rw [h.registry, Metrics.Registry.samples_foldl_record log hi, List.nil_append]

end Recorded

/-! ### What an operation has come to -/

namespace Holder

variable (v : Holder)

/-- A call for keys that has looked at the snapshot. -/
def hasLookedUp : Bool :=
  match v.turn.operation, v.phase with
  | .keys _, .acquired => false
  | .keys _, _ => true
  | _, _ => false

/-- A call that has answered keys. -/
def hasKeys : Bool :=
  match v.answer? with
  | some (.keys (.ok _)) => true
  | _ => false

/-- A call that has answered an error. -/
def hasError : Bool :=
  match v.answer? with
  | some (.keys (.error _)) => true
  | _ => false

/-- A call that was cancelled while it fetched. -/
def wasCancelled : Bool := v.hasReleased && v.answer?.isNone

/-- The time that it took to fetch the keys of a call, if it has answered keys that it fetched. -/
def took? (s : Source) (v : Holder) : Option Duration :=
  match v.answer?, v.turn.yield s with
  | some (.keys (.ok _)), .ok (_, took) => some took
  | _, _ => none

end Holder

/-! ### The balance -/

/-- **The events account for the operations** on a source with the configuration and the client of
`s`. -/
structure Balances (s : Source) (holders : List Holder) (log : List Event) : Prop where
  asked : log.countP Item.total.counts = holders.countP Holder.hasLookedUp
  total : log.countP Item.total.counts
    = log.countP Item.hits.counts + log.countP Item.successes.counts
      + log.countP Item.failures.counts
      + holders.countP Holder.wasCancelled + holders.countP Holder.isRefreshing
  keys : holders.countP Holder.hasKeys
    = log.countP Item.hits.counts + log.countP Item.successes.counts
      + log.countP Item.stales.counts
  error : holders.countP Holder.hasError + log.countP Item.stales.counts
    = log.countP Item.failures.counts
  clear : s.config.failurePolicy = .clear → log.countP Item.stales.counts = 0
  took : log.filterMap Event.took? = holders.filterMap (Holder.took? s)

namespace Balances

variable {s s' : Source} {holders holders' : List Holder} {log log' : List Event}

lemma nil (s : Source) : Balances s [] [] where
  asked := rfl
  total := rfl
  keys := rfl
  error := rfl
  clear _ := rfl
  took := rfl

lemma append (h : Balances s holders log) (h' : Balances s holders' log') :
    Balances s (holders ++ holders') (log ++ log') where
  asked := by
    have := h.asked
    have := h'.asked
    simp only [List.countP_append]
    omega
  total := by
    have := h.total
    have := h'.total
    simp only [List.countP_append]
    omega
  keys := by
    have := h.keys
    have := h'.keys
    simp only [List.countP_append]
    omega
  error := by
    have := h.error
    have := h'.error
    simp only [List.countP_append]
    omega
  clear hp := by rw [List.countP_append, h.clear hp, h'.clear hp]
  took := by rw [List.filterMap_append, List.filterMap_append, h.took, h'.took]

/-- Accounts depend on the configuration and the client of a source only. -/
lemma congr (h : Balances s holders log) (hc : s'.config = s.config ∧ s'.client = s.client) :
    Balances s' holders log where
  asked := h.asked
  total := h.total
  keys := h.keys
  error := h.error
  clear hp := h.clear (hc.1 ▸ hp)
  took := by
    have htook : Holder.took? s' = Holder.took? s := by
      funext v
      rw [Holder.took?, Holder.took?, Turn.yield_congr hc]
    rw [htook, h.took]

end Balances

/-! ### One operation -/

namespace Holder

variable {s s' : Source} {v : Holder}

/-- An operation whose refresh is in flight has recorded a miss. -/
lemma balances_of_isRefreshing (hr : v.isRefreshing = true)
    (ho : ∃ client, v.turn.operation = .keys client) : Balances s [v] [.miss] := by
  obtain ⟨client, ho⟩ := ho
  have hanswer : v.answer? = none ∧ v.hasReleased = false ∧ v.hasLookedUp = true := by
    cases hp : v.phase <;> simp_all [isRefreshing, answer?, hasReleased, hasLookedUp]
  obtain ⟨hnone, hin, hasked⟩ := hanswer
  constructor <;> simp [hr, hasked, hin, hnone, hasKeys, hasError, wasCancelled, took?, Item.counts,
    List.filterMap_cons, Event.took?]

/-- **An operation that has done all its steps** has recorded a hit, or a miss and the end of its
refresh. -/
lemma recorded_of_run (hrun : v.turn.run s = (v.answer?, s', v.requests))
    (hcomplete : v.turn.Complete s) (hr : v.isRefreshing = false)
    (hd : v.wasCancelled = v.answer?.isNone)
    (ha : ∀ client, v.turn.operation = .keys client → v.hasLookedUp = true) :
    ∃ log, Recorded s log s' ∧ Balances s [v] log := by
  have hcomes := v.turn.run_comes s
  rw [hrun] at hcomes
  generalize hanswer : v.answer? = answer at hcomes hd
  generalize v.requests = requests at hcomes
  cases hcomes with
  | invalidated ho =>
      have hasked : v.hasLookedUp = false := by simp [hasLookedUp, ho]
      refine ⟨[], ⟨by simp, by simp⟩, ?_⟩
      constructor <;> simp [hr, hd, hasked, hanswer, hasKeys, hasError, took?]
  | copied ho =>
      have hasked : v.hasLookedUp = false := by simp [hasLookedUp, ho]
      refine ⟨[], .nil s, ?_⟩
      constructor <;> simp [hr, hd, hasked, hanswer, hasKeys, hasError, took?]
  | served ho hs =>
      -- no reply came, so that nothing was fetched for the call
      have hreplies : v.turn.replies = [] := by simpa [hs] using (hcomplete _ ho).2
      have htook : took? s v = none := by
        rw [took?]
        cases hy : v.turn.yield s with
        | error e => simp
        | ok p => exact absurd hy (Turn.yield_ne_ok hreplies p)
      refine ⟨[.hit], ⟨by simp, by simp⟩, ?_⟩
      constructor <;> simp [hr, hd, ha _ ho, hanswer, hasKeys, hasError, htook, List.countP_cons,
        List.filterMap_cons, Item.counts, Event.took?]
  | cancelled ho hs hw =>
      refine ⟨[.miss], .asking s, ?_⟩
      constructor <;> simp [hr, hd, ha _ ho, hanswer, hasKeys, hasError, took?, List.countP_cons,
        List.filterMap_cons, Item.counts, Event.took?]
  | @ended client _ r _ ho hs hw he =>
      generalize hc : (r, s') = c at he
      cases he with
      | @installed fresh took hy =>
          obtain ⟨rfl, rfl⟩ := Prod.mk.inj hc
          have htook : took? s v = some took := by
            rw [took?, hanswer, Turn.yield, hy]
          refine ⟨[.miss, .success took], ⟨by simp, by simp⟩, ?_⟩
          constructor <;> simp [hr, hd, ha _ ho, hanswer, hasKeys, hasError, htook,
            List.countP_cons, List.filterMap_cons, Item.counts, Event.took?]
      | servedStale hy hpolicy hwindow =>
          obtain ⟨rfl, rfl⟩ := Prod.mk.inj hc
          have htook : took? s v = none := by
            rw [took?, hanswer, Turn.yield, hy]
          refine ⟨[.miss, .failure, .stale], ⟨by simp, by simp⟩, ?_⟩
          constructor <;> simp [hr, hd, ha _ ho, hanswer, hasKeys, hasError, htook, hpolicy,
            List.countP_cons, List.filterMap_cons, Item.counts, Event.took?]
      | failed hy hno =>
          obtain ⟨rfl, rfl⟩ := Prod.mk.inj hc
          refine ⟨[.miss, .failure], ⟨by simp, by simp⟩, ?_⟩
          constructor <;> simp [hr, hd, ha _ ho, hanswer, hasKeys, hasError, took?,
            List.countP_cons, List.filterMap_cons, Item.counts, Event.took?]

/-- **One operation is accounted for** by the events that it has recorded so far. -/
theorem Accords.recorded (h : v.Accords s s') : ∃ log, Recorded s log s' ∧ Balances s [v] log := by
  cases hp : v.phase with
  | acquired =>
      obtain ⟨rfl, -, -⟩ : s' = s ∧ _ ∧ _ := by simpa [Accords, hp] using h
      have hasked : v.hasLookedUp = false := by
        rw [hasLookedUp, hp]
        cases v.turn.operation <;> rfl
      refine ⟨[], .nil s', ?_⟩
      constructor <;> simp [hp, hasked, wasCancelled, hasReleased, isRefreshing, hasKeys, hasError,
        took?, answer?]
  | fetching previous progress =>
      have hf : v.Fetches s s' previous progress := by simpa [Accords, hp] using h
      obtain ⟨-, -, rfl⟩ := start_eq_fetching hf.start
      exact ⟨_, .asking s, balances_of_isRefreshing (by simp [isRefreshing, hp]) hf.operation⟩
  | arrived previous fetched =>
      obtain ⟨hf, -⟩ : v.Fetches s s' previous (.ended fetched) ∧ _ := by
        simpa [Accords, hp] using h
      obtain ⟨-, -, rfl⟩ := start_eq_fetching hf.start
      exact ⟨_, .asking s, balances_of_isRefreshing (by simp [isRefreshing, hp]) hf.operation⟩
  | answered answer =>
      obtain ⟨hrun, hcomplete⟩ := h.run_eq (.inr (by simp [answer?, hp]))
      exact recorded_of_run hrun hcomplete (by simp [isRefreshing, hp])
        (by simp [wasCancelled, hasReleased, answer?, hp]) fun _ ho => by simp [hasLookedUp, ho, hp]
  | released answer =>
      obtain ⟨hrun, hcomplete⟩ := h.run_eq (.inl (by simp [hasReleased, hp]))
      exact recorded_of_run hrun hcomplete (by simp [isRefreshing, hp])
        (by simp [wasCancelled, hasReleased, answer?, hp]) fun _ ho => by simp [hasLookedUp, ho, hp]

end Holder

/-! ### All operations -/

/-- **All operations are accounted for** by the events that were recorded with the source. -/
theorem History.recorded {s₀ s : Source} {holders : List Holder} {asked : List Request}
    (h : History s₀ holders s asked) :
    ∃ log, Recorded s₀ log s ∧ Balances s₀ holders log := by
  induction h with
  | nil => exact ⟨[], .nil s₀, .nil s₀⟩
  | @snoc past s s' asked v h hpast hv ih =>
      obtain ⟨log, hrecorded, hbalances⟩ := ih
      obtain ⟨log', hrecorded', hbalances'⟩ := hv.recorded
      have hsame := h.config_client_eq hpast
      exact ⟨log ++ log', hrecorded.append hrecorded' hsame.1,
        hbalances.append (hbalances'.congr ⟨hsame.1.symm, hsame.2.symm⟩)⟩

/-- **The counters are conserved.** Whatever happens to a source, as long as there are fewer than
2^64 calls for keys, each call that has looked at the snapshot is counted once among all, and once
more as a hit, a success or a failure, unless it was cancelled while it fetched or its refresh is in
flight, which is so for at most one. Hits, successes and stale serves are the calls that have
answered keys, the other failures those that have answered an error; under the policy `clear` there
are no stale serves. The measures under the address of the source tell the same, and the times that
fetching took are those of the successes. A token that is verified counts as its call for keys. -/
theorem counters_conserved {config : Config} {client : Http.Client} {s : Source}
    (hs : ofConfig config client = .ok s) {now : Instant} {moves : List Move}
    (hfew : (Shared.run s now moves).holders.countP Holder.hasLookedUp < 2 ^ 64) :
    let m := Shared.run s now moves
    let c := m.source.counters
    (c.total.toNat = m.holders.countP Holder.hasLookedUp
      ∧ c.total.toNat = c.hits.toNat + c.successes.toNat + c.failures.toNat
        + m.holders.countP Holder.wasCancelled + m.holders.countP Holder.isRefreshing
      ∧ m.holders.countP Holder.isRefreshing ≤ 1)
    ∧ (m.holders.countP Holder.hasKeys = c.hits.toNat + c.successes.toNat + c.stales.toNat
      ∧ c.stales.toNat ≤ c.failures.toNat
      ∧ m.holders.countP Holder.hasError = c.failures.toNat - c.stales.toNat
      ∧ (config.failurePolicy = .clear → c.stales.toNat = 0))
    ∧ ((∀ i, m.source.registry.value config.keyUrl.render i = .count (c.value i))
      ∧ m.source.registry.times config.keyUrl.render
        = .samples ((m.holders.filterMap (Holder.took? s)).map Duration.toFloat)
      ∧ (m.holders.filterMap (Holder.took? s)).length = c.successes.toNat)
    ∧ ∀ {σ : Type} (send : Transport σ) (call : Call) (token : String) (net : σ),
      (m.source.verify send call token net).2
        = if (Token.claim token).isOk then (m.source.keys send call net).2
          else (m.source, net) := by
  intro m c
  change m.holders.countP Holder.hasLookedUp < 2 ^ 64 at hfew
  have h : History s m.holders m.source m.requests := run_history s now moves
  obtain ⟨log, hrecorded, hbalances⟩ := h.recorded
  have hfresh := eq_of_ofConfig hs
  have hvalue := hrecorded.counters_value (by rw [hfresh])
  have hconfig : s.config = config := ofConfig_config hs
  have hasked := hbalances.asked
  have htotal := hbalances.total
  have hkeys := hbalances.keys
  have herror := hbalances.error
  -- no counter has wrapped around, since each is at most the number of calls
  have hnat : ∀ i, log.countP i.counts < 2 ^ 64 → (c.value i).toNat = log.countP i.counts := by
    intro i hi
    rw [hvalue i, UInt64.toNat_ofNat_of_lt' hi]
  have ht : c.total.toNat = _ := hnat .total (by omega)
  have hh : c.hits.toNat = _ := hnat .hits (by omega)
  have hst : c.stales.toNat = _ := hnat .stales (by omega)
  have hsu : c.successes.toNat = _ := hnat .successes (by omega)
  have hf : c.failures.toNat = _ := hnat .failures (by omega)
  refine ⟨⟨by omega, by omega, ?_⟩, ⟨by omega, by omega, by omega, fun hp => ?_⟩,
    ⟨fun i => ?_, ?_, ?_⟩, fun send call token net => ?_⟩
  · rw [List.countP_eq_length_filter]
    exact h.length_filter_isRefreshing_le
  · rw [hst, hbalances.clear (hconfig ▸ hp)]
  · rw [← hconfig, hrecorded.registry_value (by rw [hfresh]), hvalue i]
  · rw [← hconfig, hrecorded.registry_times (by rw [hfresh]), hbalances.took]
  · rw [← hbalances.took, Metrics.length_filterMap_took?, hsu]
  · rw [Source.verify_eq]
    cases Token.claim token with
    | error e => rfl
    | ok claimed => rfl

/-- Another call at the same instant finds the keys of the first one. After they have expired the
refresh of a third one fails, and the fourth one is cancelled while it waits for a reply. -/
def countedMoves : List Move := firstMoves ++ [
  .enqueue (.keys none), .acquire, .proceed 1, .proceed 1,
  .tick (sampleInstant 70), .enqueue (.keys none), .acquire, .proceed 2, .proceed 2,
  .reply 2 .failure, .proceed 2, .proceed 2, .proceed 2,
  .enqueue (.keys none), .acquire, .proceed 3, .proceed 3, .cancel 3]

/-- Each of the four calls is counted as what it has come to, and the measures tell the same. -/
theorem counters_conserved_sample :
    let m := Shared.run lenientSource (sampleInstant 0) countedMoves
    let url := lenientSource.config.keyUrl.render
    ofConfig lenientSource.config lenientSource.client = .ok lenientSource
      ∧ m.holders.countP Holder.hasLookedUp = 4
      ∧ m.source.counters = ⟨4, 1, 1, 1, 1, 1000000⟩
      ∧ m.holders.countP Holder.wasCancelled = 1 ∧ m.holders.countP Holder.hasKeys = 3
      ∧ m.source.registry.value url .successes = .count 1
      ∧ m.source.registry.times url = .samples [(Duration.ofSeconds 1).toFloat] := by
  intro m url
  have hs : ofConfig lenientSource.config lenientSource.client = .ok lenientSource := by
    rw [ofConfig, show lenientSource.config.validate = .ok () from rfl]
    rfl
  have hrun : m.holders.countP Holder.hasLookedUp = 4
      ∧ m.source.counters = ⟨4, 1, 1, 1, 1, 1000000⟩
      ∧ m.holders.countP Holder.wasCancelled = 1 ∧ m.holders.countP Holder.hasKeys = 3
      ∧ m.holders.filterMap (Holder.took? lenientSource) = [Duration.ofSeconds 1] := by
    decide +kernel
  obtain ⟨hasked, hcounters, hcancelled, hkeys, htook⟩ := hrun
  have hfew : m.holders.countP Holder.hasLookedUp < 2 ^ 64 := by rw [hasked]; decide
  obtain ⟨-, -, ⟨hvalue, htimes, -⟩, -⟩ := counters_conserved hs hfew
  refine ⟨hs, hasked, hcounters, hcancelled, hkeys, ?_, ?_⟩
  · rw [hvalue .successes, hcounters]
    rfl
  · rw [htimes, htook]
    rfl

end Keyring.Source
