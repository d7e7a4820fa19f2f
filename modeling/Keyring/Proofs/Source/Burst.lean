import Mathlib.Tactic
import Keyring.Proofs.Source.Atomicity
import Keyring.Proofs.Source.Freshness
import Keyring.Proofs.Source.Progress
import Keyring.Proofs.Source.Serial
import Keyring.Proofs.Time.Elapsed

/-!
A burst of calls for keys.

While the clock stands still, calls are queued on a source whose keys are stale. One after the other
they refresh, each for itself, until one of them gets keys that are not stale at once; the others
are served these.

* `Move.isBurst`, `Shared.InBurst`: all operations are calls for keys, and the clock stands still.
* `Turn.isGood`: a turn has fetched keys that are not stale at once.
* `Source.staleKeys?`, `Turn.outcome`: what a call answers that refreshes.
* `History.found`: in which state a call finds the source.
* `History.counted`: what has been counted by then.
* `burst_refreshes_until_good`: how many refreshes there are, and what every call answers.
-/

namespace Keyring.Source

open Http (Reply Request)

/-! ### Calls only, and a clock that stands still -/

/-- A move in a burst: a call for keys is queued, or the operations that are there go on. -/
def Move.isBurst : Move → Bool
  | .enqueue (.keys _) => true
  | move => move.isProgress

lemma Move.isBurst_iff {move : Move} :
    move.isBurst = true ↔ (∃ client, move = .enqueue (.keys client)) ∨ move.isProgress = true := by
  cases move with
  | enqueue operation => cases operation <;> simp [isBurst, isProgress]
  | _ => simp [isBurst]

namespace Holder

variable {r : Instant} {v : Holder}

/-- A call that is not cancelled, and whose readings of the clock are all the same. -/
structure ReadsOnly (r : Instant) (v : Holder) : Prop where
  operation : ∃ client, v.turn.operation = .keys client
  uncancelled : v.turn.cancelled = false
  begun : ∀ now, v.turn.begun = some now → now = r
  arrived : ∀ now, v.turn.arrived = some now → now = r
  failed : ∀ now, v.turn.failed = some now → now = r

namespace ReadsOnly

lemma acquire (r : Instant) (number : ℕ) (client : Option Http.Client) :
    (Holder.acquire number (.keys client)).ReadsOnly r where
  operation := ⟨client, rfl⟩
  uncancelled := rfl
  begun _ h := by cases h
  arrived _ h := by cases h
  failed _ h := by cases h

lemma check (h : v.ReadsOnly r) (s : Source) : (v.check r s).2.ReadsOnly r := by
  obtain ⟨client, ho⟩ := h.operation
  have hturn : (v.check r s).2.turn = { v.turn with begun := some r } := by
    rw [Holder.check, ho]
    dsimp only
    split <;> rfl
  exact ⟨⟨client, by rw [hturn, ho]⟩, by rw [hturn]; exact h.uncancelled,
    by rw [hturn]; exact fun _ hn => (Option.some.inj hn).symm,
    by rw [hturn]; exact h.arrived, by rw [hturn]; exact h.failed⟩

lemma proceed (h : v.ReadsOnly r) (s : Source) : (v.proceed r s).2.1.ReadsOnly r := by
  rw [Holder.proceed]
  split
  · exact h.check s
  · exact ⟨h.operation, h.uncancelled, h.begun, h.arrived, h.failed⟩
  · exact h
  · exact ⟨h.operation, h.uncancelled, h.begun, fun _ hn => (Option.some.inj hn).symm, h.failed⟩
  · exact ⟨h.operation, h.uncancelled, h.begun, h.arrived, fun _ hn => (Option.some.inj hn).symm⟩
  · exact ⟨h.operation, h.uncancelled, h.begun, h.arrived, h.failed⟩
  · exact h

lemma reply (h : v.ReadsOnly r) (s : Source) (reply : Reply) : (v.reply s reply).ReadsOnly r := by
  rw [Holder.reply]
  split
  · exact ⟨h.operation, h.uncancelled, h.begun, h.arrived, h.failed⟩
  · exact h

end ReadsOnly

end Holder

namespace Shared

/-- The moves of operations that are there neither set the clock nor abandon or join the queue. -/
lemma step_of_isProgress {m : Shared} {move : Move} (hm : move.isProgress = true) :
    (m.step move).clock = m.clock
    ∧ (m.step move).abandoned = m.abandoned ∧ ∀ waiter ∈ (m.step move).queue, waiter ∈ m.queue := by
  have hupdate : ∀ place act, (m.update place act).clock = m.clock
      ∧ (m.update place act).abandoned = m.abandoned ∧ (m.update place act).queue = m.queue := by
    intro place act
    rw [update]
    split <;> exact ⟨rfl, rfl, rfl⟩
  cases move with
  | acquire =>
      rw [Shared.step]
      split
      · next first queue hl =>
        split_ifs
        · exact ⟨rfl, rfl, fun _ hw => hl ▸ List.mem_cons_of_mem _ hw⟩
        · exact ⟨rfl, rfl, fun _ hw => hw⟩
      · exact ⟨rfl, rfl, fun _ hw => hw⟩
  | proceed place =>
      obtain ⟨hc, hg, hl⟩ := hupdate place fun v => v.proceed m.clock m.source
      exact ⟨hc, hg, fun _ hw => hl ▸ hw⟩
  | reply place r =>
      obtain ⟨hc, hg, hl⟩ := hupdate place fun v => (m.source, v.reply m.source r, [])
      exact ⟨hc, hg, fun _ hw => hl ▸ hw⟩
  | _ => cases hm

/-- All operations are calls for keys, none has abandoned the queue, and the clock has shown one
instant only. -/
structure InBurst (r : Instant) (m : Shared) : Prop where
  clock : m.clock = r
  abandoned : m.abandoned = []
  queue : ∀ waiter ∈ m.queue, ∃ client, waiter.2 = .keys client
  holders : ∀ v ∈ m.holders, v.ReadsOnly r

namespace InBurst

variable {r : Instant} {m : Shared}

lemma begin (s : Source) (r : Instant) : (Shared.begin s r).InBurst r :=
  ⟨rfl, rfl, by simp [Shared.begin], by simp [Shared.begin]⟩

lemma moved (h : m.InBurst r) {move : Move} (hm : move.isBurst = true) {place : ℕ} {v : Holder}
    (hv : m.Moved place v move) : v.ReadsOnly r := by
  cases hv with
  | unchanged hv => exact h.holders v (List.mem_of_getElem? hv)
  | @acquired waiter queue hl hp =>
      obtain ⟨client, hc⟩ := h.queue waiter (hl ▸ List.mem_cons_self)
      rw [hc]
      exact .acquire r waiter.1 client
  | proceeded hu =>
      rw [h.clock]
      exact (h.holders _ (List.mem_of_getElem? hu)).proceed m.source
  | replied hu => exact (h.holders _ (List.mem_of_getElem? hu)).reply m.source _
  | cancelled hu => cases hm

lemma step (h : m.InBurst r) {move : Move} (hm : move.isBurst = true) :
    (m.step move).InBurst r := by
  have hholders : ∀ v ∈ (m.step move).holders, v.ReadsOnly r := fun v hv =>
    let ⟨_, hplace⟩ := List.mem_iff_getElem?.mp hv
    h.moved hm (step_moved hplace)
  rcases Move.isBurst_iff.mp hm with ⟨client, rfl⟩ | hprogress
  · refine ⟨h.clock, h.abandoned, fun waiter hw => ?_, hholders⟩
    rcases List.mem_append.mp hw with hw | hw
    · exact h.queue waiter hw
    · rw [List.mem_singleton.mp hw]
      exact ⟨client, rfl⟩
  · obtain ⟨hclock, habandoned, hqueue⟩ := step_of_isProgress (m := m) hprogress
    exact ⟨hclock.trans h.clock, habandoned.trans h.abandoned,
      fun w hw => h.queue w (hqueue w hw), hholders⟩

end InBurst

/-- **A run of moves that belong to bursts is a burst.** -/
lemma run_inBurst {s : Source} {r : Instant} {moves : List Move}
    (hmoves : ∀ move ∈ moves, move.isBurst = true) : (run s r moves).InBurst r := by
  induction moves using List.reverseRecOn with
  | nil => exact .begin s r
  | append_singleton moves move ih =>
      rw [run_append_singleton]
      exact (ih fun move hm => hmoves move (List.mem_append_left _ hm)).step
        (hmoves move List.mem_concat_self)

end Shared

/-! ### What a call answers that refreshes -/

/-- The keys that may be handed out at an instant although fetching has failed, if these were
installed last. -/
def staleKeys? (s : Source) (last : Snapshot) (now : Instant) : Option (List PublishedKey) :=
  if s.config.failurePolicy = .serveStale ∧ last.mayOutlive s.config.staleWhileError now = true then
    some last.keys
  else none

/-- What a call answers that refreshes, if these keys were installed last: the ones that it has
fetched, or an error unless those may still be handed out. -/
def Turn.outcome (t : Turn) (s : Source) (last : Snapshot) (now : Instant) :
    Except Error (List PublishedKey) :=
  match t.yield s with
  | .ok (fresh, _) => .ok fresh.keys
  | .error e =>
    match s.staleKeys? last now with
    | some keys => .ok keys
    | none => .error e

/-- A turn has fetched keys that are not stale at this instant. -/
def Turn.isGood (t : Turn) (s : Source) (now : Instant) : Bool :=
  match t.yield s with
  | .ok (fresh, _) => !fresh.isStale now
  | .error _ => false

/-- Keys are stale at the instant of their arrival exactly if there are none, or if they may be kept
for no time at all. -/
lemma isStale_iff_of_snapshotOf {document : Http.KeyDocument} {now : Instant} {p : Snapshot}
    (h : snapshotOf document now = .ok p) : p.isStale now = true
      ↔ p.keys = [] ∨ document.headers.maxAge = .ok Duration.zero := by
  obtain ⟨-, lifetime, hlifetime, hexpiry⟩ := snapshotOf_eq_ok h
  have hnonneg : 0 ≤ lifetime.toDelta.nanos := Int.natCast_nonneg _
  have hzero : p.expiresAt ≤ now ↔ lifetime = Duration.zero := by
    rw [((Instant.add?_eq_some_iff.mp hexpiry).le hnonneg).2]
    constructor
    · exact fun h => Duration.toNanos_injective (Int.natCast_inj.mp h)
    · rintro rfl
      rfl
  simp [Snapshot.isStale, Snapshot.isEmpty, hzero, hlifetime]

/-- The keys that the last successful refresh of these operations installed, good or not. -/
def lastInstalled (s : Source) (holders : List Holder) : Snapshot :=
  holders.foldl (fun last v =>
    match v.turn.yield s with
    | .ok (fresh, _) => fresh
    | .error _ => last) s.snapshot

variable {s s₁ s₂ : Source} {r now : Instant} {t : Turn} {v : Holder} {holders : List Holder}

lemma staleKeys?_empty (s : Source) (now : Instant) : s.staleKeys? Snapshot.empty now = none := by
  rw [staleKeys?, if_neg]
  rintro ⟨-, h⟩
  exact (Snapshot.mayOutlive_eq_true_iff.mp h).1 rfl

lemma staleKeys?_congr (h : s₁.config = s.config) (last : Snapshot) :
    s₁.staleKeys? last now = s.staleKeys? last now := by
  rw [staleKeys?, staleKeys?, h]

lemma lastInstalled_append_singleton (s : Source) (holders : List Holder) (v : Holder) :
    lastInstalled s (holders ++ [v]) = match v.turn.yield s with
      | .ok (fresh, _) => fresh
      | .error _ => lastInstalled s holders := by
  rw [lastInstalled, List.foldl_append]
  rfl

/-- **The end of a call that fetches**, by what it has fetched. -/
lemma Ends.outcome {r : Except Error (List PublishedKey)}
    (h : Ends s t.call (t.came s) (r, s₁)) :
    r = t.outcome s s.snapshot t.call.failed ∧ match t.yield s with
      | .ok (fresh, _) => s₁.snapshot = fresh
      | .error _ => s₁.snapshot = s.snapshot ∧ s.staleKeys? s.snapshot t.call.failed ≠ none
        ∨ s₁.snapshot = Snapshot.empty ∧ s.staleKeys? s.snapshot t.call.failed = none := by
  generalize hc : (r, s₁) = c at h
  rw [Turn.outcome]
  cases h with
  | installed hr =>
      obtain ⟨rfl, rfl⟩ := Prod.mk.inj hc
      rw [Turn.yield, hr]
      exact ⟨rfl, rfl⟩
  | servedStale hr hpolicy hwindow =>
      obtain ⟨rfl, rfl⟩ := Prod.mk.inj hc
      have hstaleKeys : s.staleKeys? s.snapshot t.call.failed = some s.snapshot.keys :=
        if_pos ⟨hpolicy, hwindow⟩
      rw [Turn.yield, hr]
      dsimp only
      rw [hstaleKeys]
      exact ⟨rfl, .inl ⟨by simp [asking_snapshot, hpolicy], by simp⟩⟩
  | failed hr hno =>
      obtain ⟨rfl, rfl⟩ := Prod.mk.inj hc
      have hstaleKeys : s.staleKeys? s.snapshot t.call.failed = none := if_neg hno
      rw [Turn.yield, hr]
      dsimp only
      rw [hstaleKeys]
      exact ⟨rfl, .inr ⟨rfl, rfl⟩⟩

namespace Holder.ReadsOnly

lemma call_begun (h : v.ReadsOnly r) (hread : v.turn.begun.isSome = true) :
    v.turn.call.begun = r := by
  obtain ⟨now, hnow⟩ := Option.isSome_iff_exists.mp hread
  rw [Turn.call, hnow]
  exact h.begun now hnow

lemma call_arrived (h : v.ReadsOnly r) (hread : v.turn.arrived.isSome = true) :
    v.turn.call.arrived = r := by
  obtain ⟨now, hnow⟩ := Option.isSome_iff_exists.mp hread
  rw [Turn.call, hnow]
  exact h.arrived now hnow

lemma call_failed (h : v.ReadsOnly r) (hread : v.turn.failed.isSome = true) :
    v.turn.call.failed = r := by
  obtain ⟨now, hnow⟩ := Option.isSome_iff_exists.mp hread
  rw [Turn.call, hnow]
  exact h.failed now hnow

/-- A call in a burst that finds stale keys refreshes and comes to an end. -/
lemma ends (h : v.ReadsOnly r) (hout : v.hasReleased = true) (hv : v.Accords s₁ s₂)
    (hs : s₁.snapshot.isStale r = true) :
    ∃ result, v.answer? = some (.keys result) ∧ v.turn.call.arrived = r
      ∧ v.turn.call.failed = r ∧ Ends s₁ v.turn.call (v.turn.came s₁) (result, s₂) := by
  obtain ⟨client, ho⟩ := h.operation
  obtain ⟨hrun, hcomplete⟩ := hv.run_eq (.inl hout)
  obtain ⟨hbegun, hread⟩ := hcomplete client ho
  rw [← h.call_begun hbegun] at hs
  rw [if_pos hs, h.uncancelled, Bool.and_false] at hread
  obtain ⟨harrived, hfailed⟩ := hread.resolve_left Bool.false_ne_true
  rw [Turn.run_of_uncancelled ho hs h.uncancelled] at hrun
  obtain ⟨hanswer, hrest⟩ := Prod.mk.inj hrun
  refine ⟨_, hanswer.symm, h.call_arrived harrived, h.call_failed hfailed, ?_⟩
  rw [← (Prod.mk.inj hrest).1]
  exact finish_ends s₁ v.turn.call (v.turn.came s₁)

/-- A call in a burst that finds keys which are not stale is served these. -/
lemma served (h : v.ReadsOnly r) (hout : v.hasReleased = true) (hv : v.Accords s₁ s₂)
    (hs : s₁.snapshot.isStale r = false) :
    v.answer? = some (.keys (.ok s₁.snapshot.keys)) ∧ v.requests = [] ∧ s₂ = s₁.observe .hit := by
  obtain ⟨client, ho⟩ := h.operation
  obtain ⟨hrun, hcomplete⟩ := hv.run_eq (.inl hout)
  rw [← h.call_begun (hcomplete client ho).1] at hs
  rw [Turn.run_of_not_isStale ho hs] at hrun
  obtain ⟨hanswer, hrest⟩ := Prod.mk.inj hrun
  exact ⟨hanswer.symm, (Prod.mk.inj hrest).2.symm, (Prod.mk.inj hrest).1.symm⟩

end Holder.ReadsOnly

/-! ### In which state a call finds the source -/

/-- **The state of a source after some calls** in a burst: as long as none of them has fetched good
keys, the keys are stale, and as much can be served after a failure as if they were those installed
last; from then on they are the first good ones. -/
inductive Found (r : Instant) (s : Source) (holders : List Holder) (s₁ : Source) : Prop where
  | stale (hnone : holders.find? (fun v => v.turn.isGood s r) = none)
      (hstale : s₁.snapshot.isStale r = true)
      (hstaleKeys : s.staleKeys? s₁.snapshot r = s.staleKeys? (lastInstalled s holders) r)
  | good {u : Holder} {took : Duration}
      (hfirst : holders.find? (fun v => v.turn.isGood s r) = some u)
      (hyield : u.turn.yield s = .ok (s₁.snapshot, took))
      (hfresh : s₁.snapshot.isStale r = false)

namespace History

variable {asked : List Request}

lemma found_snoc (h : Found r s holders s₁) (hsame : s₁.config = s.config ∧ s₁.client = s.client)
    (hv : v.Accords s₁ s₂) (hreads : v.ReadsOnly r) (hout : v.hasReleased = true) :
    Found r s (holders ++ [v]) s₂ := by
  have hyield := Turn.yield_congr (t := v.turn) hsame
  cases h with
  | good hfirst hy hfresh =>
      obtain ⟨-, -, rfl⟩ := hreads.served hout hv hfresh
      exact .good (by rw [List.find?_append, hfirst]; rfl) hy hfresh
  | stale hnone hstale hstaleKeys =>
      obtain ⟨result, -, -, hfailed, hends⟩ := hreads.ends hout hv hstale
      have hafter := hends.outcome.2
      rw [hyield, hfailed, staleKeys?_congr hsame.1] at hafter
      have hlast := lastInstalled_append_singleton s holders v
      have hfind : (holders ++ [v]).find? (fun v => v.turn.isGood s r)
          = [v].find? (fun v => v.turn.isGood s r) := by
        rw [List.find?_append, hnone]
        rfl
      cases hy : v.turn.yield s with
      | ok p =>
          obtain ⟨fresh, took⟩ := p
          simp only [hy] at hafter hlast
          subst hafter
          have hgood : v.turn.isGood s r = !s₂.snapshot.isStale r := by simp only [Turn.isGood, hy]
          cases hs : s₂.snapshot.isStale r with
          | true => exact .stale (by rw [hfind]; simp [hgood, hs]) hs (by rw [hlast])
          | false => exact .good (by rw [hfind]; simp [hgood, hs]) hy hs
      | error e =>
          simp only [hy] at hafter hlast
          have hbad : v.turn.isGood s r = false := by simp only [Turn.isGood, hy]
          -- the stale keys stay as long as they may be served, and otherwise none are left
          rcases hafter with ⟨hsame, -⟩ | ⟨hempty, hno⟩
          · exact .stale (by rw [hfind]; simp [hbad]) (by rw [hsame, hstale])
              (by rw [hsame, hlast, hstaleKeys])
          · exact .stale (by rw [hfind]; simp [hbad])
              (by rw [hempty]; exact isStale_of_keys_eq_nil rfl)
              (by rw [hempty, staleKeys?_empty, hlast, ← hstaleKeys, hno])

/-- **The state that a burst leaves behind** depends on whether a call has got good keys. -/
theorem found (h : History s holders s₁ asked) (hstale : s.snapshot.isStale r = true)
    (hreads : ∀ v ∈ holders, v.ReadsOnly r) (hout : holders.all Holder.hasReleased = true) :
    Found r s holders s₁ := by
  induction h with
  | nil => exact .stale rfl hstale rfl
  | @snoc past s₁ s₂ asked v h hpast hv ih =>
      refine found_snoc (ih (fun u hu => hreads u (List.mem_append_left _ hu)) hpast)
        (h.config_client_eq hpast) hv (hreads v List.mem_concat_self) ?_
      exact List.all_eq_true.mp hout v List.mem_concat_self

end History

/-! ### How many refreshes -/

/-- How many calls of a burst refresh: all up to the first one that gets good keys, that one
included, or just all if none gets any. -/
def attempts (s : Source) (r : Instant) (holders : List Holder) : ℕ :=
  min (holders.findIdx (fun v => v.turn.isGood s r) + 1) holders.length

lemma attempts_le_length (s : Source) (r : Instant) (holders : List Holder) :
    attempts s r holders ≤ holders.length :=
  min_le_right _ _

/-- Without good keys so far, one more call refreshes. -/
lemma attempts_snoc_of_none (h : holders.find? (fun v => v.turn.isGood s r) = none) (v : Holder) :
    attempts s r holders = holders.length
      ∧ attempts s r (holders ++ [v]) = attempts s r holders + 1 := by
  have hidx : holders.findIdx (fun v => v.turn.isGood s r) = holders.length :=
    List.findIdx_eq_length.mpr fun u hu => by simpa using List.find?_eq_none.mp h u hu
  rw [attempts, attempts, List.findIdx_append, hidx, if_neg (Nat.lt_irrefl _), List.length_append,
    List.length_singleton]
  omega

/-- After good keys no other call refreshes. -/
lemma attempts_snoc_of_some {u : Holder}
    (h : holders.find? (fun v => v.turn.isGood s r) = some u) (v : Holder) :
    attempts s r (holders ++ [v]) = attempts s r holders := by
  have hidx : holders.findIdx (fun v => v.turn.isGood s r) < holders.length :=
    List.findIdx_lt_length.mpr ⟨u, List.mem_of_find?_eq_some h, by
      simpa using List.find?_some h⟩
  rw [attempts, attempts, List.findIdx_append, if_pos hidx, List.length_append,
    List.length_singleton]
  omega

/-- What the counters of a source have grown by: attempts to fetch keys, each a success or a
failure, and hits. -/
structure Counted (s s₁ : Source) (attempts hits : ℕ) : Prop where
  total : s₁.counters.total = s.counters.total + UInt64.ofNat (attempts + hits)
  hits : s₁.counters.hits = s.counters.hits + UInt64.ofNat hits
  attempts : s₁.counters.successes + s₁.counters.failures
    = s.counters.successes + s.counters.failures + UInt64.ofNat attempts

namespace Counted

variable {attempts hits : ℕ}

lemma nil (s : Source) : Counted s s 0 0 := ⟨by simp, by simp, by simp⟩

lemma hit (h : Counted s s₁ attempts hits) :
    Counted s (s₁.observe .hit) attempts (hits + 1) where
  total := by
    rw [← Nat.add_assoc, UInt64.ofNat_add, ← UInt64.add_assoc, ← h.total]
    rfl
  hits := by
    rw [UInt64.ofNat_add, ← UInt64.add_assoc, ← h.hits]
    rfl
  attempts := h.attempts

lemma attempt (h : Counted s s₁ attempts hits) {call : Call}
    {fetched : Except Error Http.KeyDocument} {result : Except Error (List PublishedKey)}
    (hends : Ends s₁ call fetched (result, s₂)) : Counted s s₂ (attempts + 1) hits := by
  obtain ⟨htotal, hhits, hattempts⟩ := Access.counters_of_ends hends
  refine ⟨?_, hhits.trans h.hits, ?_⟩
  · rw [htotal, h.total, Nat.add_right_comm, UInt64.ofNat_add (attempts + hits), UInt64.add_assoc]
    rfl
  · rw [hattempts, h.attempts, UInt64.ofNat_add, UInt64.add_assoc]
    rfl

end Counted

/-- **The calls in a burst are counted** as refreshes up to the first good keys, and as hits from
then on. -/
theorem History.counted {asked : List Request} (h : History s holders s₁ asked)
    (hstale : s.snapshot.isStale r = true) (hreads : ∀ v ∈ holders, v.ReadsOnly r)
    (hout : holders.all Holder.hasReleased = true) :
    Counted s s₁ (attempts s r holders) (holders.length - attempts s r holders) := by
  induction h with
  | nil => exact .nil s
  | @snoc past s₁ s₂ asked v h hpast hv ih =>
      have hearlier : ∀ u ∈ past, u.ReadsOnly r := fun u hu => hreads u (List.mem_append_left _ hu)
      have hlast := List.all_eq_true.mp hout v List.mem_concat_self
      have hcounted := ih hearlier hpast
      rw [List.length_append, List.length_singleton]
      cases h.found hstale hearlier hpast with
      | stale hnone hs hstaleKeys =>
          obtain ⟨hall, hmore⟩ := attempts_snoc_of_none hnone v
          obtain ⟨result, -, -, -, hends⟩ := (hreads v List.mem_concat_self).ends hlast hv hs
          rw [hmore, Nat.add_sub_add_right]
          exact hcounted.attempt hends
      | good hfirst hyield hfresh =>
          obtain ⟨-, -, rfl⟩ := (hreads v List.mem_concat_self).served hlast hv hfresh
          rw [attempts_snoc_of_some hfirst, Nat.sub_add_comm (attempts_le_length s r past)]
          exact hcounted.hit

/-! ### What every call answers -/

/-- At the end of a burst all calls have acquired the lock, in the order in which they were queued.
-/
lemma Shared.InBurst.numbers_eq_range {m : Shared} (h : m.InBurst r) (horder : m.Orderly)
    (hdone : m.isDone = true) : m.holders.map Holder.number = List.range m.issued := by
  obtain ⟨-, hqueue⟩ := Bool.and_eq_true_iff.mp hdone
  have hnumbers : m.numbers = m.holders.map Holder.number := by
    rw [Shared.numbers, List.isEmpty_iff.mp hqueue, List.map_nil, List.append_nil]
  have hsorted := horder.sorted
  have hperm := horder.accounted
  rw [h.abandoned, List.append_nil] at hperm
  rw [hnumbers] at hsorted hperm
  exact hperm.eq_of_pairwise (fun a b _ _ hab hba => absurd (hab.trans hba) (Nat.lt_irrefl a))
    hsorted List.pairwise_lt_range

/-- A call is among those that refresh exactly if none before it has got good keys. -/
lemma lt_attempts_iff {i : ℕ} (hi : i < holders.length) : i < attempts s r holders
    ↔ (holders.take i).find? (fun v => v.turn.isGood s r) = none := by
  have hfirst : (holders.take i).findIdx (fun v => v.turn.isGood s r) = (holders.take i).length
      ↔ (holders.take i).find? (fun v => v.turn.isGood s r) = none := by
    rw [List.findIdx_eq_length, List.find?_eq_none]
    simp
  rw [← hfirst, List.findIdx_take, List.length_take, attempts]
  omega

/-- **What one of the calls answers**, and whether it refreshes. -/
theorem History.dealt {asked : List Request} (h : History s holders s₁ asked)
    (hstale : s.snapshot.isStale r = true) (hreads : ∀ v ∈ holders, v.ReadsOnly r)
    (hout : holders.all Holder.hasReleased = true) {i : ℕ} (hv : holders[i]? = some v) :
    (runInTurn s ((holders.take i).map Holder.turn)).2.1.snapshot.isStale r
        = decide (i < attempts s r holders)
      ∧ (i < attempts s r holders →
        v.answer? = some (.keys (v.turn.outcome s (lastInstalled s (holders.take i)) r))
        ∧ ∀ fresh took, v.turn.yield s = .ok (fresh, took) → v.turn.isGood s r = false →
          ∃ document, v.turn.came s = .ok document
            ∧ (fresh.keys = [] ∨ document.headers.maxAge = .ok Duration.zero))
      ∧ (attempts s r holders ≤ i → v.requests = [] ∧ ∃ u fresh took,
        holders.find? (fun v => v.turn.isGood s r) = some u
        ∧ u.turn.yield s = .ok (fresh, took) ∧ fresh.isStale r = false
        ∧ v.answer? = some (.keys (.ok fresh.keys))) := by
  obtain ⟨hi, hget⟩ := List.getElem?_eq_some_iff.mp hv
  have hmem := List.mem_of_getElem? hv
  have hsplit : holders = holders.take i ++ v :: holders.drop (i + 1) := by
    rw [← hget, List.cons_getElem_drop_succ, List.take_append_drop]
  obtain ⟨s₂, s₃, asked, hbefore, hpast, hacc⟩ := h.split hsplit
  have hsame := hbefore.config_client_eq hpast
  have hdone := List.all_eq_true.mp hout v hmem
  rw [hbefore.runInTurn_eq hpast]
  -- the state that the call finds depends on whether one before it has got good keys
  cases hbefore.found hstale (fun u hu => hreads u (List.mem_of_mem_take hu)) hpast with
  | stale hnone hs hstaleKeys =>
      have hlt := (lt_attempts_iff hi).mpr hnone
      obtain ⟨result, hanswer, harrived, hfailed, hends⟩ := (hreads v hmem).ends hdone hacc hs
      have hresult := hends.outcome.1
      rw [hfailed, Turn.outcome, Turn.yield_congr hsame, staleKeys?_congr hsame.1,
        hstaleKeys] at hresult
      refine ⟨by simp [hs, hlt], fun _ => ⟨?_, fun fresh took hy hbad => ?_⟩,
        fun hge => absurd hlt (Nat.not_lt.mpr hge)⟩
      · rw [hanswer, hresult]
        rfl
      · obtain ⟨document, hcame, hsnapshot, -⟩ := Turn.yield_eq_ok hy
        rw [harrived] at hsnapshot
        refine ⟨document, hcame, (isStale_iff_of_snapshotOf hsnapshot).mp ?_⟩
        simpa [Turn.isGood, hy] using hbad
  | @good u took hfirst hyield hfresh =>
      have hge : ¬ i < attempts s r holders := by
        rw [lt_attempts_iff hi, hfirst]
        exact Option.some_ne_none u
      obtain ⟨hanswer, hnone, -⟩ := (hreads v hmem).served hdone hacc hfresh
      have hall : holders.find? (fun v => v.turn.isGood s r) = some u := by
        rw [hsplit, List.find?_append, hfirst]
        rfl
      exact ⟨by simp [hfresh, hge], fun hlt => absurd hlt hge,
        fun _ => ⟨hnone, u, s₂.snapshot, took, hall, hyield, hfresh, hanswer⟩⟩

/-- **One call refreshes after the other until one gets good keys.** Let any number of calls be
queued on a source whose keys are stale, while the clock stands still. Whatever the replies are, all
of them can acquire and release the lock. Once they have, they acquired it in the order in which
they were queued. If the first one that has fetched keys that are not stale at once is the k-th,
there were k refreshes, one for each call from the first on, and if there is none such, one for
each; these are counted as successes and failures, and the other calls as hits. A call that
refreshes answers what it has fetched, which before the k-th are no keys, or keys that may be kept
for no time, or else the keys that were installed last if these may still be served, or its error.
Every call after the k-th answers the same keys as the k-th and sends nothing. -/
theorem burst_refreshes_until_good {moves : List Move} (hstale : s.snapshot.isStale r = true)
    (hmoves : ∀ move ∈ moves, move.isBurst = true) :
    let m := Shared.run s r moves
    (∀ answers : ℕ → Reply, ∃ count more, Progresses answers count more
      ∧ (∀ move ∈ moves ++ more, move.isBurst = true)
      ∧ (Shared.run s r (moves ++ more)).isDone = true
      ∧ (Shared.run s r (moves ++ more)).issued = m.issued)
    ∧ (m.isDone = true →
      let k := m.holders.findIdx fun v => v.turn.isGood s r
      let attempts := min (k + 1) m.issued
      m.holders.map Holder.number = List.range m.issued
        ∧ Counted s m.source attempts (m.issued - attempts)
        ∧ ∀ i v, m.holders[i]? = some v →
          (runInTurn s ((m.holders.take i).map Holder.turn)).2.1.snapshot.isStale r
              = decide (i < attempts)
            ∧ (i < attempts →
              v.answer? = some (.keys (v.turn.outcome s (lastInstalled s (m.holders.take i)) r)))
            ∧ (i < k → ∀ fresh took, v.turn.yield s = .ok (fresh, took) →
              ∃ document, v.turn.came s = .ok document
                ∧ (fresh.keys = [] ∨ document.headers.maxAge = .ok Duration.zero))
            ∧ (attempts ≤ i → v.requests = [] ∧ ∃ u fresh took, m.holders[k]? = some u
              ∧ u.turn.yield s = .ok (fresh, took) ∧ fresh.isStale r = false
              ∧ v.answer? = some (.keys (.ok fresh.keys)))) := by
  intro m
  have hreads : m.InBurst r := Shared.run_inBurst hmoves
  constructor
  -- all calls can acquire and release the lock
  · intro answers
    obtain ⟨count, more, hprogress, hdone, hissued⟩ := Shared.exists_isDone s r moves answers
    refine ⟨count, more, hprogress, fun move hm => ?_, hdone, hissued⟩
    rcases List.mem_append.mp hm with hm | hm
    · exact hmoves move hm
    · exact Move.isBurst_iff.mpr (.inr (hprogress.isProgress move hm))
  -- once they have, each is settled by the calls before it
  · intro hdone k attempts
    have h : History s m.holders m.source m.requests := run_history s r moves
    have hfree : m.holders.all Holder.hasReleased = true := (Bool.and_eq_true_iff.mp hdone).1
    have hnumbers := hreads.numbers_eq_range (Shared.run_orderly s r moves) hdone
    have hlength : m.holders.length = m.issued := by simpa using congrArg List.length hnumbers
    have hattempts : Source.attempts s r m.holders = attempts := by rw [Source.attempts, hlength]
    have hcounted := h.counted hstale hreads.holders hfree
    rw [hattempts, hlength] at hcounted
    refine ⟨hnumbers, hcounted, fun i v hv => ?_⟩
    have hdealt := h.dealt hstale hreads.holders hfree hv
    rw [hattempts, List.find?_eq_getElem?_findIdx] at hdealt
    obtain ⟨hstale', hown, hshared⟩ := hdealt
    obtain ⟨hi, hget⟩ := List.getElem?_eq_some_iff.mp hv
    refine ⟨hstale', fun hlt => (hown hlt).1, fun hlt fresh took hy => ?_, hshared⟩
    have hbad : v.turn.isGood s r = false := by
      simpa [hget] using List.not_of_lt_findIdx hlt
    exact (hown (by omega)).2 fresh took hy hbad

/-- A source that serves expired keys for a while if fetching fails, with keys that have expired. -/
def expiredSource : Source := { lenientSource with snapshot := ⟨[sampleKey], sampleInstant 60⟩ }

/-- Four calls at once. The first one gets no answer, the second one keys that may be kept for no
time, and the third one keys for a minute. -/
def burstMoves : List Move := [
  .enqueue (.keys none), .enqueue (.keys none), .enqueue (.keys none), .enqueue (.keys none),
  .acquire, .proceed 0, .proceed 0, .reply 0 .failure, .proceed 0, .proceed 0, .proceed 0,
  .acquire, .proceed 1, .proceed 1,
  .reply 1 (.response { sampleResponse with
    headers := [⟨"cache-control", "max-age=0".toUTF8.toList⟩] }),
  .proceed 1, .proceed 1, .proceed 1,
  .acquire, .proceed 2, .proceed 2, .reply 2 (.response sampleResponse),
  .proceed 2, .proceed 2, .proceed 2, .acquire, .proceed 3, .proceed 3]

/-- Three of them refresh, one of which serves the expired keys, and the fourth one answers the keys
of the third one. -/
theorem burst_refreshes_until_good_sample :
    let m := Shared.run expiredSource (sampleInstant 60) burstMoves
    expiredSource.snapshot.isStale (sampleInstant 60) = true
      ∧ (∀ move ∈ burstMoves, move.isBurst = true) ∧ m.isDone = true ∧ m.issued = 4
      ∧ m.holders.findIdx (fun v => v.turn.isGood expiredSource (sampleInstant 60)) = 2
      ∧ Counted expiredSource m.source 3 1
      ∧ m.source.counters = ⟨4, 1, 1, 2, 1, 1000000⟩
      ∧ ∃ v, m.holders[3]? = some v ∧ v.requests = []
        ∧ v.answer? = some (.keys (.ok [sampleKey])) := by
  intro m
  have hstale : expiredSource.snapshot.isStale (sampleInstant 60) = true := by decide
  have hmoves : ∀ move ∈ burstMoves, move.isBurst = true := by decide
  have hrun : m.isDone = true ∧ m.issued = 4
      ∧ m.holders.findIdx (fun v => v.turn.isGood expiredSource (sampleInstant 60)) = 2
      ∧ m.source.counters = ⟨4, 1, 1, 2, 1, 1000000⟩
      ∧ m.holders.map (fun v => v.answer?.bind Answer.keys?)
        = [some [sampleKey], some [sampleKey], some [sampleKey], some [sampleKey]] := by
    decide +kernel
  obtain ⟨hdone, hissued, hfirst, hcounters, hkeys⟩ := hrun
  have hreads := (burst_refreshes_until_good hstale hmoves).2 hdone
  dsimp only at hreads
  rw [hfirst, hissued] at hreads
  obtain ⟨-, hcounted, hdealt⟩ := hreads
  obtain ⟨v, hv, hgot⟩ : ∃ v, m.holders[3]? = some v
      ∧ v.answer?.bind Answer.keys? = some [sampleKey] := by
    have h := congrArg (·[3]?) hkeys
    rw [List.getElem?_map] at h
    exact Option.map_eq_some_iff.mp h
  obtain ⟨-, -, -, hshared⟩ := hdealt 3 v hv
  exact ⟨hstale, hmoves, hdone, hissued, hfirst, hcounted, hcounters, v, hv,
    (hshared (by decide)).1, Holder.answer?_eq_of_keys? hgot⟩

end Keyring.Source
