import Mathlib.Tactic
import Keyring.Proofs.Source.Atomicity
import Keyring.Proofs.Source.Moves
import Keyring.Proofs.Source.Verifying

/-!
Keys that were dropped do not come back.

* `Received`: keys that came in an answer on one of some moves.
* `History.rest`: the operations after some others have a history of their own, which begins with
  the source that the others have left.
* `Received.of_delivery`: installed keys came in an answer while the operation that installed them
  held the lock.
* `invalidate_final`: after the keys have been dropped no operation answers, verifies with or copies
  any but those that came in an answer since then, whatever was going on when the invalidation was
  queued, whatever fails later and wherever the clock is set.
-/

namespace Keyring.Source

open Http (Request Response)

variable {s s₀ : Source}

/-! ### Keys that came on some moves -/

/-- Keys came on one of these moves, as all those of an answer that is a success and arrived as a
whole. -/
def Received (moves : List Move) (keys : List PublishedKey) : Prop :=
  ∃ place r, Move.reply place (.response r) ∈ moves ∧ r.status.isSuccess = true
    ∧ r.body.broken = false ∧ PublishedKey.ofDocument r.body.octets = .ok keys

/-- **Keys that an operation installed** came while it held the lock, so after all moves before it
acquired the lock. -/
lemma Received.of_delivery {now : Instant} {moves₁ moves₂ : List Move} {later : List Holder}
    {u : Holder}
    {r : Response} {keys : List PublishedKey} {expiry : Instant}
    (hd : Delivery s u.turn r keys expiry)
    (hv : (Shared.run s₀ now (moves₁ ++ moves₂)).holders
      = (Shared.run s₀ now moves₁).holders ++ later) (hu : u ∈ later) :
    Received moves₂ keys := by
  obtain ⟨i, hi⟩ := List.mem_iff_getElem?.mp hu
  set place := (Shared.run s₀ now moves₁).holders.length + i with hplace
  have hplaced : (Shared.run s₀ now (moves₁ ++ moves₂)).holders[place]? = some u := by
    rw [hv, List.getElem?_append_right (by omega), hplace, Nat.add_sub_cancel_left, hi]
  rcases Shared.run_replies hplaced hd.received with ⟨u', hu', -⟩ | hr
  · rw [List.getElem?_eq_none (by omega)] at hu'
    cases hu'
  · exact ⟨place, r, hr, hd.success, hd.whole, hd.document⟩

/-! ### The history after some operations -/

namespace History

variable {past later : List Holder} {asked : List Request} {w : Holder}

/-- **The operations after some others have a history of their own**: it begins with the source that
the others have left. -/
lemma rest (h : History s₀ (past ++ later) s asked) :
    ∃ s₁ asked₁ asked₂, History s₀ past s₁ asked₁ ∧ History s₁ later s asked₂ := by
  induction later using List.reverseRecOn generalizing s asked with
  | nil => exact ⟨s, asked, [], by simpa using h, .nil⟩
  | append_singleton later v ih =>
      rw [← List.append_assoc] at h
      obtain ⟨s', asked', h', hout, hv⟩ := h.last
      obtain ⟨s₁, asked₁, asked₂, h₁, h₂⟩ := ih h'
      rw [List.all_append, Bool.and_eq_true_iff] at hout
      exact ⟨s₁, asked₁, _, h₁, h₂.snoc hout.2 hv⟩

/-- An invalidation leaves no keys. -/
lemma snapshot_of_invalidate (h : History s₀ (past ++ [w]) s asked) (hout : w.hasReleased = true)
    (ho : w.turn.operation = .invalidate) : s.snapshot = Snapshot.empty := by
  obtain ⟨s', -, -, -, hw⟩ := h.last
  have hrun := (hw.run_eq (.inl hout)).1
  rw [Turn.run, ho] at hrun
  obtain ⟨-, rfl, -⟩ : some .done = w.answer? ∧ s'.invalidate = s ∧ [] = w.requests := by
    simpa using hrun
  rfl

end History

/-- From a moment when the lock is free the history goes on with the operations that acquire it
later. -/
lemma Shared.history_from {now : Instant} {moves₁ moves₂ : List Move} {later : List Holder}
    (hfree : (run s now moves₁).isFree = true)
    (hv : (run s now (moves₁ ++ moves₂)).holders = (run s now moves₁).holders ++ later) :
    ∃ asked, History (run s now moves₁).source later (run s now (moves₁ ++ moves₂)).source
      asked := by
  have h := run_history s now (moves₁ ++ moves₂)
  rw [hv] at h
  obtain ⟨s₁, _, asked, h₁, hlater⟩ := h.rest
  obtain rfl := h₁.source_eq (run_history s now moves₁) hfree
  exact ⟨asked, hlater⟩

/-- Keys that are handed out were installed by an earlier operation, or by the call itself. -/
lemma Justified.exists_delivery {earlier : List Holder} {v : Holder} {keys : List PublishedKey}
    (h : Justified s earlier v keys) :
    ∃ u ∈ earlier ++ [v], ∃ r expiry, Delivery s u.turn r keys expiry := by
  cases h with
  | received hd => exact ⟨v, by simp, _, _, hd⟩
  | fresh he hd => exact ⟨_, by simp [he], _, _, hd⟩
  | servedStale he hd => exact ⟨_, by simp [he], _, _, hd⟩

/-- A copy of the keys at hand has none, or those that an earlier operation installed. -/
lemma History.exists_delivery_of_copy {earlier : List Holder} {asked : List Request} {v : Holder}
    {s' : Source} {p : Snapshot} (h : History s₀ earlier s asked)
    (hout : earlier.all Holder.hasReleased = true) (hs₀ : s₀.snapshot.keys = [])
    (hv : v.Accords s s') (hp : v.answer? = some (.snapshot p)) :
    p.keys = [] ∨ ∃ u ∈ earlier, ∃ r, Delivery s₀ u.turn r p.keys p.expiresAt := by
  have hcomes := v.turn.run_comes s
  rw [(hv.run_eq (.inr (by rw [hp]; rfl))).1, hp] at hcomes
  generalize v.requests = sent at hcomes
  cases hcomes with
  | copied ho =>
      refine (h.provenance hout hs₀).imp_right ?_
      rintro ⟨before, w, between, r, rfl, hd, -⟩
      exact ⟨w, by simp, r, hd⟩

/-! ### Dropping is final -/

/-- **Keys that were dropped do not come back.** An invalidation has released the lock after some
moves. Whatever the moves after that, and whichever operation acquires the lock then: keys that it
answers came in an answer on one of these later moves; so did those that it verifies a token with,
and those that it copies, if there are any; and so did the keys at hand, if there are any. -/
theorem invalidate_final {now : Instant} {moves₁ moves₂ : List Move}
    {before between later : List Holder} {w v : Holder}
    (hw : (Shared.run s now moves₁).holders = before ++ [w]) (hout : w.hasReleased = true)
    (ho : w.turn.operation = .invalidate)
    (hv : (Shared.run s now (moves₁ ++ moves₂)).holders
      = (before ++ [w]) ++ (between ++ v :: later)) :
    let atHand := (Shared.run s now (moves₁ ++ moves₂)).source.snapshot
    (∀ keys, v.answer? = some (.keys (.ok keys)) → Received moves₂ keys)
      ∧ (∀ text kid, v.verified? text = some (.ok kid) → ∃ t keys key, Received moves₂ keys
        ∧ Token.Claims text t kid ∧ Token.FirstUnder keys kid key
        ∧ t.verifySignature key = .ok ())
      ∧ (∀ p, v.answer? = some (.snapshot p) → p.keys = [] ∨ Received moves₂ p.keys)
      ∧ (atHand.keys = [] ∨ Received moves₂ atHand.keys) := by
  intro atHand
  have h₁ := run_history s now moves₁
  rw [hw] at h₁
  obtain ⟨-, -, -, hbefore, -⟩ := h₁.last
  have hfree : (Shared.run s now moves₁).isFree = true := by
    simp [Shared.isFree, hw, hbefore, hout]
  have hnone : (Shared.run s now moves₁).source.snapshot.keys = [] := by
    rw [h₁.snapshot_of_invalidate hout ho]
    rfl
  -- the operations after the invalidation have a history that begins without keys
  rw [← hw] at hv
  obtain ⟨asked, h⟩ := Shared.history_from hfree hv
  obtain ⟨s₁, s₂, _, hbetween, hfree', hacc⟩ := h.split rfl
  have hkeys : ∀ keys, v.answer? = some (.keys (.ok keys)) → Received moves₂ keys := by
    intro keys hk
    obtain ⟨u, hu, r, expiry, hd⟩ := (hbetween.justified hfree' hnone hacc hk).exists_delivery
    refine .of_delivery hd hv ?_
    rcases List.mem_append.mp hu with hu | hu
    · exact List.mem_append_left _ hu
    · simp [List.mem_singleton.mp hu]
  refine ⟨hkeys, fun text kid hk => ?_, fun p hp => ?_, ?_⟩
  · obtain ⟨t, keys, key, hanswer, hclaims, hfirst, hsigned⟩ := Holder.verified?_eq_ok hk
    exact ⟨t, keys, key, hkeys keys hanswer, hclaims, hfirst, hsigned⟩
  · refine (hbetween.exists_delivery_of_copy hfree' hnone hacc hp).imp_right ?_
    rintro ⟨u, hu, r, hd⟩
    exact .of_delivery hd hv (List.mem_append_left _ hu)
  · refine (h.installed hnone).imp_right ?_
    rintro ⟨u, hu, r, hd, -⟩
    exact .of_delivery hd hv hu

/-! ### Keys that are dropped while they are fetched -/

/-- A call fetches keys. While it waits for a reply an invalidation is queued, which acquires the
lock as soon as the call has released it. -/
def droppingMoves : List Move := [
  .enqueue (.keys none), .acquire, .proceed 0, .proceed 0, .enqueue .invalidate,
  .tick (sampleInstant 5), .reply 0 (.response sampleResponse), .proceed 0, .proceed 0, .proceed 0,
  .acquire, .proceed 1, .proceed 1]

/-- The clock is set back. Then two more calls fetch, and the first of them gets no answer. -/
def retryingMoves : List Move := [
  .tick (sampleInstant 1), .enqueue (.keys none), .enqueue (.keys none), .acquire, .proceed 2,
  .proceed 2, .reply 2 .failure, .proceed 2, .proceed 2, .proceed 2,
  .acquire, .proceed 3, .proceed 3, .reply 3 (.response sampleResponse),
  .proceed 3, .proceed 3, .proceed 3]

/-- Although stale keys are served and the clock is back before their expiry, the first of these
calls gets none, and the second gets those of its own answer. -/
theorem invalidate_final_sample :
    ∃ v₀ w u v, (Shared.run lenientSource (sampleInstant 0) droppingMoves).holders = [v₀] ++ [w]
      ∧ w.hasReleased = true ∧ w.turn.operation = .invalidate
      ∧ (Shared.run lenientSource (sampleInstant 0) (droppingMoves ++ retryingMoves)).holders
        = ([v₀] ++ [w]) ++ ([u] ++ v :: [])
      ∧ v₀.answer? = some (.keys (.ok [sampleKey])) ∧ u.answer?.bind Answer.keys? = none
      ∧ v.answer? = some (.keys (.ok [sampleKey])) ∧ Received retryingMoves [sampleKey] := by
  have hfree : (Shared.run lenientSource (sampleInstant 0) droppingMoves).isFree = true := by
    decide +kernel
  have hfirst : (Shared.run lenientSource (sampleInstant 0) droppingMoves).holders.map
      (fun v => (v.turn.operation, v.answer?.bind Answer.keys?))
        = [(.keys none, some [sampleKey]), (.invalidate, none)] := by decide +kernel
  have hall : (Shared.run lenientSource (sampleInstant 0)
      (droppingMoves ++ retryingMoves)).holders.map (fun v => v.answer?.bind Answer.keys?)
        = [some [sampleKey], none, none, some [sampleKey]] := by decide +kernel
  obtain ⟨later, hlater⟩ := Shared.exists_holders_eq_append hfree retryingMoves
  obtain ⟨v₀, rest, hholders, hv₀, hrest⟩ := List.map_eq_cons_iff.mp hfirst
  obtain ⟨w, none, rfl, hw, hnone⟩ := List.map_eq_cons_iff.mp hrest
  obtain rfl := List.map_eq_nil_iff.mp hnone
  rw [hlater, hholders] at hall
  obtain ⟨u, v, rfl⟩ : ∃ u v, later = [u, v] :=
    List.length_eq_two.mp (by simpa using congrArg List.length hall)
  obtain ⟨-, -, hu, hv⟩ : _ ∧ _ ∧ u.answer?.bind Answer.keys? = none
      ∧ v.answer?.bind Answer.keys? = some [sampleKey] := by simpa using hall
  have hout : w.hasReleased = true := by
    rw [Shared.isFree, hholders] at hfree
    exact List.all_eq_true.mp hfree w (by simp)
  have hm : (Shared.run lenientSource (sampleInstant 0)
      (droppingMoves ++ retryingMoves)).holders = ([v₀] ++ [w]) ++ ([u] ++ v :: []) := by
    rw [hlater, hholders]
    rfl
  have ho : w.turn.operation = .invalidate := (Prod.mk.inj hw).1
  exact ⟨v₀, w, u, v, hholders, hout, ho, hm, Holder.answer?_eq_of_keys? (Prod.mk.inj hv₀).2, hu,
    Holder.answer?_eq_of_keys? hv,
    (invalidate_final hholders hout ho hm).1 _ (Holder.answer?_eq_of_keys? hv)⟩

end Keyring.Source
