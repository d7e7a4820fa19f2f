import Mathlib.Tactic
import Keyring.Proofs.Source.Shared

/-!
The history of a shared source: the operations that have held the lock, one after the other.

* `Holder.Accords`: an operation has made `s'` of the source `s` up to its present phase. Once it
  has released the lock this says that `Turn.run` does the same.
* `Holder.Accords.proceed`, `Holder.Accords.reply`, `Holder.Accords.cancel`: every step preserves
  this.
* `Holder.Accords.run_eq`: an operation that has released the lock has done what its turn does at
  once.
* `History`: each operation acquired the lock after all earlier ones had released it, and found the
  source that the last of them has left.
* `run_history`: every run has such a history.
-/

namespace Keyring.Source

open Http (Attempt Fetching KeyDocument Playback Reply Request)

/-! ### Which readings have been taken -/

/-- A call has read the clock wherever its course depends on it, and if it did not fetch it has got
no replies. -/
def Turn.Complete (t : Turn) (s : Source) : Prop :=
  ∀ client, t.operation = .keys client → t.begun.isSome = true ∧
    if s.snapshot.isStale t.call.begun then
      ((t.played s).1.isWaiting && t.cancelled) = true
        ∨ t.arrived.isSome = true ∧ t.failed.isSome = true
    else t.replies = []

namespace Holder

variable {s s' : Source} {v : Holder}

/-! ### What one operation does -/

/-- An operation found stale keys in the source `s`, has made `s'` of it, and has come as far with
fetching as `progress` says. -/
structure Fetches (v : Holder) (s s' : Source) (previous : Option Snapshot) (progress : Fetching) :
    Prop where
  operation : ∃ client, v.turn.operation = .keys client
  begun : v.turn.begun.isSome = true
  start : s.start v.turn.call.begun = (.fetching previous, s')
  uncancelled : v.turn.cancelled = false
  reached : Fetching.Reached s.config (v.turn.operation.client?.getD s.client) v.turn.replies
    progress v.requests

/-- **An operation has made `s'` of the source `s`** up to its present phase. -/
def Accords (s : Source) (v : Holder) (s' : Source) : Prop :=
  match v.phase with
  | .acquired => s' = s ∧ v.turn = Turn.ofOperation v.turn.operation ∧ v.requests = []
  | .fetching previous progress => v.Fetches s s' previous progress
  | .arrived previous fetched =>
    v.Fetches s s' previous (.ended fetched) ∧ v.turn.arrived.isSome = true
  | .answered answer => v.turn.run s = (some answer, s', v.requests) ∧ v.turn.Complete s
  | .released answer => v.turn.run s = (answer, s', v.requests) ∧ v.turn.Complete s

namespace Fetches

variable {previous : Option Snapshot} {progress : Fetching}

lemma config_eq (h : v.Fetches s s' previous progress) : s'.config = s.config := by
  rw [(start_eq_fetching h.start).2.2, asking_config]

lemma client_eq (h : v.Fetches s s' previous progress) : s'.client = s.client := by
  rw [(start_eq_fetching h.start).2.2, asking_client]

lemma isStale (h : v.Fetches s s' previous progress) :
    s.snapshot.isStale v.turn.call.begun = true :=
  (start_eq_fetching h.start).1

end Fetches

namespace Accords

/-- The first step under the lock. -/
lemma check (now : Instant) (h : v.Accords s s') (hp : v.phase = .acquired) :
    (v.check now s').2.Accords s (v.check now s').1 ∧ (v.check now s').2.requests = v.requests := by
  obtain ⟨number, turn, requests, phase⟩ := v
  obtain rfl : phase = .acquired := hp
  obtain ⟨rfl, ht, rfl⟩ := h
  cases ho : turn.operation with
  | invalidate =>
      rw [Holder.check, ho]
      exact ⟨⟨by simp [Turn.run, ho], fun client hc => by simp [ho] at hc⟩, rfl⟩
  | snapshot =>
      rw [Holder.check, ho]
      exact ⟨⟨by simp [Turn.run, ho], fun client hc => by simp [ho] at hc⟩, rfl⟩
  | keys client =>
      rw [ho] at ht
      subst ht
      cases hs : s'.snapshot.isStale now with
      | false =>
          rw [Holder.check, ho, start_of_not_isStale hs]
          refine ⟨⟨Turn.run_of_not_isStale rfl hs, fun _ _ => ⟨rfl, ?_⟩⟩, rfl⟩
          simp [Turn.call, Turn.ofOperation, hs]
      | true =>
          rw [Holder.check, ho, start_of_isStale hs]
          exact ⟨⟨⟨client, rfl⟩, rfl, start_of_isStale hs, rfl, Fetching.Reached.start⟩, rfl⟩

/-- The end of a refresh. -/
lemma conclude (now : Instant) {previous : Option Snapshot} {fetched : Except Error KeyDocument}
    (h : v.Accords s s') (hp : v.phase = .arrived previous fetched) :
    (v.conclude now s' previous fetched).2.Accords s (v.conclude now s' previous fetched).1
      ∧ (v.conclude now s' previous fetched).2.requests = v.requests := by
  obtain ⟨number, turn, requests, phase⟩ := v
  obtain rfl : phase = .arrived previous fetched := hp
  obtain ⟨hf, ha⟩ := h
  obtain ⟨client, ho⟩ := hf.operation
  obtain ⟨-, rfl, rfl⟩ := start_eq_fetching hf.start
  obtain ⟨hcame, hasked⟩ := hf.reached
  -- the reading at the end changes neither the beginning nor what fetching came to
  set t : Turn := { turn with failed := some now } with ht
  have hs : s.snapshot.isStale t.call.begun = true := hf.isStale
  have hcame : t.came s = fetched := hcame
  have hasked : (t.played s).2.asked = requests := hasked
  have hrun := Turn.run_of_uncancelled (t := t) ho hs hf.uncancelled
  rw [hcame, hasked] at hrun
  have hcomplete : t.Complete s := fun _ _ =>
    ⟨hf.begun, by rw [if_pos hs]; exact .inr ⟨ha, rfl⟩⟩
  exact ⟨⟨hrun, hcomplete⟩, rfl⟩

/-- **Every step that waits for nothing.** -/
lemma proceed (now : Instant) (h : v.Accords s s') :
    (v.proceed now s').2.1.Accords s (v.proceed now s').1
      ∧ (v.proceed now s').2.1.requests = v.requests ++ (v.proceed now s').2.2 := by
  cases hp : v.phase with
  | acquired => simpa [Holder.proceed, hp] using h.check now hp
  | fetching previous progress =>
      have hf : v.Fetches s s' previous progress := by simpa [Accords, hp] using h
      cases progress with
      | asking left url =>
          have hreached := hf.reached.ask
          rw [← hf.config_eq, ← hf.client_eq] at hreached
          simp only [Holder.proceed, hp]
          refine ⟨⟨hf.operation, hf.begun, hf.start, hf.uncancelled, ?_⟩, trivial⟩
          rw [← hf.config_eq, ← hf.client_eq]
          exact hreached
      | waiting left url => simpa [Holder.proceed, hp] using h
      | ended fetched =>
          simp only [Holder.proceed, hp, List.append_nil]
          exact ⟨⟨⟨hf.operation, hf.begun, hf.start, hf.uncancelled, hf.reached⟩, rfl⟩, trivial⟩
  | arrived previous fetched => simpa [Holder.proceed, hp] using h.conclude now hp
  | answered answer =>
      have hl : v.turn.run s = (some answer, s', v.requests) ∧ v.turn.Complete s := by
        simpa [Accords, hp] using h
      simp only [Holder.proceed, hp, List.append_nil]
      exact ⟨hl, trivial⟩
  | released answer => simpa [Holder.proceed, hp] using h

/-- **A reply.** -/
lemma reply (r : Reply) (h : v.Accords s s') :
    (v.reply s' r).Accords s s' ∧ (v.reply s' r).requests = v.requests := by
  rw [Holder.reply]
  split
  · next previous left url hp =>
    have hf : v.Fetches s s' previous (.waiting left url) := by simpa [Accords, hp] using h
    refine ⟨⟨hf.operation, hf.begun, hf.start, hf.uncancelled, ?_⟩, rfl⟩
    rw [hf.config_eq, hf.client_eq]
    exact hf.reached.reply r
  · exact ⟨h, rfl⟩

/-- **Cancellation.** -/
lemma cancel (h : v.Accords s s') :
    v.cancel.Accords s s' ∧ v.cancel.requests = v.requests := by
  rw [Holder.cancel]
  split
  · next previous left url hp =>
    have hf : v.Fetches s s' previous (.waiting left url) := by simpa [Accords, hp] using h
    obtain ⟨client, ho⟩ := hf.operation
    obtain ⟨-, -, rfl⟩ := start_eq_fetching hf.start
    set t : Turn := { v.turn with cancelled := true } with ht
    have hs : s.snapshot.isStale t.call.begun = true := hf.isStale
    have hplayed : t.played s = (.waiting, ⟨[], v.requests⟩) := hf.reached.played_waiting
    have hrun := Turn.run_of_cancelled (t := t) ho hs rfl (by rw [hplayed])
    rw [hplayed] at hrun
    have hcomplete : t.Complete s := fun _ _ =>
      ⟨hf.begun, by rw [if_pos hs]; exact .inl (by rw [hplayed]; rfl)⟩
    exact ⟨⟨hrun, hcomplete⟩, rfl⟩
  · exact ⟨h, rfl⟩

/-- **What an operation has done** once its answer is known, or the lock is released, is what its
turn does at once. -/
lemma run_eq (h : v.Accords s s') (hv : v.hasReleased = true ∨ v.answer?.isSome = true) :
    v.turn.run s = (v.answer?, s', v.requests) ∧ v.turn.Complete s := by
  cases hp : v.phase with
  | answered answer => simpa [Accords, answer?, hp] using h
  | released answer => simpa [Accords, answer?, hp] using h
  | _ => simp [hasReleased, answer?, hp] at hv

end Accords

/-! ### Nothing happens after the release -/

lemma proceed_of_hasReleased (now : Instant) (h : v.hasReleased = true) :
    v.proceed now s = (s, v, []) := by
  cases hp : v.phase <;> simp_all [hasReleased, proceed]

lemma reply_of_hasReleased (r : Reply) (h : v.hasReleased = true) : v.reply s r = v := by
  cases hp : v.phase <;> simp_all [hasReleased, Holder.reply]

lemma cancel_of_hasReleased (h : v.hasReleased = true) : v.cancel = v := by
  cases hp : v.phase <;> simp_all [hasReleased, Holder.cancel]

end Holder

/-! ### All operations, one after the other -/

/-- **One holder of the lock after the other**, with the source that the first one found, the source
after the last one, and all requests: when an operation acquired the lock, all earlier ones had
released it, and it found the source that they have left. -/
inductive History (s₀ : Source) : List Holder → Source → List Request → Prop where
  | nil : History s₀ [] s₀ []
  | snoc {past : List Holder} {s s' : Source} {asked : List Request} {v : Holder}
      (h : History s₀ past s asked) (hpast : past.all Holder.hasReleased = true)
      (hv : v.Accords s s') : History s₀ (past ++ [v]) s' (asked ++ v.requests)

namespace History

variable {s₀ : Source} {m : Shared}

/-- A step of an operation continues the history, since only the last one that acquired the lock can
hold it. -/
lemma update (h : History s₀ m.holders m.source m.requests) (place : ℕ)
    {act : Holder → Source × Holder × List Request}
    (hact : ∀ s v, v.Accords s m.source →
      (act v).2.1.Accords s (act v).1 ∧ (act v).2.1.requests = v.requests ++ (act v).2.2)
    (hout : ∀ v, v.hasReleased = true → act v = (m.source, v, [])) :
    History s₀ (m.update place act).holders (m.update place act).source
      (m.update place act).requests := by
  rw [Shared.update]
  cases hv : m.holders[place]? with
  | none => exact h
  | some v =>
      dsimp only
      generalize m.holders = holders, m.source = source, m.requests = requests at *
      cases h with
      | nil => simp at hv
      | @snoc past s _ asked last h hpast hlast =>
          by_cases hp : place < past.length
          · -- an operation that has released the lock
            rw [List.getElem?_append_left hp] at hv
            have hmem := List.mem_of_getElem? hv
            rw [hout v (List.all_eq_true.mp hpast v hmem), List.append_nil,
              List.set_append_left _ _ hp]
            obtain ⟨hlt, hget⟩ := List.getElem?_eq_some_iff.mp hv
            rw [← hget, List.set_getElem_self]
            exact .snoc h hpast hlast
          · -- the last operation
            rw [List.getElem?_append_right (by omega)] at hv
            have hplace : place - past.length = 0 := by
              by_contra hne
              rw [List.getElem?_eq_none (by simp; omega)] at hv
              simp at hv
            rw [hplace, List.getElem?_cons_zero, Option.some.injEq] at hv
            subst hv
            obtain ⟨hacc, hreq⟩ := hact s last hlast
            rw [List.set_append_right _ _ (by omega), hplace, List.set_cons_zero,
              List.append_assoc, ← hreq]
            exact .snoc h hpast hacc

/-- **Every move continues the history.** -/
lemma step (h : History s₀ m.holders m.source m.requests) (move : Move) :
    History s₀ (m.step move).holders (m.step move).source (m.step move).requests := by
  cases move with
  | tick now => exact h
  | enqueue operation => exact h
  | abandon place =>
      rw [Shared.step]
      split <;> exact h
  | acquire =>
      rw [Shared.step]
      split
      · next waiter queue hl =>
        split_ifs with hfree
        · have hv : (Holder.acquire waiter.1 waiter.2).Accords m.source m.source := ⟨rfl, rfl, rfl⟩
          simpa [Holder.acquire] using h.snoc hfree hv
        · exact h
      · exact h
  | proceed place =>
      exact h.update place (fun _ _ hv => hv.proceed m.clock)
        fun _ hout => Holder.proceed_of_hasReleased m.clock hout
  | reply place r =>
      exact h.update place (fun _ _ hv => by simpa using hv.reply r)
        fun _ hout => by rw [Holder.reply_of_hasReleased r hout]
  | cancel place =>
      exact h.update place (fun _ _ hv => by simpa using hv.cancel)
        fun _ hout => by rw [Holder.cancel_of_hasReleased hout]

/-- The configuration and the client stay those of the beginning. -/
lemma config_client_eq {holders : List Holder} {s : Source} {asked : List Request}
    (h : History s₀ holders s asked) (hout : holders.all Holder.hasReleased = true) :
    s.config = s₀.config ∧ s.client = s₀.client := by
  induction h with
  | nil => exact ⟨rfl, rfl⟩
  | @snoc past s s' asked v h hpast hv ih =>
      have hlast := List.all_eq_true.mp hout _ List.mem_concat_self
      have hrun := v.turn.run_config_client s
      rw [(hv.run_eq (.inl hlast)).1] at hrun
      exact ⟨hrun.1.trans (ih hpast).1, hrun.2.trans (ih hpast).2⟩

/-- An operation found the source that the earlier ones have left after they had released the lock.
-/
lemma split {holders earlier later : List Holder} {s : Source} {asked : List Request} {v : Holder}
    (h : History s₀ holders s asked) (hv : holders = earlier ++ v :: later) :
    ∃ s₁ s₂ asked', History s₀ earlier s₁ asked' ∧ earlier.all Holder.hasReleased = true
      ∧ v.Accords s₁ s₂ := by
  induction h generalizing later with
  | nil => simp at hv
  | @snoc past s₁ s₂ asked last h hpast hlast ih =>
      rcases List.eq_nil_or_concat later with rfl | ⟨later', u, rfl⟩
      · obtain ⟨rfl, hlv⟩ := List.append_inj' hv rfl
        obtain rfl : last = v := List.head_eq_of_cons_eq hlv
        exact ⟨s₁, s₂, asked, h, hpast, hlast⟩
      · rw [List.concat_eq_append, ← List.cons_append, ← List.append_assoc] at hv
        exact ih (List.append_inj' hv rfl).1

end History

/-- **Every run has a history**: the lock was held by one operation after the other. -/
theorem run_history (s : Source) (now : Instant) (moves : List Move) :
    History s (Shared.run s now moves).holders (Shared.run s now moves).source
      (Shared.run s now moves).requests := by
  induction moves using List.reverseRecOn with
  | nil => exact .nil
  | append_singleton moves move ih =>
      rw [Shared.run_append_singleton]
      exact ih.step move

end Keyring.Source
