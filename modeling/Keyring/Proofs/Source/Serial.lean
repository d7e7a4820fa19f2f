import Mathlib.Tactic
import Keyring.Proofs.Source.History

/-!
Concurrent operations come to what they come to one after the other.

* `Shared.numbers`, `Shared.Orderly`: the operations that have acquired the lock and those in the
  queue have growing numbers; with those that abandoned the queue they are all that were ever
  queued.
* `History.runInTurn_eq`: a history in which all operations have released the lock is the run of
  their turns.
* `run_eq_runInTurn`: whatever the moves, the operations that have released the lock come to what
  they come to one after the other, in the order in which they acquired it; and so does the source
  when the lock is free.
-/

namespace Keyring.Source

open Http (Reply Request)

/-! ### No operation is lost, and none overtakes another -/

namespace Holder

variable (now : Instant) (s : Source) (v : Holder)

lemma check_number : (v.check now s).2.number = v.number := by
  rw [check]
  split
  · split <;> rfl
  · rfl
  · rfl

lemma proceed_number : (v.proceed now s).2.1.number = v.number := by
  rw [proceed]
  split
  · exact v.check_number now s
  all_goals rfl

lemma reply_number (r : Reply) : (v.reply s r).number = v.number := by
  rw [Holder.reply]
  split <;> rfl

lemma cancel_number : v.cancel.number = v.number := by
  rw [cancel]
  split <;> rfl

end Holder

namespace Shared

/-- The numbers of the operations that have acquired the lock, and then of those in the queue. -/
def numbers (m : Shared) : List ℕ := m.holders.map Holder.number ++ m.queue.map Prod.fst

/-- The lock is acquired in the order of the queue, and every operation that was queued has acquired
it, is still queued, or has abandoned the queue. -/
structure Orderly (m : Shared) : Prop where
  sorted : m.numbers.Pairwise (· < ·)
  accounted : (m.numbers ++ m.abandoned).Perm (List.range m.issued)

namespace Orderly

variable {m : Shared}

lemma begin (s : Source) (now : Instant) : (Shared.begin s now).Orderly :=
  ⟨List.Pairwise.nil, List.Perm.nil⟩

lemma lt_issued (h : m.Orderly) {n : ℕ} (hn : n ∈ m.numbers) : n < m.issued :=
  List.mem_range.mp (h.accounted.subset (List.mem_append_left _ hn))

/-- A step of an operation changes no number. -/
lemma update (h : m.Orderly) (place : ℕ) {act : Holder → Source × Holder × List Request}
    (hact : ∀ v, (act v).2.1.number = v.number) : (m.update place act).Orderly := by
  rw [Shared.update]
  cases hv : m.holders[place]? with
  | none => exact h
  | some v =>
      obtain ⟨hlt, rfl⟩ := List.getElem?_eq_some_iff.mp hv
      have hmap : (m.holders.set place (act m.holders[place]).2.1).map Holder.number
          = m.holders.map Holder.number := by
        rw [List.map_set, hact, ← List.getElem_map Holder.number (h := by simpa using hlt),
          List.set_getElem_self]
      dsimp only
      refine ⟨?_, ?_⟩
      · rw [numbers, hmap]
        exact h.sorted
      · rw [numbers, hmap]
        exact h.accounted

/-- An operation is queued under a new number and in the last place. -/
lemma enqueue (h : m.Orderly) (operation : Operation) : (m.step (.enqueue operation)).Orderly := by
  have hnum : (m.step (.enqueue operation)).numbers = m.numbers ++ [m.issued] := by
    simp [Shared.step, numbers]
  refine ⟨?_, ?_⟩
  · rw [hnum, List.pairwise_append]
    refine ⟨h.sorted, List.pairwise_singleton _ _, fun n hn k hk => ?_⟩
    rw [List.mem_singleton.mp hk]
    exact h.lt_issued hn
  · have hrange : (m.numbers ++ m.abandoned ++ [m.issued]).Perm (List.range (m.issued + 1)) := by
      rw [List.range_succ]
      exact h.accounted.append_right _
    refine List.Perm.trans ?_ hrange
    rw [hnum, List.append_assoc, List.append_assoc]
    exact List.perm_append_comm.append_left _

/-- The number of an operation that abandons the queue is kept. -/
lemma abandon (h : m.Orderly) (place : ℕ) : (m.step (.abandon place)).Orderly := by
  rw [Shared.step]
  cases hw : m.queue[place]? with
  | none => exact h
  | some waiter =>
      obtain ⟨hlt, rfl⟩ := List.getElem?_eq_some_iff.mp hw
      have hsub : ((m.queue.eraseIdx place).map Prod.fst).Sublist (m.queue.map Prod.fst) :=
        (List.eraseIdx_sublist _ _).map _
      have hperm : (m.queue[place].1 :: (m.queue.eraseIdx place).map Prod.fst).Perm
          (m.queue.map Prod.fst) :=
        (List.getElem_cons_eraseIdx_perm hlt).map Prod.fst
      refine ⟨h.sorted.sublist (hsub.append_left _), ?_⟩
      refine List.Perm.trans ?_ h.accounted
      simp only [numbers, List.append_assoc]
      refine List.Perm.append_left _ ?_
      exact List.perm_middle.trans (hperm.append_right _)

/-- The first operation in the queue acquires the lock. -/
lemma acquire (h : m.Orderly) : (m.step .acquire).Orderly := by
  rw [Shared.step]
  split
  · next waiter queue hl =>
    split_ifs with hfree
    · have hnum :
          numbers { m with queue, holders := m.holders ++ [Holder.acquire waiter.1 waiter.2] }
          = m.numbers := by
        simp [numbers, hl, Holder.acquire]
      exact ⟨hnum ▸ h.sorted, hnum ▸ h.accounted⟩
    · exact h
  · exact h

lemma step (h : m.Orderly) (move : Move) : (m.step move).Orderly := by
  cases move with
  | tick now => exact ⟨h.sorted, h.accounted⟩
  | enqueue operation => exact h.enqueue operation
  | abandon place => exact h.abandon place
  | acquire => exact h.acquire
  | proceed place => exact h.update place fun v => v.proceed_number m.clock m.source
  | reply place r => exact h.update place fun v => v.reply_number m.source r
  | cancel place => exact h.update place fun v => v.cancel_number

end Orderly

/-- Every run is in order. -/
lemma run_orderly (s : Source) (now : Instant) (moves : List Move) :
    (Shared.run s now moves).Orderly := by
  induction moves using List.reverseRecOn with
  | nil => exact .begin s now
  | append_singleton moves move ih =>
      rw [run_append_singleton]
      exact ih.step move

end Shared

/-! ### One after the other -/

namespace History

variable {s₀ s : Source} {holders : List Holder} {asked : List Request}

/-- **A history in which all operations have released the lock** is the run of their turns. -/
lemma runInTurn_eq (h : History s₀ holders s asked) (hout : holders.all Holder.hasReleased = true) :
    runInTurn s₀ (holders.map Holder.turn) = (holders.map Holder.answer?, s, asked) := by
  induction h with
  | nil => rfl
  | snoc h hpast hv ih =>
      have hlast := List.all_eq_true.mp hout _ List.mem_concat_self
      rw [List.map_append, List.map_append, List.map_singleton, runInTurn_append_singleton,
        ih hpast]
      dsimp only
      rw [(hv.run_eq (.inl hlast)).1]
      rfl

/-- The operations that have released the lock have a history of their own. -/
lemma filter_hasReleased (h : History s₀ holders s asked) :
    ∃ s' asked', History s₀ (holders.filter Holder.hasReleased) s' asked' := by
  cases h with
  | nil => exact ⟨_, _, .nil⟩
  | @snoc past _ _ _ v h hpast hv =>
      have hfilter : past.filter Holder.hasReleased = past :=
        List.filter_eq_self.mpr (List.all_eq_true.mp hpast)
      rw [List.filter_append, hfilter]
      cases ho : v.hasReleased with
      | true => exact ⟨_, _, by simpa [ho] using h.snoc hpast hv⟩
      | false => exact ⟨_, _, by simpa [ho] using h⟩

/-- **At most one refresh is in flight.** -/
lemma length_filter_isRefreshing_le (h : History s₀ holders s asked) :
    (holders.filter Holder.isRefreshing).length ≤ 1 := by
  cases h with
  | nil => simp
  | @snoc past _ _ _ v h hpast hv =>
      have hnone : past.filter Holder.isRefreshing = [] := by
        refine List.filter_eq_nil_iff.mpr fun u hu => ?_
        have hout := List.all_eq_true.mp hpast u hu
        cases hp : u.phase <;> simp_all [Holder.hasReleased, Holder.isRefreshing]
      rw [List.filter_append, hnone, List.nil_append]
      exact List.length_filter_le _ _

end History

/-- **Concurrent operations are operations in turn.** Whatever the moves, at most one refresh is in
flight. No operation overtakes another, and every operation has acquired the lock, is queued or has
abandoned the queue. The operations that have released the lock come to what they come to one after
the other, in the order in which they acquired it, with the same readings and replies; when the lock
is free, so do the source and the requests. -/
theorem run_eq_runInTurn (s : Source) (now : Instant) (moves : List Move) :
    let m := Shared.run s now moves
    let finished := m.holders.filter Holder.hasReleased
    (m.holders.filter Holder.isRefreshing).length ≤ 1
      ∧ m.numbers.Pairwise (· < ·) ∧ (m.numbers ++ m.abandoned).Perm (List.range m.issued)
      ∧ (runInTurn s (finished.map Holder.turn)).1 = finished.map Holder.answer?
      ∧ (m.isFree = true → finished = m.holders
        ∧ (runInTurn s (finished.map Holder.turn)).2 = (m.source, m.requests)) := by
  intro m finished
  have h := run_history s now moves
  have horder := Shared.run_orderly s now moves
  refine ⟨h.length_filter_isRefreshing_le, horder.sorted, horder.accounted, ?_, fun hfree => ?_⟩
  · obtain ⟨s', asked', hf⟩ := h.filter_hasReleased
    rw [hf.runInTurn_eq (List.all_eq_true.mpr fun _ hv => (List.mem_filter.mp hv).2)]
  · have hall : finished = m.holders := List.filter_eq_self.mpr (List.all_eq_true.mp hfree)
    rw [hall, h.runInTurn_eq hfree]
    exact ⟨rfl, rfl⟩

/-- Four operations are queued, and the second one abandons the queue. The first one is cancelled
while it waits for a reply, and the others acquire the lock after it. -/
def crossedMoves : List Move := [
  .enqueue (.keys none), .enqueue (.keys none), .enqueue .invalidate, .enqueue .snapshot,
  .abandon 1, .acquire, .proceed 0, .tick (sampleInstant 3), .proceed 0, .acquire, .cancel 0,
  .acquire, .proceed 1, .proceed 1, .acquire, .proceed 2, .proceed 2]

/-- All of them release the lock, and one lookup was counted. -/
theorem run_eq_runInTurn_sample :
    let m := Shared.run sampleSource (sampleInstant 0) crossedMoves
    m.isFree = true ∧ m.numbers = [0, 2, 3] ∧ m.abandoned = [1] ∧ m.requests.length = 1
      ∧ m.source.counters.total = 1
      ∧ (runInTurn sampleSource (m.holders.map Holder.turn)).2 = (m.source, m.requests) := by
  intro m
  have hfree : m.isFree = true := by decide +kernel
  obtain ⟨-, -, -, -, hend⟩ := run_eq_runInTurn sampleSource (sampleInstant 0) crossedMoves
  obtain ⟨hall, hsource⟩ := hend hfree
  rw [hall] at hsource
  exact ⟨hfree, by decide +kernel, by decide +kernel, by decide +kernel, by decide +kernel, hsource⟩

end Keyring.Source
