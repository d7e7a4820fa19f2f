import Mathlib.Tactic
import Keyring.Proofs.Source.Shared

/-!
What a move does to the operations that have acquired the lock.

* `Shared.Moved`: the ways in which a move can lead to the state of an operation: the operation was
  in this state before, it has just acquired the lock, or the move is a step of its own.
* `Shared.step_moved`: there are no other ways.
* `Shared.run_replies`: the replies to an operation came on moves of the run.
-/

namespace Keyring.Source

open Http (Reply)

namespace Shared

variable {s : Source} {now : Instant} {m : Shared}

/-! ### The state of an operation after a move -/

/-- **How a move leads to the state of an operation.** -/
inductive Moved (m : Shared) (place : ℕ) : Holder → Move → Prop where
  /-- The move does not concern the operation. -/
  | unchanged {v : Holder} {move : Move} (h : m.holders[place]? = some v) : Moved m place v move
  /-- The operation was the first one in the queue, and has acquired the lock. -/
  | acquired {waiter : ℕ × Operation} {queue : List (ℕ × Operation)}
      (hl : m.queue = waiter :: queue)
      (hp : place = m.holders.length) : Moved m place (Holder.acquire waiter.1 waiter.2) .acquire
  /-- The operation has taken a step. -/
  | proceeded {v : Holder} (h : m.holders[place]? = some v) :
      Moved m place (v.proceed m.clock m.source).2.1 (.proceed place)
  /-- A reply to the operation has come. -/
  | replied {v : Holder} {r : Reply} (h : m.holders[place]? = some v) :
      Moved m place (v.reply m.source r) (.reply place r)
  /-- The operation has been cancelled. -/
  | cancelled {v : Holder} (h : m.holders[place]? = some v) : Moved m place v.cancel (.cancel place)

/-- A step of one operation leaves all others as they are. -/
lemma update_getElem? {place i : ℕ} {act : Holder → Source × Holder × List Http.Request}
    {v : Holder}
    (h : (m.update place act).holders[i]? = some v) :
    m.holders[i]? = some v ∨ i = place ∧ ∃ u, m.holders[place]? = some u ∧ v = (act u).2.1 := by
  rw [update] at h
  cases hu : m.holders[place]? with
  | none => exact .inl (by simpa [hu] using h)
  | some u =>
      rw [hu] at h
      dsimp only at h
      by_cases hi : place = i
      · subst hi
        obtain ⟨hlt, -⟩ := List.getElem?_eq_some_iff.mp hu
        rw [List.getElem?_set_self hlt] at h
        exact .inr ⟨rfl, u, rfl, (Option.some.inj h).symm⟩
      · rw [List.getElem?_set_ne hi] at h
        exact .inl h

/-- **There are no other ways to the state of an operation.** -/
theorem step_moved {move : Move} {place : ℕ} {v : Holder}
    (h : (m.step move).holders[place]? = some v) : Moved m place v move := by
  cases move with
  | tick now => exact .unchanged h
  | enqueue operation => exact .unchanged h
  | abandon i =>
      rw [step] at h
      split at h
      · exact .unchanged h
      · exact .unchanged h
  | acquire =>
      rw [step] at h
      split at h
      · next waiter queue hl =>
        split_ifs at h with hfree
        -- only the place after the last operation is new
        · by_cases hp : place < m.holders.length
          · rw [List.getElem?_append_left hp] at h
            exact .unchanged h
          · rw [List.getElem?_append_right (Nat.not_lt.mp hp),
              List.getElem?_singleton] at h
            split_ifs at h with hzero
            obtain rfl := Option.some.inj h
            exact .acquired hl (by omega)
        · exact .unchanged h
      · exact .unchanged h
  | proceed i =>
      rcases update_getElem? h with h | ⟨rfl, u, hu, rfl⟩
      · exact .unchanged h
      · exact .proceeded hu
  | reply i r =>
      rcases update_getElem? h with h | ⟨rfl, u, hu, rfl⟩
      · exact .unchanged h
      · exact .replied hu
  | cancel i =>
      rcases update_getElem? h with h | ⟨rfl, u, hu, rfl⟩
      · exact .unchanged h
      · exact .cancelled hu

end Shared

/-! ### Replies -/

namespace Holder

variable (now : Instant) (s : Source) (v : Holder)

lemma check_replies : (v.check now s).2.turn.replies = v.turn.replies := by
  rw [check]
  split
  · split <;> rfl
  · rfl
  · rfl

/-- The steps of an operation bring no reply. -/
lemma proceed_replies : (v.proceed now s).2.1.turn.replies = v.turn.replies := by
  rw [proceed]
  split
  · exact v.check_replies now s
  all_goals rfl

lemma cancel_replies : v.cancel.turn.replies = v.turn.replies := by
  rw [cancel]
  split <;> rfl

lemma mem_of_mem_reply {r r' : Reply} (h : r' ∈ (v.reply s r).turn.replies) :
    r' ∈ v.turn.replies ∨ r' = r := by
  rw [Holder.reply] at h
  split at h
  · simpa using h
  · exact .inl h

end Holder

namespace Shared

variable {m : Shared} {s : Source} {now : Instant} {place : ℕ} {v : Holder} {r : Reply}

/-- A reply to an operation came before, or on this move. -/
lemma Moved.replies {move : Move} (h : m.Moved place v move) (hr : r ∈ v.turn.replies) :
    (∃ u, m.holders[place]? = some u ∧ r ∈ u.turn.replies) ∨ move = .reply place r := by
  cases h with
  | unchanged h => exact .inl ⟨v, h, hr⟩
  | acquired hl hp => cases hr
  | proceeded h => exact .inl ⟨_, h, by rwa [Holder.proceed_replies] at hr⟩
  | replied h =>
      rcases Holder.mem_of_mem_reply _ _ hr with hr | rfl
      · exact .inl ⟨_, h, hr⟩
      · exact .inr rfl
  | cancelled h => exact .inl ⟨_, h, by rwa [Holder.cancel_replies] at hr⟩

/-- **A reply to an operation** came before some moves, or on one of them. -/
theorem run_replies {moves₁ moves₂ : List Move}
    (h : (run s now (moves₁ ++ moves₂)).holders[place]? = some v) (hr : r ∈ v.turn.replies) :
    (∃ u, (run s now moves₁).holders[place]? = some u ∧ r ∈ u.turn.replies)
      ∨ .reply place r ∈ moves₂ := by
  induction moves₂ using List.reverseRecOn generalizing v with
  | nil => exact .inl ⟨v, by simpa using h, hr⟩
  | append_singleton moves₂ move ih =>
      rw [← List.append_assoc, run_append_singleton] at h
      rcases (step_moved h).replies hr with ⟨u, hu, hru⟩ | rfl
      · exact (ih hu hru).imp_right (List.mem_append_left _)
      · exact .inr List.mem_concat_self

end Shared

end Keyring.Source
