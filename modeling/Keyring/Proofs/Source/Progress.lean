import Mathlib.Tactic
import Keyring.Proofs.Source.History
import Keyring.Proofs.Source.Moves

/-!
Every operation acquires the lock and releases it.

An operation that holds the lock has only so many steps left, since its client follows only so many
redirects. So whatever its replies are, it comes to its end, and then the next one in the queue
acquires the lock.

* `Fetching.rank`, `Phase.rank`: how many steps an operation has left at most.
* `Holder.proceed_rank_lt`, `Holder.reply_rank_lt`: each of its steps makes this less.
* `Progresses`: moves of the operations that are there already, with replies that are given.
* `Shared.exists_released`: an operation that holds the lock releases it.
* `Shared.exists_isDone`: all operations, also those in the queue, release the lock.
-/

namespace Keyring

open Http (Client Fetching KeyDocument Reply Request)

/-! ### How many steps are left -/

namespace Http.Fetching

variable {config : Config}

/-- How many steps fetching has left at most: asking and being replied to, once for each redirect
that may still be followed, and once for the first request. -/
def rank : Fetching → ℕ
  | .ended _ => 0
  | .waiting left _ => 2 * left + 1
  | .asking left _ => 2 * left + 2

lemma ask_rank_lt (config : Config) (client : Client) (left : ℕ) (url : Url) :
    (ask config client left url).1.rank < (asking left url).rank := by
  rw [ask]
  split_ifs <;> simp [rank]

lemma reply_rank_lt (config : Config) (client : Client) (left : ℕ) (url : Url) (r : Reply) :
    (reply config client left url r).rank < (waiting left url).rank := by
  rw [reply.eq_def]
  split
  · simp [rank]
  · simp [rank]
  · split
    · simp [rank]
    · split
      · simp [rank]
      · simp only [rank]
        omega

end Http.Fetching

namespace Source

/-- How many steps an operation has left at most until it releases the lock. One that has done
nothing yet comes before all others, as any number of redirects may be followed. -/
def Phase.rank : Phase → ℕ ×ₗ ℕ
  | .released _ => toLex (0, 0)
  | .answered _ => toLex (0, 1)
  | .arrived _ _ => toLex (0, 2)
  | .fetching _ progress => toLex (0, progress.rank + 3)
  | .acquired => toLex (1, 0)

lemma Phase.fetching_rank_lt {previous : Option Snapshot} {progress progress' : Fetching}
    (h : progress.rank < progress'.rank) :
    (Phase.fetching previous progress).rank < (Phase.fetching previous progress').rank := by
  rw [rank, rank, Prod.Lex.toLex_lt_toLex]
  exact .inr ⟨rfl, Nat.add_lt_add_right h 3⟩

namespace Holder

variable (now : Instant) (s : Source) {v : Holder}

/-- Whether an operation waits for a reply. -/
def isWaiting (v : Holder) : Bool :=
  match v.phase with
  | .fetching _ (.waiting _ _) => true
  | _ => false

lemma check_rank_lt (v : Holder) : (v.check now s).2.phase.rank < Phase.acquired.rank := by
  rw [check]
  split
  · split <;> simp [Phase.rank, Prod.Lex.toLex_lt_toLex]
  · simp [Phase.rank, Prod.Lex.toLex_lt_toLex]
  · simp [Phase.rank, Prod.Lex.toLex_lt_toLex]

/-- **Each step** brings an operation nearer to its end, unless it waits for a reply. -/
lemma proceed_rank_lt (hin : v.hasReleased = false) (hw : v.isWaiting = false) :
    (v.proceed now s).2.1.phase.rank < v.phase.rank := by
  rw [proceed]
  split
  · next hp =>
    rw [hp]
    exact v.check_rank_lt now s
  · next previous left url hp =>
    rw [hp]
    exact Phase.fetching_rank_lt (Fetching.ask_rank_lt s.config _ left url)
  · next hp => simp [isWaiting, hp] at hw
  · next hp => simp [hp, Phase.rank, Fetching.rank, Prod.Lex.toLex_lt_toLex]
  · next hp => simp [hp, Phase.rank, conclude, Prod.Lex.toLex_lt_toLex]
  · next hp => simp [hp, Phase.rank, Prod.Lex.toLex_lt_toLex]
  · next hp => simp [hasReleased, hp] at hin

/-- **A reply** brings an operation that waits for it nearer to its end. -/
lemma reply_rank_lt (r : Reply) (hw : v.isWaiting = true) :
    (v.reply s r).phase.rank < v.phase.rank := by
  rw [Holder.reply]
  split
  · next previous left url hp =>
    rw [hp]
    exact Phase.fetching_rank_lt (Fetching.reply_rank_lt s.config _ left url r)
  · next hp =>
    cases hphase : v.phase with
    | fetching previous progress =>
        cases progress with
        | waiting left url => exact absurd hphase (hp previous left url)
        | _ => simp [isWaiting, hphase] at hw
    | _ => simp [isWaiting, hphase] at hw

end Holder

/-! ### Moves with given replies -/

/-- A move of the operations that are there already: none is queued or cancelled, and the clock is
not set. -/
def Move.isProgress : Move → Bool
  | .acquire => true
  | .proceed _ => true
  | .reply _ _ => true
  | _ => false

/-- The reply that comes on a move. -/
def Move.reply? : Move → Option Reply
  | .reply _ r => some r
  | _ => none

/-- Moves of the operations that are there already, on which so many of these answers come, the
first one first. -/
structure Progresses (answers : ℕ → Reply) (count : ℕ) (moves : List Move) : Prop where
  isProgress : ∀ move ∈ moves, move.isProgress = true
  replies : moves.filterMap Move.reply? = (List.range count).map answers

namespace Progresses

variable {answers : ℕ → Reply} {count count' : ℕ} {moves moves' : List Move}

lemma nil (answers : ℕ → Reply) : Progresses answers 0 [] := ⟨by simp, rfl⟩

lemma append (h : Progresses answers count moves)
    (h' : Progresses (fun i => answers (count + i)) count' moves') :
    Progresses answers (count + count') (moves ++ moves') where
  isProgress move hm := (List.mem_append.mp hm).elim (h.isProgress move) (h'.isProgress move)
  replies := by
    rw [List.filterMap_append, h.replies, h'.replies, List.range_add, List.map_append,
      List.map_map]
    rfl

/-- A move without a reply takes none of the answers. -/
lemma cons {move : Move} (ho : move.isProgress = true) (hr : move.reply? = none)
    (h : Progresses answers count moves) : Progresses answers count (move :: moves) where
  isProgress := List.forall_mem_cons.mpr ⟨ho, h.isProgress⟩
  replies := by rw [List.filterMap_cons_none hr, h.replies]

/-- A move with the first answer leaves the others for the moves after it. -/
lemma cons_reply (place : ℕ) (h : Progresses (fun i => answers (i + 1)) count moves) :
    Progresses answers (count + 1) (.reply place (answers 0) :: moves) where
  isProgress := List.forall_mem_cons.mpr ⟨rfl, h.isProgress⟩
  replies := by
    have hr : (Move.reply place (answers 0)).reply? = some (answers 0) := rfl
    rw [List.filterMap_cons_some hr, h.replies, List.range_succ_eq_map, List.map_cons,
      List.map_map]
    rfl

end Progresses

/-! ### Releasing the lock -/

namespace Shared

variable {m : Shared} {past : List Holder} {v : Holder}

/-- Whether all operations have acquired the lock and released it. -/
def isDone (m : Shared) : Bool := m.isFree && m.queue.isEmpty

/-- A step of the operation that acquired the lock last. -/
lemma update_last (hm : m.holders = past ++ [v]) (act : Holder → Source × Holder × List Request) :
    (m.update past.length act).holders = past ++ [(act v).2.1]
      ∧ (m.update past.length act).queue = m.queue
      ∧ (m.update past.length act).issued = m.issued := by
  have hv : m.holders[past.length]? = some v := by simp [hm]
  rw [update, hv]
  refine ⟨?_, rfl, rfl⟩
  dsimp only
  rw [hm, List.set_append_right _ _ (Nat.le_refl _), Nat.sub_self, List.set_cons_zero]

/-- **An operation that holds the lock releases it**, whatever answers come, while the others stay
in the queue. -/
lemma exists_released (answers : ℕ → Reply) (hm : m.holders = past ++ [v]) :
    ∃ count moves v', Progresses answers count moves
      ∧ (moves.foldl step m).holders = past ++ [v'] ∧ v'.hasReleased = true
      ∧ (moves.foldl step m).queue = m.queue ∧ (moves.foldl step m).issued = m.issued := by
  induction hrank : v.phase.rank using WellFoundedLT.induction generalizing m v answers with
  | _ rank ih =>
    subst hrank
    cases hout : v.hasReleased with
    | true => exact ⟨0, [], v, .nil answers, hm, hout, rfl, rfl⟩
    | false =>
        cases hw : v.isWaiting with
        | false =>
            obtain ⟨hholders, hqueue, hissued⟩ :=
              update_last hm fun v => v.proceed m.clock m.source
            obtain ⟨count, moves, v', hprogress, hv', hout', hline', hissued'⟩ :=
              ih _ (Holder.proceed_rank_lt m.clock m.source hout hw) answers hholders rfl
            exact ⟨count, .proceed past.length :: moves, v', hprogress.cons rfl rfl, hv', hout',
              hline'.trans hqueue, hissued'.trans hissued⟩
        | true =>
            obtain ⟨hholders, hqueue, hissued⟩ :=
              update_last hm fun v => (m.source, v.reply m.source (answers 0), [])
            obtain ⟨count, moves, v', hprogress, hv', hout', hline', hissued'⟩ :=
              ih _ (Holder.reply_rank_lt m.source (answers 0) hw) (fun i => answers (i + 1))
                hholders rfl
            exact ⟨count + 1, .reply past.length (answers 0) :: moves, v',
              hprogress.cons_reply past.length, hv', hout', hline'.trans hqueue,
              hissued'.trans hissued⟩

/-- From a moment when the lock is free, every operation in the queue acquires and releases it. -/
lemma exists_isDone_of_isFree (answers : ℕ → Reply) (hfree : m.isFree = true) :
    ∃ count moves, Progresses answers count moves ∧ (moves.foldl step m).isDone = true
      ∧ (moves.foldl step m).issued = m.issued := by
  generalize hl : m.queue = queue
  induction queue generalizing m answers with
  | nil => exact ⟨0, [], .nil answers, by simp [isDone, hfree, hl], rfl⟩
  | cons waiter queue ih =>
      have hacquire : m.step .acquire
          = { m with queue, holders := m.holders ++ [Holder.acquire waiter.1 waiter.2] } := by
        simp [step, hl, hfree]
      obtain ⟨count, moves, v', hprogress, hv', hout, hqueue, hissued⟩ :=
        exists_released (m := m.step .acquire) answers (by rw [hacquire])
      have hfree' : (moves.foldl step (m.step .acquire)).isFree = true := by
        rw [isFree] at hfree
        rw [isFree, hv', List.all_append, hfree]
        simp [hout]
      obtain ⟨count', moves', hprogress', hdone, hissued'⟩ :=
        ih (fun i => answers (count + i)) hfree' (by rw [hqueue, hacquire])
      refine ⟨count + count', .acquire :: moves ++ moves',
        (hprogress.cons rfl rfl).append hprogress', ?_, ?_⟩
      · rwa [List.foldl_append]
      · rw [List.foldl_append]
        exact hissued'.trans (hissued.trans (by rw [hacquire]))

/-- **Every operation acquires the lock and releases it**, whatever has happened before and whatever
answers come. -/
theorem exists_isDone (s : Source) (now : Instant) (moves : List Move) (answers : ℕ → Reply) :
    ∃ count more, Progresses answers count more ∧ (run s now (moves ++ more)).isDone = true
      ∧ (run s now (moves ++ more)).issued = (run s now moves).issued := by
  have hhistory := run_history s now moves
  generalize hholders : (run s now moves).holders = holders, (run s now moves).source = source,
    (run s now moves).requests = requests at hhistory
  cases hhistory with
  | nil =>
      have hfree : (run s now moves).isFree = true := by rw [isFree, hholders]; rfl
      obtain ⟨count, more, hprogress, hdone, hissued⟩ := exists_isDone_of_isFree answers hfree
      rw [← run_append] at hdone hissued
      exact ⟨count, more, hprogress, hdone, hissued⟩
  | @snoc past _ _ _ v _ hpast _ =>
      obtain ⟨count, more, v', hprogress, hv', hout, -, hissued⟩ := exists_released answers hholders
      rw [← run_append] at hv' hissued
      have hfree : (run s now (moves ++ more)).isFree = true := by
        rw [isFree, hv', List.all_append, hpast]
        simp [hout]
      obtain ⟨count', more', hprogress', hdone, hissued'⟩ :=
        exists_isDone_of_isFree (fun i => answers (count + i)) hfree
      rw [← run_append, List.append_assoc] at hdone hissued'
      exact ⟨count + count', more ++ more', hprogress.append hprogress', hdone,
        hissued'.trans hissued⟩

end Shared

end Source

end Keyring
