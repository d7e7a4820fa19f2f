import Mathlib.Tactic
import Keyring.Proofs.Source.Moves
import Keyring.Proofs.Source.Provenance
import Keyring.Proofs.Source.Serial
import Keyring.Proofs.Source.Verifying

/-!
Tokens that are verified among concurrent operations on a source.

If a token claims a key id, a verifier calls for keys, and the call is queued like every other one.
If it claims none the verification fails at once, and nothing is queued.

* `Shared.Settled`, `Shared.Settled.foldl_step`: where keys stay fresh nothing is sent and nothing
  is dropped.
* `Shared.HasQueued`, `Shared.hasQueued_of_step`: the operation under a number stays the same.
* `Verifier`, `Verifier.Event`, `Verifier.run`: a shared source, and the verifications that were
  begun.
* `Verifier.run_shared`: the source is as if each token that claims a key id were a call for keys,
  and no other token were verified.
* `Verifier.outcome?`, `Verifier.verify_eq`: the outcome of a verification, and that `Source.verify`
  comes to the same.
* `verify_asks_once`: verifying a token is at most one call for keys, whatever the verdict.
-/

namespace Keyring.Source

open Http (Client Playback Request Transport)

/-! ### Keys that stay fresh -/

namespace Holder

variable {v : Holder} {s : Source} {now : Instant}

/-- Whether an operation is about to drop the keys. -/
def isInvalidating (v : Holder) : Bool :=
  match v.phase with
  | .acquired => v.turn.operation = .invalidate
  | _ => false

/-- Whether an operation neither fetches keys nor is about to drop them. -/
def isPassive (v : Holder) : Bool := !v.isRefreshing && !v.isInvalidating

lemma isPassive_acquire {n : ℕ} {operation : Operation} (h : operation ≠ .invalidate) :
    (Holder.acquire n operation).isPassive = true := by
  cases operation with
  | invalidate => exact absurd rfl h
  | keys client => rfl
  | snapshot => rfl

/-- An operation that neither fetches nor drops fresh keys leaves them as they are, sends nothing,
and stays passive. -/
lemma proceed_of_isPassive (h : v.isPassive = true) (hs : s.snapshot.isStale now = false) :
    (v.proceed now s).1.snapshot = s.snapshot ∧ (v.proceed now s).2.1.isPassive = true
      ∧ (v.proceed now s).2.2 = [] := by
  obtain ⟨number, turn, requests, phase⟩ := v
  cases phase with
  | acquired =>
      cases ho : turn.operation with
      | keys client => simp [proceed, check, ho, start_of_not_isStale hs, isPassive, isRefreshing,
          isInvalidating]
      | invalidate => simp [isPassive, isInvalidating, ho] at h
      | snapshot => simp [proceed, check, ho, isPassive, isRefreshing, isInvalidating]
  | fetching previous progress => simp [isPassive, isRefreshing] at h
  | arrived previous fetched => simp [isPassive, isRefreshing] at h
  | answered answer => exact ⟨rfl, rfl, rfl⟩
  | released answer => exact ⟨rfl, rfl, rfl⟩

/-- A passive operation has no request in flight, so no reply changes it. -/
lemma reply_of_isPassive (h : v.isPassive = true) (r : Http.Reply) : v.reply s r = v := by
  obtain ⟨number, turn, requests, phase⟩ := v
  cases phase with
  | fetching previous progress => simp [isPassive, isRefreshing] at h
  | _ => rfl

/-- A passive operation waits for no reply, so cancelling it while it holds the lock changes
nothing. -/
lemma cancel_of_isPassive (h : v.isPassive = true) : v.cancel = v := by
  obtain ⟨number, turn, requests, phase⟩ := v
  cases phase with
  | fetching previous progress => simp [isPassive, isRefreshing] at h
  | _ => rfl

end Holder

/-- A move that keeps keys fresh: it neither queues an invalidation nor sets the clock to their
expiry. -/
def Move.KeepsFresh (p : Snapshot) : Move → Prop
  | .tick now => p.isStale now = false
  | .enqueue operation => operation ≠ .invalidate
  | _ => True

namespace Shared

variable {m : Shared} {move : Move} {p : Snapshot}

/-- **The keys are fresh**, no refresh is in flight, and no invalidation is pending. -/
structure Settled (m : Shared) (p : Snapshot) : Prop where
  snapshot : m.source.snapshot = p
  fresh : p.isStale m.clock = false
  inside : ∀ v ∈ m.holders, v.isPassive = true
  queue : ∀ w ∈ m.queue, w.2 ≠ .invalidate

namespace Settled

/-- The steps of passive operations keep a source settled. -/
lemma update (h : m.Settled p) (place : ℕ) {act : Holder → Source × Holder × List Request}
    (hact : ∀ v, v.isPassive = true → (act v).1.snapshot = m.source.snapshot
      ∧ (act v).2.1.isPassive = true ∧ (act v).2.2 = []) :
    (m.update place act).Settled p ∧ (m.update place act).requests = m.requests := by
  rw [Shared.update]
  cases hv : m.holders[place]? with
  | none => exact ⟨h, rfl⟩
  | some v =>
      obtain ⟨hsame, hlater, hnone⟩ := hact v (h.inside v (List.mem_of_getElem? hv))
      refine ⟨⟨hsame.trans h.snapshot, h.fresh, fun u hu => ?_, h.queue⟩, by simp [hnone]⟩
      rcases List.mem_or_eq_of_mem_set hu with hu | rfl
      · exact h.inside u hu
      · exact hlater

/-- **Every move that keeps keys fresh** keeps a source settled, and sends nothing. -/
lemma step (h : m.Settled p) (hm : move.KeepsFresh p) :
    (m.step move).Settled p ∧ (m.step move).requests = m.requests := by
  cases move with
  | tick now => exact ⟨⟨h.snapshot, hm, h.inside, h.queue⟩, rfl⟩
  | enqueue operation =>
      refine ⟨⟨h.snapshot, h.fresh, h.inside, fun w hw => ?_⟩, rfl⟩
      rcases List.mem_append.mp hw with hw | hw
      · exact h.queue w hw
      · rw [List.mem_singleton.mp hw]
        exact hm
  | abandon place =>
      rw [Shared.step]
      split
      · exact ⟨⟨h.snapshot, h.fresh, h.inside, fun w hw => h.queue w (List.mem_of_mem_eraseIdx hw)⟩,
          rfl⟩
      · exact ⟨h, rfl⟩
  | acquire =>
      rw [Shared.step]
      split
      · next waiter queue hl =>
        split_ifs
        -- the lock is acquired by an operation of the queue, and all of these are passive
        · refine ⟨⟨h.snapshot, h.fresh, fun v hv => ?_, fun w hw => ?_⟩, rfl⟩
          · rcases List.mem_append.mp hv with hv | hv
            · exact h.inside v hv
            · rw [List.mem_singleton.mp hv]
              exact Holder.isPassive_acquire (h.queue waiter (hl ▸ List.mem_cons_self))
          · exact h.queue w (hl ▸ List.mem_cons_of_mem _ hw)
        · exact ⟨h, rfl⟩
      · exact ⟨h, rfl⟩
  | proceed place =>
      have hfresh : m.source.snapshot.isStale m.clock = false := h.snapshot ▸ h.fresh
      exact h.update place fun v hv => v.proceed_of_isPassive hv hfresh
  | reply place r =>
      refine h.update place fun v hv => ⟨rfl, ?_, rfl⟩
      rw [Holder.reply_of_isPassive hv]
      exact hv
  | cancel place =>
      refine h.update place fun v hv => ⟨rfl, ?_, rfl⟩
      rw [Holder.cancel_of_isPassive hv]
      exact hv

/-- **Keys stay fresh along moves that keep them fresh**, and nothing is sent. -/
theorem foldl_step {moves : List Move} (h : m.Settled p) (hm : ∀ move ∈ moves, move.KeepsFresh p) :
    (moves.foldl Shared.step m).Settled p ∧ (moves.foldl Shared.step m).requests = m.requests := by
  induction moves generalizing m with
  | nil => exact ⟨h, rfl⟩
  | cons move moves ih =>
      obtain ⟨hsettled, hsame⟩ := h.step (hm move List.mem_cons_self)
      obtain ⟨hlater, hrest⟩ := ih hsettled fun move' h' => hm move' (List.mem_cons_of_mem _ h')
      exact ⟨hlater, hrest.trans hsame⟩

end Settled

end Shared

/-! ### The operation under a number -/

namespace Holder

variable (now : Instant) (s : Source) (v : Holder)

lemma check_operation : (v.check now s).2.turn.operation = v.turn.operation := by
  rw [check]
  split
  · split <;> rfl
  · rfl
  · rfl

/-- No step changes what an operation is. -/
lemma proceed_operation : (v.proceed now s).2.1.turn.operation = v.turn.operation := by
  rw [proceed]
  split
  · exact v.check_operation now s
  all_goals rfl

lemma reply_operation (r : Http.Reply) : (v.reply s r).turn.operation = v.turn.operation := by
  rw [Holder.reply]
  split <;> rfl

lemma cancel_operation : v.cancel.turn.operation = v.turn.operation := by
  rw [cancel]
  split <;> rfl

end Holder

namespace Shared

variable {m : Shared} {move : Move} {n : ℕ} {operation : Operation} {v : Holder}

/-- This operation was queued under this number, and is still queued or has acquired the lock. -/
def HasQueued (m : Shared) (n : ℕ) (operation : Operation) : Prop :=
  (∃ v ∈ m.holders, v.number = n ∧ v.turn.operation = operation) ∨ (n, operation) ∈ m.queue

variable (m) in
lemma update_queue (place : ℕ) (act : Holder → Source × Holder × List Request) :
    (m.update place act).queue = m.queue ∧ (m.update place act).issued = m.issued := by
  rw [update]
  split <;> exact ⟨rfl, rfl⟩

/-- An operation in the queue was there before, or has just been queued. -/
lemma mem_queue_of_step {w : ℕ × Operation} (h : w ∈ (m.step move).queue) :
    w ∈ m.queue ∨ ∃ operation, move = .enqueue operation ∧ w = (m.issued, operation) := by
  cases move with
  | tick now => exact .inl h
  | enqueue operation =>
      exact (List.mem_append.mp h).imp_right fun hw => ⟨operation, rfl, List.mem_singleton.mp hw⟩
  | abandon place =>
      rw [Shared.step] at h
      split at h
      · exact .inl (List.mem_of_mem_eraseIdx h)
      · exact .inl h
  | acquire =>
      rw [Shared.step] at h
      split at h
      · next waiter queue hl =>
        split_ifs at h
        · exact .inl (hl ▸ List.mem_cons_of_mem _ h)
        · exact .inl h
      · exact .inl h
  | proceed place => exact .inl ((m.update_queue _ _).1 ▸ h)
  | reply place r => exact .inl ((m.update_queue _ _).1 ▸ h)
  | cancel place => exact .inl ((m.update_queue _ _).1 ▸ h)

/-- **An operation with a number** had it before, or has just been queued. -/
theorem hasQueued_of_step (h : (m.step move).HasQueued n operation) :
    m.HasQueued n operation ∨ move = .enqueue operation ∧ n = m.issued := by
  rcases h with ⟨v, hv, rfl, rfl⟩ | hw
  · refine .inl ?_
    obtain ⟨place, hplace⟩ := List.mem_iff_getElem?.mp hv
    cases step_moved hplace with
    | unchanged h => exact .inl ⟨v, List.mem_of_getElem? h, rfl, rfl⟩
    | acquired hl hp => exact .inr (hl ▸ List.mem_cons_self)
    | proceeded h => exact .inl ⟨_, List.mem_of_getElem? h, (Holder.proceed_number _ _ _).symm,
        (Holder.proceed_operation _ _ _).symm⟩
    | replied h => exact .inl ⟨_, List.mem_of_getElem? h, (Holder.reply_number _ _ _).symm,
        (Holder.reply_operation _ _ _).symm⟩
    | cancelled h => exact .inl ⟨_, List.mem_of_getElem? h, (Holder.cancel_number _).symm,
        (Holder.cancel_operation _).symm⟩
  · rcases mem_queue_of_step hw with hw | ⟨operation', rfl, heq⟩
    · exact .inl (.inr hw)
    · obtain ⟨rfl, rfl⟩ := Prod.mk.inj heq
      exact .inr ⟨rfl, rfl⟩

/-- Numbers are not given twice. -/
lemma issued_le_step : m.issued ≤ (m.step move).issued := by
  cases move with
  | tick now => exact le_rfl
  | enqueue operation => exact Nat.le_succ _
  | abandon place =>
      rw [Shared.step]
      split <;> exact le_rfl
  | acquire =>
      rw [Shared.step]
      split
      · split_ifs <;> exact le_rfl
      · exact le_rfl
  | proceed place => exact (m.update_queue _ _).2.ge
  | reply place r => exact (m.update_queue _ _).2.ge
  | cancel place => exact (m.update_queue _ _).2.ge

lemma Orderly.lt_issued_of_hasQueued (h : m.Orderly) (ha : m.HasQueued n operation) :
    n < m.issued := by
  refine h.lt_issued (List.mem_append.mpr ?_)
  rcases ha with ⟨v, hv, rfl, -⟩ | hw
  · exact .inl (List.mem_map_of_mem hv)
  · exact .inr (List.mem_map.mpr ⟨_, hw, rfl⟩)

/-- An operation that has acquired the lock is found by its number. -/
lemma Orderly.find?_number (h : m.Orderly) (hv : v ∈ m.holders) :
    m.holders.find? (·.number = v.number) = some v := by
  obtain ⟨before, after, hholders⟩ := List.append_of_mem hv
  have hsorted : (m.holders.map Holder.number).Pairwise (· < ·) :=
    h.sorted.sublist (List.sublist_append_left _ _)
  rw [List.pairwise_map, hholders] at hsorted
  refine List.find?_eq_some_iff_append.mpr ⟨by simp, before, after, hholders, fun u hu => ?_⟩
  have hlt := (List.pairwise_append.mp hsorted).2.2 u hu v List.mem_cons_self
  simp [hlt.ne]

end Shared

/-! ### Verifications -/

/-- A verification that was begun: its token, and the number of its call for keys, if there is one.
-/
structure Verification where
  /-- the token -/
  token : String
  /-- the number under which the call for keys was queued -/
  number : Option ℕ
  deriving Repr, DecidableEq

/-- A shared source, and the verifications with keys of this source. -/
structure Verifier where
  /-- the source, its lock and all operations -/
  shared : Shared
  /-- the verifications in the order in which they were begun -/
  verifications : List Verification
  deriving Repr

namespace Verifier

/-- What can happen. -/
inductive Event where
  /-- The verification of a token begins, perhaps with a client in place of the usual one. -/
  | verify (token : String) (client : Option Client)
  /-- An operation or the clock makes a move. -/
  | move (move : Move)
  deriving Repr

/-- What an event comes to. The claim of a token is read before keys are called for. -/
def step (g : Verifier) : Event → Verifier
  | .verify token client =>
    match Token.claim token with
    | .error _ => { g with verifications := g.verifications ++ [⟨token, none⟩] }
    | .ok _ =>
        ⟨g.shared.step (.enqueue (.keys client)),
          g.verifications ++ [⟨token, some g.shared.issued⟩]⟩
  | .move move => { g with shared := g.shared.step move }

/-- All events, one after the other. -/
def run (s : Source) (now : Instant) (events : List Event) : Verifier :=
  events.foldl step ⟨Shared.begin s now, []⟩

/-- The answer to the call of a verification, as soon as there is one. -/
def answer? (g : Verifier) (vf : Verification) : Option Answer :=
  vf.number.bind fun n => (g.shared.holders.find? (·.number = n)).bind Holder.answer?

/-- The outcome of a verification, as soon as it is known. -/
def outcome? (g : Verifier) (vf : Verification) : Outcome String :=
  Token.judge ((g.answer? vf).bind Answer.found?) vf.token

/-- The move that an event makes. -/
def Event.move? : Event → Option Move
  | .verify token client =>
    match Token.claim token with
    | .error _ => none
    | .ok _ => some (.enqueue (.keys client))
  | .move m => some m

variable {s : Source} {now : Instant} {g : Verifier} {events : List Event} {event : Event}
  {token : String} {client : Option Client}

lemma run_append (events₁ events₂ : List Event) :
    run s now (events₁ ++ events₂) = events₂.foldl step (run s now events₁) :=
  List.foldl_append

lemma step_shared : (g.step event).shared = event.move?.elim g.shared g.shared.step := by
  cases event with
  | verify token client => cases hc : Token.claim token <;> simp [step, Event.move?, hc]
  | move move => rfl

lemma foldl_step_shared (g : Verifier) (events : List Event) :
    (events.foldl step g).shared = (events.filterMap Event.move?).foldl Shared.step g.shared := by
  induction events generalizing g with
  | nil => rfl
  | cons event events ih =>
      rw [List.foldl_cons, ih, step_shared, List.filterMap_cons]
      cases event.move? <;> rfl

/-- **The source is as if each token that claims a key id were a call for keys**, and no other token
were verified. -/
theorem run_shared (s : Source) (now : Instant) (events : List Event) :
    (run s now events).shared = Shared.run s now (events.filterMap Event.move?) :=
  foldl_step_shared _ events

/-! ### The outcome of a verification -/

/-- **A call for keys was queued for a token**, under the number that was noted, exactly if the
token claims a key id. -/
def Backs (g : Verifier) (vf : Verification) : Prop :=
  match vf.number with
  | none => ∃ e, Token.claim vf.token = .error e
  | some n => (∃ c, Token.claim vf.token = .ok c) ∧ n < g.shared.issued
    ∧ ∀ operation, g.shared.HasQueued n operation → ∃ client, operation = .keys client

/-- Later events keep the call of a verification. -/
lemma Backs.step {vf : Verification} (h : g.Backs vf) (event : Event) :
    (g.step event).Backs vf := by
  have hkept : ∀ move, (⟨g.shared.step move, g.verifications⟩ : Verifier).Backs vf := by
    intro move
    unfold Backs at h ⊢
    cases ha : vf.number with
    | none => simpa [ha] using h
    | some n =>
        simp only [ha] at h ⊢
        obtain ⟨hclaim, hlt, hcalls⟩ := h
        refine ⟨hclaim, hlt.trans_le Shared.issued_le_step, fun operation hasked => ?_⟩
        rcases Shared.hasQueued_of_step hasked with hasked | ⟨-, heq⟩
        · exact hcalls operation hasked
        · omega
  cases event with
  | verify token client =>
      rw [Verifier.step]
      split
      · exact h
      · exact hkept _
  | move m => exact hkept m

/-- A verification that begins has its call exactly if the token claims a key id. -/
lemma backs_of_verify (hg : g.shared.Orderly) {vf : Verification}
    (h : vf ∈ (g.step (.verify token client)).verifications) (hnew : vf ∉ g.verifications) :
    (g.step (.verify token client)).Backs vf := by
  rw [Verifier.step] at h ⊢
  cases hc : Token.claim token with
  | error e =>
      simp only [hc] at h ⊢
      obtain rfl := List.mem_singleton.mp ((List.mem_append.mp h).resolve_left hnew)
      exact ⟨e, hc⟩
  | ok c =>
      simp only [hc] at h ⊢
      obtain rfl := List.mem_singleton.mp ((List.mem_append.mp h).resolve_left hnew)
      refine ⟨⟨c, hc⟩, Nat.lt_succ_self _, fun operation hasked => ?_⟩
      rcases Shared.hasQueued_of_step hasked with hasked | ⟨heq, -⟩
      · exact absurd (hg.lt_issued_of_hasQueued hasked) (lt_irrefl _)
      · exact ⟨client, (Move.enqueue.inj heq).symm⟩

lemma run_orderly (s : Source) (now : Instant) (events : List Event) :
    (run s now events).shared.Orderly := by
  rw [run_shared]
  exact Shared.run_orderly _ _ _

/-- **A call for keys is queued for exactly those tokens that claim a key id**, in every run. -/
theorem run_backs {vf : Verification} (h : vf ∈ (run s now events).verifications) :
    (run s now events).Backs vf := by
  induction events using List.reverseRecOn with
  | nil => cases h
  | append_singleton events event ih =>
      rw [run_append, List.foldl_cons, List.foldl_nil] at h ⊢
      by_cases hold : vf ∈ (run s now events).verifications
      · exact (ih hold).step event
      · cases event with
        | verify token client => exact backs_of_verify (run_orderly s now events) h hold
        | move m => exact absurd h hold

/-- **The outcome of a verification** is what `Source.verify` comes to, with the readings and
replies of its call, and so is what the call has done to the source and sent. -/
theorem verify_eq {vf : Verification} {v : Holder} (hsh : vf ∈ (run s now events).verifications)
    (hv : v ∈ (run s now events).shared.holders) (hnumber : vf.number = some v.number)
    (hend : v.hasReleased = true ∨ v.answer?.isSome = true) :
    ∃ s₁ s₂, v.Accords s₁ s₂
      ∧ let r := s₁.verify Playback.send v.turn.call vf.token (.ofReplies v.turn.replies)
        r.1 = (run s now events).outcome? vf ∧ r.2.1 = s₂ ∧ r.2.2.asked = v.requests := by
  obtain ⟨⟨c, hc⟩, -, hcalls⟩ : (∃ c, Token.claim vf.token = .ok c) ∧ _ ∧ _ := by
    simpa only [Backs, hnumber] using run_backs hsh
  obtain ⟨client, ho⟩ := hcalls _ (.inl ⟨v, hv, rfl, rfl⟩)
  obtain ⟨before, after, hholders⟩ := List.append_of_mem hv
  have hhistory := run_history s now (events.filterMap Event.move?)
  rw [← run_shared, hholders] at hhistory
  obtain ⟨s₁, s₂, -, -, -, hacc⟩ := hhistory.split rfl
  have hfind := (run_orderly s now events).find?_number hv
  have houtcome : (run s now events).outcome? vf = v.verified? vf.token := by
    rw [outcome?, answer?, hnumber, Option.bind_some, hfind, Option.bind_some, Holder.verified?]
  refine ⟨s₁, s₂, hacc, ?_⟩
  rw [houtcome]
  exact hacc.verify_eq hend ho hc

/-! ### Fresh keys -/

/-- An event that keeps keys fresh. Any token may be verified. -/
def Event.KeepsFresh (p : Snapshot) : Event → Prop
  | .verify _ _ => True
  | .move m => m.KeepsFresh p

lemma Event.KeepsFresh.move? {p : Snapshot} (h : event.KeepsFresh p) {move : Move}
    (hm : event.move? = some move) : move.KeepsFresh p := by
  cases event with
  | verify token client =>
      cases hc : Token.claim token with
      | error e => simp [Event.move?, hc] at hm
      | ok c =>
          obtain rfl : Move.enqueue (.keys client) = move := by simpa [Event.move?, hc] using hm
          exact fun h => by cases h
  | move m =>
      obtain rfl := Option.some.inj hm
      exact h

/-- **Fresh keys stay, and nothing is sent**, whatever tokens are verified. -/
theorem settled_foldl_step {p : Snapshot} (h : g.shared.Settled p)
    (hkeeps : ∀ event ∈ events, event.KeepsFresh p) :
    (events.foldl step g).shared.Settled p
      ∧ (events.foldl step g).shared.requests = g.shared.requests := by
  rw [foldl_step_shared]
  refine h.foldl_step fun move hmove => ?_
  obtain ⟨event, hevent, hm⟩ := List.mem_filterMap.mp hmove
  exact (hkeeps event hevent).move? hm

end Verifier

/-! ### Verifying asks at most once -/

/-- **Verifying a token is at most one call for keys.** A token that claims no key id is refused at
once, also while the lock is held, and nothing else happens. Any other one is a call for keys and
nothing more, whatever the verdict: over every transport the source and the requests are afterwards
as that call leaves them, and among other operations the source is as if just the call were queued.
So as long as the keys are not dropped and the clock does not come to their expiry, no tokens make
the source send anything. -/
theorem verify_asks_once (s : Source) :
    (∀ {σ : Type} (send : Transport σ) (call : Call) (token : String) (net : σ),
      ((¬ ∃ t kid, Token.Claims token t kid) →
        ∃ e, s.verify send call token net = (some (.error e), s, net))
      ∧ ((∃ t kid, Token.Claims token t kid) →
        (s.verify send call token net).2 = (s.keys send call net).2))
    ∧ ∀ (now : Instant) (events : List Verifier.Event),
      let g := Verifier.run s now events
      (∀ token client, (¬ ∃ t kid, Token.Claims token t kid) →
        (g.step (.verify token client)).shared = g.shared
        ∧ ∃ e, (g.step (.verify token client)).verifications = g.verifications ++ [⟨token, none⟩]
          ∧ ∀ g' : Verifier, g'.outcome? ⟨token, none⟩ = some (.error e))
      ∧ (∀ token client, (∃ t kid, Token.Claims token t kid) →
        (g.step (.verify token client)).shared = g.shared.step (.enqueue (.keys client))
        ∧ (g.step (.verify token client)).verifications
          = g.verifications ++ [⟨token, some g.shared.issued⟩])
      ∧ g.shared = Shared.run s now (events.filterMap Verifier.Event.move?)
      ∧ (∀ vf ∈ g.verifications, ∀ v ∈ g.shared.holders, vf.number = some v.number →
        v.hasReleased = true ∨ v.answer?.isSome = true → ∃ s₁ s₂, v.Accords s₁ s₂
          ∧ let r := s₁.verify Playback.send v.turn.call vf.token (.ofReplies v.turn.replies)
            r.1 = g.outcome? vf ∧ r.2.1 = s₂ ∧ r.2.2.asked = v.requests)
      ∧ ∀ (p : Snapshot) (later : List Verifier.Event), g.shared.Settled p →
        (∀ event ∈ later, event.KeepsFresh p) →
        let g' := Verifier.run s now (events ++ later)
        g'.shared.source.snapshot = p ∧ g'.shared.requests = g.shared.requests
          ∧ g'.shared.Settled p := by
  refine ⟨fun send call token net => ⟨fun hno => ?_, ?_⟩, fun now events => ?_⟩
  -- one token on its own
  · obtain ⟨e, he⟩ := Token.exists_claim_eq_error_iff.mpr hno
    exact ⟨e, by rw [verify_eq, he]⟩
  · rintro ⟨t, kid, hclaims⟩
    rw [verify_eq, hclaims.claim_eq]
  -- tokens among other operations
  · refine ⟨fun token client hno => ?_, ?_, Verifier.run_shared s now events,
      fun vf hsh v hv hnumber hend => Verifier.verify_eq hsh hv hnumber hend,
      fun p later hsettled hkeeps => ?_⟩
    · obtain ⟨e, he⟩ := Token.exists_claim_eq_error_iff.mpr hno
      exact ⟨by simp [Verifier.step, he], e, by simp [Verifier.step, he],
        fun g' => by simp [Verifier.outcome?, Token.judge, he]⟩
    · rintro token client ⟨t, kid, hclaims⟩
      exact ⟨by simp [Verifier.step, hclaims.claim_eq], by simp [Verifier.step, hclaims.claim_eq]⟩
    · obtain ⟨hlater, hsame⟩ := Verifier.settled_foldl_step hsettled hkeeps
      rw [← Verifier.run_append] at hlater hsame
      exact ⟨hlater.snapshot, hsame, hlater⟩

/-! ### Two tokens without a signature -/

/-- A call for keys gets one for a minute. -/
def fetchingEvents : List Verifier.Event := [
  .move (.enqueue (.keys none)), .move .acquire, .move (.proceed 0), .move (.proceed 0),
  .move (.reply 0 (.response sampleResponse)),
  .move (.proceed 0), .move (.proceed 0), .move (.proceed 0)]

/-- A token of two segments is verified, and then one that claims the id `j`, whose call acquires
the lock in the last second of the minute. -/
def forgedEvents : List Verifier.Event := [
  .verify "a.b" none, .verify "eyJhbGciOiJSUzI1NiIsImtpZCI6ImoifQ.." none,
  .move (.tick (sampleInstant 59)), .move .acquire, .move (.proceed 1), .move (.proceed 1)]

/-- Both are refused, the first one without a call, and nothing is sent for the second one. -/
theorem verify_asks_once_sample :
    let g := Verifier.run sampleSource (sampleInstant 0) fetchingEvents
    let g' := Verifier.run sampleSource (sampleInstant 0) (fetchingEvents ++ forgedEvents)
    g.shared.Settled ⟨[sampleKey], sampleInstant 60⟩
      ∧ (∀ event ∈ forgedEvents, event.KeepsFresh ⟨[sampleKey], sampleInstant 60⟩)
      ∧ g'.verifications.map (fun vf => (vf.number, (g'.outcome? vf).map Except.isOk))
        = [(none, some false), (some 1, some false)]
      ∧ g.shared.requests.length = 1 ∧ g'.shared.requests = g.shared.requests := by
  intro g g'
  have hsettled : g.shared.Settled ⟨[sampleKey], sampleInstant 60⟩ :=
    ⟨by decide +kernel, by decide +kernel, by decide +kernel, by decide +kernel⟩
  have hkeeps : ∀ event ∈ forgedEvents, event.KeepsFresh ⟨[sampleKey], sampleInstant 60⟩ := by
    have hearly : Snapshot.isStale ⟨[sampleKey], sampleInstant 60⟩ (sampleInstant 59) = false := by
      decide +kernel
    simp [forgedEvents, Verifier.Event.KeepsFresh, Move.KeepsFresh, hearly]
  obtain ⟨-, hverifier⟩ := verify_asks_once sampleSource
  obtain ⟨-, -, -, -, hfresh⟩ := hverifier (sampleInstant 0) fetchingEvents
  exact ⟨hsettled, hkeeps, by decide +kernel, by decide +kernel, (hfresh _ _ hsettled hkeeps).2.1⟩

end Keyring.Source
