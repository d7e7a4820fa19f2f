import Mathlib.Tactic
import Keyring.Proofs.Time.Locked

/-!
Many handles on one clock.

A handle knows the place of a clock, and cloning a handle copies the place: a clock is shared by
exactly the handles that were cloned from one another. Acts follow each other: handles are cloned,
and clocks are asked through handles.

* `Shelf`, `Act`, `Shelf.run`: clocks, the handles on them, and what is done with these.
* `Clock.run`: the answers of a clock to one request after the other; `Obeys`: what they are to be,
  in exact arithmetic; `obeys_of_run`.
* `Shelf.told`, `Shelf.run_told`: what a clock was asked through any of its handles is all that it
  goes through.
* `Shelf.Shows.run`: cells answer as clocks do, whatever is done with them.
* `Shelf.SameFrom`, `Shelf.Shows.sameFrom`: shelves that cannot be told apart.
* `handles_exact`: all handles on a clock show one reading, which is the exact one; a move that
  fails is as good as never asked for.
* `leap_second_left`: where a clock in a leap second moves.
-/

namespace Keyring

namespace Clock

open Words (Moment Shift)

/-! ### Acts -/

/-- What is done with handles. -/
inductive Act where
  /-- A handle is cloned. The new one gets the next number. -/
  | clone (h : ℕ)
  /-- A clock is asked through a handle. -/
  | ask (h : ℕ) (r : Request)

/-- What was asked, and the answer. -/
structure Entry where
  /-- the handle -/
  handle : ℕ
  /-- what was asked through it -/
  request : Request
  /-- the answer -/
  reply : Reply

/-- Clocks of some kind, and the handles on them. -/
structure Shelf (κ : Type) where
  /-- the clock at each place -/
  clocks : ℕ → κ
  /-- the place that each handle knows -/
  places : List ℕ

namespace Shelf

section

variable {κ : Type}

/-- The shelf with another clock at a place. -/
def put (s : Shelf κ) (k : ℕ) (x : κ) : Shelf κ := { s with clocks := Function.update s.clocks k x }

@[simp] lemma put_clocks_self (s : Shelf κ) (k : ℕ) (x : κ) : (s.put k x).clocks k = x :=
  Function.update_self ..

lemma put_clocks_of_ne (s : Shelf κ) {j k : ℕ} (h : j ≠ k) (x : κ) :
    (s.put k x).clocks j = s.clocks j :=
  Function.update_of_ne h ..

lemma put_put (s : Shelf κ) (k : ℕ) (x y : κ) : (s.put k x).put k y = s.put k y := by
  rw [put, put, put, Function.update_idem]

variable (answer : κ → Request → Except Trouble (κ × Reply))

/-- The shelf after an act, and what was answered. Without a handle nothing can be done. -/
def step (s : Shelf κ) : Act → Except Trouble (Shelf κ × List Entry)
  | .clone h => .ok ({ s with places := s.places ++ s.places[h]?.toList }, [])
  | .ask h r =>
    match s.places[h]? with
    | none => .ok (s, [])
    | some k => (answer (s.clocks k) r).map fun p => (s.put k p.1, [⟨h, r, p.2⟩])

/-- The shelf after some acts, and all that was answered. -/
def run (s : Shelf κ) : List Act → Except Trouble (Shelf κ × List Entry)
  | [] => .ok (s, [])
  | a :: acts => do
    let p ← s.step answer a
    let q ← run p.1 acts
    return (q.1, p.2 ++ q.2)

variable {answer} {s s' s'' : Shelf κ} {a : Act} {acts : List Act} {log log' : List Entry}

lemma step_ask {h k : ℕ} {r : Request} {x : κ} {reply : Reply} (hk : s.places[h]? = some k)
    (hx : answer (s.clocks k) r = .ok (x, reply)) :
    s.step answer (.ask h r) = .ok (s.put k x, [⟨h, r, reply⟩]) := by
  rw [step, hk]
  dsimp only
  rw [hx, Except.map]

/-- What an act comes to: a handle more, or nothing, or an answer and another clock. -/
lemma step_eq_ok (h : s.step answer a = .ok (s', log)) :
    (∃ n, a = .clone n ∧ s' = { s with places := s.places ++ s.places[n]?.toList } ∧ log = [])
      ∨ (∃ n r, a = .ask n r ∧ s.places[n]? = none ∧ s' = s ∧ log = [])
      ∨ ∃ n r k x reply, a = .ask n r ∧ s.places[n]? = some k
        ∧ answer (s.clocks k) r = .ok (x, reply) ∧ s' = s.put k x ∧ log = [⟨n, r, reply⟩] := by
  cases a with
  | clone n =>
      cases h
      exact .inl ⟨n, rfl, rfl, rfl⟩
  | ask n r =>
      rw [step] at h
      cases hn : s.places[n]? with
      | none =>
          rw [hn] at h
          cases h
          exact .inr (.inl ⟨n, r, rfl, hn, rfl, rfl⟩)
      | some k =>
          rw [hn] at h
          obtain ⟨⟨x, reply⟩, hanswer, h⟩ := map_eq_ok_iff.mp h
          cases h
          exact .inr (.inr ⟨n, r, k, x, reply, rfl, hn, hanswer, rfl, rfl⟩)

lemma run_cons (hstep : s.step answer a = .ok (s', log))
    (hrun : s'.run answer acts = .ok (s'', log')) :
    s.run answer (a :: acts) = .ok (s'', log ++ log') := by
  rw [run, hstep, ok_bind, hrun, ok_bind]
  rfl

lemma run_singleton (hstep : s.step answer a = .ok (s', log)) :
    s.run answer [a] = .ok (s', log) := by
  rw [run_cons hstep rfl, List.append_nil]

/-- An act and those after it. -/
lemma run_cons_eq_ok (h : s.run answer (a :: acts) = .ok (s'', log)) :
    ∃ s' log₁ log₂, s.step answer a = .ok (s', log₁) ∧ s'.run answer acts = .ok (s'', log₂)
      ∧ log = log₁ ++ log₂ := by
  rw [run] at h
  obtain ⟨⟨s', log₁⟩, hstep, h⟩ := bind_eq_ok_iff.mp h
  obtain ⟨⟨u, log₂⟩, hrun, h⟩ := bind_eq_ok_iff.mp h
  cases h
  exact ⟨s', log₁, log₂, hstep, hrun, rfl⟩

end

/-- What is asked in some acts, through handles that there are by then. -/
def issued : List ℕ → List Act → List (ℕ × Request)
  | _, [] => []
  | places, .clone h :: acts => issued (places ++ places[h]?.toList) acts
  | places, .ask h r :: acts =>
    if h < places.length then (h, r) :: issued places acts else issued places acts

/-- What was asked of the clock at a place, through whatever handle. -/
def told (places : List ℕ) (k : ℕ) (log : List Entry) : List Entry :=
  log.filter fun e => places[e.handle]? = some k

section

variable {places : List ℕ} {k : ℕ} {e : Entry} (log : List Entry)

lemma told_cons_self (h : places[e.handle]? = some k) :
    told places k (e :: log) = e :: told places k log :=
  List.filter_cons_of_pos (by simpa using h)

lemma told_cons_of_ne (h : places[e.handle]? ≠ some k) :
    told places k (e :: log) = told places k log :=
  List.filter_cons_of_neg (by simpa using h)

end

/-- What a handle shows. -/
def shown? (s : Shelf Cell) (h : ℕ) : Option Moment :=
  s.places[h]?.map fun k => (s.clocks k).reading

end Shelf

/-! ### One request after the other -/

/-- A clock after some requests, and its answers. -/
def run (c : Clock) : List Request → Clock × List Reply
  | [] => (c, [])
  | r :: rs => ((run (c.answer r).1 rs).1, (c.answer r).2 :: (run (c.answer r).1 rs).2)

/-- **From one reading to another**, by what was asked and answered, in exact nanoseconds. -/
inductive Obeys : Instant → List Entry → Instant → Prop
  /-- Nothing was asked. -/
  | rest {t : Instant} : Obeys t [] t
  /-- The reading is told. -/
  | now {t t' : Instant} {h : ℕ} {log : List Entry} :
      Obeys t log t' → Obeys t (⟨h, .now, .shown (.ofInstant t)⟩ :: log) t'
  /-- The clock shows the instant that it is set to. -/
  | set {t u t' : Instant} {h : ℕ} {log : List Entry} :
      Obeys u log t' → Obeys t (⟨h, .set u, .done⟩ :: log) t'
  /-- The clock moves exactly as far as it is told to. -/
  | advance {t u t' : Instant} {h : ℕ} {d : Shift} {log : List Entry} :
      t.Reaches d.toDelta u → Obeys u log t' → Obeys t (⟨h, .advance d, .done⟩ :: log) t'
  /-- The clock does not move if that is out of range. -/
  | refuse {t t' : Instant} {h : ℕ} {d : Shift} {log : List Entry} :
      ¬ t.InRange d.toDelta → Obeys t log t' → Obeys t (⟨h, .advance d, .panicked⟩ :: log) t'

/-- **What a clock was asked and answered leads from its first reading to its last.** -/
lemma obeys_of_run {c c' : Clock} {log : List Entry}
    (h : c.run (log.map Entry.request) = (c', log.map Entry.reply)) : Obeys c.now log c'.now := by
  induction log generalizing c with
  | nil =>
      obtain ⟨rfl, -⟩ := Prod.mk.inj h
      exact .rest
  | cons e log ih =>
      obtain ⟨hclock, hreplies⟩ := Prod.mk.inj h
      obtain ⟨hreply, hreplies⟩ := List.cons.inj hreplies
      have hobeys := ih (Prod.ext hclock hreplies)
      obtain ⟨handle, request, reply⟩ := e
      dsimp only at hreply hobeys
      subst hreply
      cases request with
      | now => exact .now hobeys
      | set t => exact .set hobeys
      | advance d =>
          by_cases hin : c.now.InRange d.toDelta
          · obtain ⟨u, hu⟩ := Instant.exists_reaches_iff.mpr hin
            rw [answer, advance_of_reaches hu] at hobeys ⊢
            exact .advance hu hobeys
          · rw [answer, advance_of_not_inRange hin] at hobeys ⊢
            exact .refuse hin hobeys

namespace Shelf

/-! ### Clocks on a shelf -/

/-- A clock without a lock always answers. -/
def ask (c : Clock) (r : Request) : Except Trouble (Clock × Reply) := .ok (c.answer r)

lemma ask_eq (c : Clock) (r : Request) : ask c r = .ok ((c.answer r).1, (c.answer r).2) := rfl

variable {b b' : Shelf Clock} {acts : List Act} {log : List Entry}

/-- **A clock goes through what was asked through any of its handles**, and through nothing else. -/
lemma run_told (h : b.run ask acts = .ok (b', log)) : b.places <+: b'.places ∧ ∀ k,
    (b.clocks k).run ((told b'.places k log).map Entry.request)
      = (b'.clocks k, (told b'.places k log).map Entry.reply) := by
  induction acts generalizing b log with
  | nil =>
      cases h
      exact ⟨List.prefix_rfl, fun _ => rfl⟩
  | cons a acts ih =>
      obtain ⟨u, log₁, log₂, hstep, hrun, rfl⟩ := run_cons_eq_ok h
      obtain ⟨hplaces, hclocks⟩ := ih hrun
      rcases step_eq_ok hstep with ⟨n, -, rfl, rfl⟩ | ⟨n, r, -, -, rfl, rfl⟩
        | ⟨n, r, j, c, reply, -, hn, hanswer, rfl, rfl⟩
      · exact ⟨(List.prefix_append _ _).trans hplaces, hclocks⟩
      · exact ⟨hplaces, hclocks⟩
      · refine ⟨hplaces, fun k => ?_⟩
        obtain ⟨rfl, rfl⟩ := Prod.mk.inj (Except.ok.inj ((ask_eq _ r).symm.trans hanswer))
        -- the handle knows the same place when all is done
        obtain ⟨hlt, hget⟩ := List.getElem?_eq_some_iff.mp hn
        have hn' : b'.places[n]? = some j := hget ▸ List.prefix_iff_getElem?.mp hplaces n hlt
        have hk := hclocks k
        by_cases hkj : k = j
        · subst hkj
          rw [put_clocks_self] at hk
          rw [List.singleton_append, told_cons_self _ hn', List.map_cons, List.map_cons,
            Clock.run, hk]
        · rw [put_clocks_of_ne _ hkj] at hk
          rw [List.singleton_append, told_cons_of_ne _ (by simp [hn', Ne.symm hkj]), hk]

/-- Everything that was asked was answered, in this order. -/
lemma run_issued (h : b.run ask acts = .ok (b', log)) :
    log.map (fun e => (e.handle, e.request)) = issued b.places acts := by
  induction acts generalizing b log with
  | nil =>
      cases h
      rfl
  | cons a acts ih =>
      obtain ⟨u, log₁, log₂, hstep, hrun, rfl⟩ := run_cons_eq_ok h
      have hrest := ih hrun
      rcases step_eq_ok hstep with ⟨n, rfl, rfl, rfl⟩ | ⟨n, r, rfl, hn, rfl, rfl⟩
        | ⟨n, r, k, c, reply, rfl, hn, -, rfl, rfl⟩
      · exact hrest
      · rw [issued, if_neg (not_lt.mpr (List.getElem?_eq_none_iff.mp hn))]
        exact hrest
      · rw [issued, if_pos (List.getElem?_eq_some_iff.mp hn).1]
        exact congrArg _ hrest

/-! ### Cells on a shelf -/

/-- Cells show what clocks show, through the same handles. -/
structure Shows (s : Shelf Cell) (b : Shelf Clock) : Prop where
  places : s.places = b.places
  clocks : ∀ k, (s.clocks k).Shows (b.clocks k)

/-- **Two shelves cannot be told apart**: whatever is done with both of them, it comes to the same
answers, and to the same readings. -/
def SameFrom (s s' : Shelf Cell) : Prop :=
  ∀ acts, ∃ u u' log, s.run Cell.answer acts = .ok (u, log)
    ∧ s'.run Cell.answer acts = .ok (u', log) ∧ ∀ h, u.shown? h = u'.shown? h

namespace Shows

variable {s s' : Shelf Cell} {b : Shelf Clock}

/-- Cells still show what clocks show if the cell and the clock at a place are changed alike. -/
lemma put (h : s.Shows b) (k : ℕ) {x : Cell} {c : Clock} (hx : x.Shows c) :
    (s.put k x).Shows (b.put k c) := by
  refine ⟨h.places, fun j => ?_⟩
  by_cases hj : j = k
  · subst hj
    rw [put_clocks_self, put_clocks_self]
    exact hx
  · rw [put_clocks_of_ne _ hj, put_clocks_of_ne _ hj]
    exact h.clocks j

/-- In an act, cells answer as clocks do. -/
lemma step (h : s.Shows b) (a : Act) : ∃ s' b' log, s.step Cell.answer a = .ok (s', log)
    ∧ b.step ask a = .ok (b', log) ∧ s'.Shows b' := by
  cases a with
  | clone n => exact ⟨_, _, _, rfl, rfl, by rw [h.places], h.clocks⟩
  | ask n r =>
      cases hn : b.places[n]? with
      | none =>
          refine ⟨s, b, [], ?_, ?_, h⟩
          · rw [Shelf.step, h.places, hn]
          · rw [Shelf.step, hn]
      | some k =>
          obtain ⟨x, hx, hshows⟩ := (h.clocks k).answer r
          exact ⟨_, _, _, step_ask (h.places ▸ hn) hx, step_ask hn (ask_eq _ r), h.put k hshows⟩

/-- **Cells answer as clocks do**, whatever is done with them: no call waits for ever, and no step
leaves its word. -/
lemma run (h : s.Shows b) (acts : List Act) : ∃ s' b' log, s.run Cell.answer acts = .ok (s', log)
    ∧ b.run ask acts = .ok (b', log) ∧ s'.Shows b' := by
  induction acts generalizing s b with
  | nil => exact ⟨s, b, [], rfl, rfl, h⟩
  | cons a acts ih =>
      obtain ⟨s₁, b₁, log₁, hs₁, hb₁, h₁⟩ := h.step a
      obtain ⟨s₂, b₂, log₂, hs₂, hb₂, h₂⟩ := ih h₁
      exact ⟨s₂, b₂, log₁ ++ log₂, run_cons hs₁ hs₂, run_cons hb₁ hb₂, h₂⟩

/-- A handle shows the instant of its clock. -/
lemma shown?_eq (h : s.Shows b) (n : ℕ) :
    s.shown? n = b.places[n]?.map fun k => .ofInstant (b.clocks k).now := by
  rw [shown?, h.places]
  exact congrArg (Option.map · _) (funext fun k => (h.clocks k).reading)

/-- Shelves that show the same clocks cannot be told apart. -/
lemma sameFrom (h : s.Shows b) (h' : s'.Shows b) : s.SameFrom s' := by
  intro acts
  obtain ⟨u, v, log, hu, hv, hshows⟩ := h.run acts
  obtain ⟨u', v', log', hu', hv', hshows'⟩ := h'.run acts
  obtain ⟨rfl, rfl⟩ := Prod.mk.inj (Except.ok.inj (hv.symm.trans hv'))
  exact ⟨u, u', log, hu, hu', fun n => (hshows.shown?_eq n).trans (hshows'.shown?_eq n).symm⟩

end Shows

/-! ### What all handles on a clock show -/

/-- **A clock keeps what was asked of it** through any of its handles, from one instant to another,
which all of them show. -/
structure Keeps (s : Shelf Cell) (log : List Entry) (k : ℕ) (t t' : Instant) : Prop where
  obeys : Obeys t (told s.places k log) t'
  clock : (Clock.mk t).run ((told s.places k log).map Entry.request)
    = (⟨t'⟩, (told s.places k log).map Entry.reply)
  shown : ∀ h, s.places[h]? = some k → s.shown? h = some (.ofInstant t')

/-- **A move that fails is as good as never asked for**: it panics and the lock remembers that, but
the shelf cannot be told apart from the one before. -/
def Forgives (s : Shelf Cell) : Prop :=
  ∀ h k d t, s.places[h]? = some k → s.shown? h = some (.ofInstant t) → ¬ t.InRange d.toDelta →
    ∃ s', s.step Cell.answer (.ask h (.advance d)) = .ok (s', [⟨h, .advance d, .panicked⟩])
      ∧ (s'.clocks k).poisoned = true ∧ s'.SameFrom s

/-- **Two moves and one that is as long as both.** If neither of the two fails, the one does not,
whichever handles they are asked for through, and the shelves afterwards cannot be told apart
exactly if the two moves join. They do whenever the clock shows an instant outside leap seconds. -/
def Adds (s : Shelf Cell) : Prop :=
  ∀ h g j k a b t u, s.places[h]? = some k → s.places[g]? = some k → s.places[j]? = some k →
    s.shown? h = some (.ofInstant t) → t.Reaches a.toDelta u → u.InRange b.toDelta →
      ∃ c s₁ s₂, a.add? b = some (some c) ∧ c.toDelta = ⟨a.toDelta.nanos + b.toDelta.nanos⟩
        ∧ s.run Cell.answer [.ask h (.advance a), .ask g (.advance b)]
          = .ok (s₁, [⟨h, .advance a, .done⟩, ⟨g, .advance b, .done⟩])
        ∧ s.run Cell.answer [.ask j (.advance c)] = .ok (s₂, [⟨j, .advance c, .done⟩])
        ∧ (s₁.SameFrom s₂ ↔ t.Joins a.toDelta b.toDelta)

namespace Shows

variable {s : Shelf Cell} {b : Shelf Clock}

lemma keeps {log : List Entry} {k : ℕ} {t : Instant} (h : s.Shows b)
    (htold : (Clock.mk t).run ((told b.places k log).map Entry.request)
      = (b.clocks k, (told b.places k log).map Entry.reply)) :
    s.Keeps log k t (b.clocks k).now := by
  rw [← h.places] at htold
  refine ⟨obeys_of_run htold, htold, fun n hn => ?_⟩
  rw [h.shown?_eq, ← h.places, hn, Option.map_some]

lemma now_eq (h : s.Shows b) {n k : ℕ} {t : Instant} (hn : s.places[n]? = some k)
    (ht : s.shown? n = some (.ofInstant t)) : (b.clocks k).now = t := by
  rw [h.shown?_eq, ← h.places, hn, Option.map_some, Option.some.injEq] at ht
  exact Moment.ofInstant_injective ht

lemma forgives (h : s.Shows b) : s.Forgives := by
  intro n k d t hn ht hout
  rw [← h.now_eq hn ht] at hout
  obtain ⟨x, hx, hpoisoned, hshows⟩ := (h.clocks k).answer_refused hout
  have hput : b.put k (b.clocks k) = b := by
    rw [Shelf.put, Function.update_eq_self]
  refine ⟨s.put k x, step_ask hn hx, ?_, sameFrom (hput ▸ h.put k hshows) h⟩
  rw [put_clocks_self]
  exact hpoisoned

/-- Shelves that cannot be told apart show the same. -/
lemma shown_eq_of_sameFrom {s' : Shelf Cell} (h : s.SameFrom s') (n : ℕ) :
    s.shown? n = s'.shown? n := by
  obtain ⟨_, _, _, hs, hs', hshown⟩ := h []
  cases hs
  cases hs'
  exact hshown n

lemma adds (h : s.Shows b) : s.Adds := by
  intro n n' m k d e t u hn hn' hm ht hu hend
  obtain rfl := h.now_eq hn ht
  obtain ⟨v, hv⟩ := Instant.exists_reaches_iff.mpr hend
  obtain ⟨w, hw, hjoins⟩ := hu.exists_reaches hv
  obtain ⟨hlow, hhigh⟩ := Shift.bounds_of_inRange (Instant.exists_reaches_iff.mp ⟨w, hw⟩)
  obtain ⟨c, hc, hlength⟩ := Shift.exists_add? hlow hhigh
  have hlength : c.toDelta = ⟨d.toDelta.nanos + e.toDelta.nanos⟩ := Delta.ext hlength
  obtain ⟨x, hx, hmoved⟩ := (h.clocks k).answer_moved hu
  obtain ⟨y, hy, hmoved'⟩ := hmoved.answer_moved (d := e) hv
  obtain ⟨z, hz, hmoved''⟩ := (h.clocks k).answer_moved (d := c) (hlength ▸ hw)
  have hsecond : ((s.put k x).put k y).Shows (b.put k ⟨v⟩) := by
    rw [← b.put_put k ⟨u⟩]
    exact (h.put k hmoved).put k hmoved'
  have hstep : (s.put k x).step Cell.answer (.ask n' (.advance e))
      = .ok ((s.put k x).put k y, [⟨n', .advance e, .done⟩]) := by
    refine step_ask hn' ?_
    rw [put_clocks_self]
    exact hy
  refine ⟨c, _, _, hc, hlength, run_cons (step_ask hn hx) (run_singleton hstep),
    run_singleton (step_ask hm hz), ?_⟩
  rw [← hjoins]
  constructor
  · intro hsame
    have hshown : ((s.put k x).put k y).shown? n = some (.ofInstant w) := by
      rw [shown_eq_of_sameFrom hsame, (h.put k hmoved'').shown?_eq]
      simp [Shelf.put, ← h.places, hn]
    simpa using hsecond.now_eq hn hshown
  · rintro rfl
    exact hsecond.sameFrom (h.put k hmoved'')

end Shows

end Shelf

/-- **All handles on a clock show one reading, which is the exact one.** Let clocks show any
instants at first, let there be any handles on them, and let any acts follow each other. Then
everything that is asked is answered, no call waits for ever, and no step leaves its word. What a
clock was asked through any of its handles has brought it from its first instant to another one, in
exact nanoseconds, and all its handles show that one; a leap second that the clock is in counts as a
second, and no other one does. From then on, a move that fails is as good as never asked for, and
two moves are as good as one that is as long as both, provided that they join. -/
theorem handles_exact (start : ℕ → Instant) (places : List ℕ) (acts : List Act) :
    ∃ s log, Shelf.run Cell.answer ⟨fun k => Cell.fresh (start k), places⟩ acts = .ok (s, log)
      ∧ log.map (fun e => (e.handle, e.request)) = Shelf.issued places acts
      ∧ (∀ k, ∃ t, s.Keeps log k (start k) t) ∧ s.Forgives ∧ s.Adds := by
  have hbegin : Shelf.Shows ⟨fun k => Cell.fresh (start k), places⟩ ⟨fun k => ⟨start k⟩, places⟩ :=
    ⟨rfl, fun k => Cell.fresh_shows (start k)⟩
  obtain ⟨s, b, log, hs, hb, hshows⟩ := hbegin.run acts
  obtain ⟨-, htold⟩ := Shelf.run_told hb
  exact ⟨s, log, hs, Shelf.run_issued hb, fun k => ⟨_, hshows.keeps (htold k)⟩, hshows.forgives,
    hshows.adds⟩

/-! ### At the last instant -/

/-- A nanosecond. -/
def nanosecond : Shift := ⟨0, 1, by decide, by decide, by decide, by decide⟩

/-- Two nanoseconds back. -/
def twoBack : Shift := ⟨-1, 999999998, by decide, by decide, by decide, by decide⟩

/-- A clock shows the last instant outside leap seconds, and its handle is cloned. A nanosecond
through the clone is refused and forgotten; two nanoseconds back through the clone and one forward
through the first handle are as good as one move. -/
theorem handles_exact_sample :
    ∃ s log, Shelf.run Cell.answer ⟨fun _ => Cell.fresh .last, [0]⟩ [.clone 0] = .ok (s, log)
      ∧ (∃ s', s.step Cell.answer (.ask 1 (.advance nanosecond))
          = .ok (s', [⟨1, .advance nanosecond, .panicked⟩])
        ∧ (s'.clocks 0).poisoned = true ∧ s'.SameFrom s)
      ∧ ∃ c s₁ s₂, c.toDelta = ⟨-1⟩
        ∧ s.run Cell.answer [.ask 1 (.advance twoBack), .ask 0 (.advance nanosecond)]
          = .ok (s₁, [⟨1, .advance twoBack, .done⟩, ⟨0, .advance nanosecond, .done⟩])
        ∧ s.run Cell.answer [.ask 0 (.advance c)] = .ok (s₂, [⟨0, .advance c, .done⟩])
        ∧ s₁.SameFrom s₂ := by
  obtain ⟨s, log, hrun, -, -, hforgives, hadds⟩ :=
    handles_exact (fun _ => .last) [0] [.clone 0]
  obtain ⟨rfl, rfl⟩ : s = ⟨fun _ => Cell.fresh .last, [0, 0]⟩ ∧ log = [] := by
    cases hrun
    exact ⟨rfl, rfl⟩
  let before : Instant := ⟨lastSecond, 999999997, by decide, by decide, by decide⟩
  have hbefore : Instant.last.Reaches twoBack.toDelta before :=
    Instant.add?_eq_some_iff.mp (by decide)
  obtain ⟨c, s₁, s₂, -, hlength, h₁, h₂, hsame⟩ :=
    hadds 1 0 0 0 twoBack nanosecond .last before rfl rfl rfl rfl hbefore (by decide)
  exact ⟨_, _, hrun, hforgives 1 0 nanosecond .last rfl rfl (by decide), c, s₁, s₂, hlength, h₁, h₂,
    hsame.mpr (by decide)⟩

/-! ### In a leap second -/

/-- A second forward. -/
def second : Shift := ⟨1, 0, by decide, by decide, by decide, by decide⟩

/-- A second back. -/
def secondBack : Shift := ⟨-1, 0, by decide, by decide, by decide, by decide⟩

/-- **Nanoseconds since the epoch do not tell where a clock in a leap second moves.** A second
forward leaves as many of them, although one second more would be in range. And a second back and
one forward are not as good as no time at all, although none of them leaves the range. -/
theorem leap_second_left :
    (∃ x, (Cell.fresh .midLeap).answer (.advance second) = .ok (x, .done)
        ∧ x.reading = .ofInstant .afterLeap
        ∧ Instant.afterLeap.nanos ≠ Instant.midLeap.nanos + second.toDelta.nanos
        ∧ firstNanos ≤ Instant.midLeap.nanos + second.toDelta.nanos
        ∧ Instant.midLeap.nanos + second.toDelta.nanos ≤ lastNanos)
      ∧ ∃ c s₁ s₂, c.toDelta = ⟨0⟩
        ∧ Shelf.run Cell.answer ⟨fun _ => Cell.fresh .midLeap, [0]⟩
            [.ask 0 (.advance secondBack), .ask 0 (.advance second)]
          = .ok (s₁, [⟨0, .advance secondBack, .done⟩, ⟨0, .advance second, .done⟩])
        ∧ Shelf.run Cell.answer ⟨fun _ => Cell.fresh .midLeap, [0]⟩ [.ask 0 (.advance c)]
          = .ok (s₂, [⟨0, .advance c, .done⟩])
        ∧ ¬ s₁.SameFrom s₂ := by
  have hafter : Instant.midLeap.Reaches second.toDelta .afterLeap :=
    Instant.add?_eq_some_iff.mp (by decide)
  obtain ⟨x, hx, hshows⟩ := (Cell.fresh_shows .midLeap).answer_moved hafter
  refine ⟨⟨x, hx, hshows.reading, by decide, by decide, by decide⟩, ?_⟩
  -- a second back counts none of the leap second, and a second forward then does not return to it
  let before : Instant := ⟨59, 500000000, by decide, by decide, by decide⟩
  have hbefore : Instant.midLeap.Reaches secondBack.toDelta before :=
    Instant.add?_eq_some_iff.mp (by decide)
  have hbegin : Shelf.Shows ⟨fun _ => Cell.fresh .midLeap, [0]⟩ ⟨fun _ => ⟨.midLeap⟩, [0]⟩ :=
    ⟨rfl, fun _ => Cell.fresh_shows .midLeap⟩
  obtain ⟨c, s₁, s₂, -, hlength, h₁, h₂, hsame⟩ :=
    hbegin.adds 0 0 0 0 secondBack second .midLeap before rfl rfl rfl rfl hbefore (by decide)
  exact ⟨c, s₁, s₂, hlength, h₁, h₂, mt hsame.mp (by decide)⟩

end Clock

end Keyring
