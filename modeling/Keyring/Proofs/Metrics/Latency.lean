import Mathlib.Tactic
import Keyring.Proofs.Metrics.Tally

/-!
What the counters tell of the time that fetching took the last time.

The whole microseconds of the last success are kept in a cell of 64 bits, and a zero in it tells
that there was no success. So a time of less than a microsecond cannot be told from none, and of a
time that takes more bits only the lowest 64 are left.

* `lastTook?`: the time that fetching took the last time.
* `TellsLatency`: what is told of it is true.
* `Counters.micros_foldl_record`: what the cell holds after some events.
* `lastMicros_after`: what is told after some events, and when it is true.
-/

namespace Keyring.Metrics

/-- The time that fetching took the last time, if it ever succeeded. -/
def lastTook? (log : List Event) : Option Duration := (log.filterMap Event.took?).getLast?

/-- One event more: it is the last one if it is a success. -/
lemma lastTook?_append_singleton (log : List Event) (e : Event) :
    lastTook? (log ++ [e]) = e.took?.or (lastTook? log) := by
  rw [lastTook?, List.filterMap_append]
  cases h : e.took? with
  | none => rw [List.filterMap_cons_none h, List.filterMap_nil, List.append_nil]; rfl
  | some took => rw [List.filterMap_cons_some h, List.filterMap_nil, List.getLast?_concat]; rfl

/-- There is none exactly if no event is a success. -/
lemma lastTook?_eq_none_iff {log : List Event} :
    lastTook? log = none ↔ ∀ took, Event.success took ∉ log := by
  rw [lastTook?, List.getLast?_eq_none_iff, List.filterMap_eq_nil_iff]
  constructor
  · intro h took hmem
    exact absurd (h _ hmem) (by simp [Event.took?])
  · intro h e he
    cases e with
    | success took => exact absurd he (h took)
    | hit | miss | stale | failure => rfl

/-- **What is told of the last success is true**: there is nothing to tell exactly if there was
none, and otherwise it is the whole microseconds that it took. -/
structure TellsLatency (log : List Event) (told : Option UInt64) : Prop where
  none_iff : told = none ↔ ∀ took, Event.success took ∉ log
  micros : ∀ took, lastTook? log = some took → ∃ m, told = some m ∧ m.toNat = took.toMicros

namespace Counters

/-- What the cell holds of a time. -/
def microsOf (took : Duration) : UInt64 := UInt64.ofNat took.toMicros

/-- An event that is a success is what the cell holds then; another one leaves it as it was. -/
lemma micros_record (c : Counters) (e : Event) :
    (c.record e).micros = (e.took?.map microsOf).getD c.micros := by
  cases e <;> rfl

/-- **The cell holds the last success**, or what it held before if there is none. -/
lemma micros_foldl_record (c : Counters) (log : List Event) :
    (log.foldl record c).micros = ((lastTook? log).map microsOf).getD c.micros := by
  induction log using List.reverseRecOn with
  | nil => rfl
  | append_singleton log e ih =>
      rw [List.foldl_append, List.foldl_cons, List.foldl_nil, micros_record, ih,
        lastTook?_append_singleton]
      cases e.took? <;> rfl

lemma microsOf_eq_zero_iff {took : Duration} :
    microsOf took = 0 ↔ took.toMicros % UInt64.size = 0 := by
  rw [← UInt64.toNat_inj, microsOf, UInt64.toNat_ofNat', UInt64.toNat_zero]

/-- What is told of the last success, after some events. -/
lemma lastMicros?_foldl_record (log : List Event) :
    (log.foldl record zero).lastMicros?
      = (lastTook? log).bind (fun took =>
          if took.toMicros % UInt64.size = 0 then none else some (microsOf took)) := by
  rw [lastMicros?, micros_foldl_record]
  cases lastTook? log with
  | none => rfl
  | some took =>
      rw [Option.map_some, Option.getD_some, Option.bind_some]
      simp only [microsOf_eq_zero_iff]

end Counters

/-- What is told is true exactly if the lowest 64 bits of the microseconds of the last success are
all of them, and not zero. -/
lemma tellsLatency_iff (log : List Event) :
    TellsLatency log (log.foldl Counters.record Counters.zero).lastMicros?
      ↔ ∀ took, lastTook? log = some took →
        0 < took.toMicros ∧ took.toMicros < UInt64.size := by
  have htold := Counters.lastMicros?_foldl_record log
  constructor
  · intro h took hlast
    obtain ⟨m, hm, hvalue⟩ := h.micros took hlast
    rw [htold, hlast, Option.bind_some] at hm
    split_ifs at hm with hzero
    have hlt := m.toNat_lt_size
    rw [hvalue] at hlt
    rw [Nat.mod_eq_of_lt hlt] at hzero
    exact ⟨Nat.pos_of_ne_zero hzero, hlt⟩
  · intro h
    rw [htold]
    cases hlast : lastTook? log with
    | none =>
        refine ⟨iff_of_true rfl (lastTook?_eq_none_iff.mp hlast), fun took htook => ?_⟩
        rw [hlast] at htook
        cases htook
    | some took =>
        obtain ⟨hpos, hlt⟩ := h took hlast
        have hzero : ¬ took.toMicros % UInt64.size = 0 := by
          rw [Nat.mod_eq_of_lt hlt]
          exact hpos.ne'
        have hsuccess : ¬ ∀ took, Event.success took ∉ log := by
          rw [← lastTook?_eq_none_iff, hlast]
          exact Option.some_ne_none took
        rw [Option.bind_some, if_neg hzero]
        refine ⟨iff_of_false (Option.some_ne_none _) hsuccess, fun took' htook' => ?_⟩
        obtain rfl := Option.some.inj (hlast.symm.trans htook')
        exact ⟨_, rfl, by rw [Counters.microsOf, UInt64.toNat_ofNat', Nat.mod_eq_of_lt hlt]⟩

/-- **What is told of the last success**, after any events: nothing if there was none, or if the
lowest 64 bits of its microseconds are zero; and otherwise these bits. So what is told is true
exactly if the last success took a microsecond at least, and no more of them than 64 bits can tell.
-/
theorem lastMicros_after (log : List Event) :
    (log.foldl Counters.record Counters.zero).lastMicros?
        = (lastTook? log).bind (fun took =>
            if took.toMicros % UInt64.size = 0 then none
            else some (UInt64.ofNat took.toMicros))
      ∧ (TellsLatency log (log.foldl Counters.record Counters.zero).lastMicros?
        ↔ ∀ took, lastTook? log = some took →
          0 < took.toMicros ∧ took.toMicros < UInt64.size) :=
  ⟨Counters.lastMicros?_foldl_record log, tellsLatency_iff log⟩

/-- A success of 999 nanoseconds is told like none, and one of 2^64 + 1 microseconds like one of a
single microsecond. -/
theorem latency_untold :
    let short : List Event := [.success { seconds := 0, nanos := 999 }]
    let long : List Event := [.success { seconds := 18446744073709, nanos := 551617000 }]
    (short.foldl Counters.record Counters.zero).lastMicros? = none
      ∧ ¬ TellsLatency short (short.foldl Counters.record Counters.zero).lastMicros?
      ∧ (long.foldl Counters.record Counters.zero).lastMicros? = some 1
      ∧ ¬ TellsLatency long (long.foldl Counters.record Counters.zero).lastMicros? := by
  refine ⟨by decide, fun h => ?_, by decide, fun h => ?_⟩
  · exact h.none_iff.mp (by decide) _ List.mem_cons_self
  · obtain ⟨m, hm, hvalue⟩ := h.micros _ rfl
    obtain rfl := Option.some.inj hm
    exact absurd hvalue (by decide)

end Keyring.Metrics
