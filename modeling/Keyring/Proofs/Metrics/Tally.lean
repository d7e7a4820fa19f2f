import Mathlib.Tactic
import Keyring.Metrics

/-!
What the counters and the measures tell of the events that they were told.

A list of events, the earliest one first, determines both: each counter is the number of its events,
and so is each row of the registry that counts.

* `Item`: what is counted, in a counter of the source and in a row of the registry.
* `Counters.foldl_record_value`: a counter is the number of its events.
* `Registry.measured`, `Registry.measured_update_self`, `Registry.measured_update_of_ne`: the
  measure under a name and labels, and what changes it.
* `Registry.measured_foldl_record`: the row of an item is the number of its events.
* `Registry.samples_foldl_record`: the samples are the times of the successes.
-/

namespace Keyring.Metrics

/-! ### Items -/

/-- The time that fetching took, if the event tells one. -/
def Event.took? : Event → Option Duration
  | .success took => some took
  | _ => none

/-- What is counted twice: by the source itself, and under a name and labels. -/
inductive Item where
  /-- how often keys were asked for -/
  | total
  /-- how often the keys at hand were good -/
  | hits
  /-- how often expired keys were used -/
  | stales
  /-- how often keys were fetched -/
  | successes
  /-- how often fetching failed -/
  | failures
  deriving Repr, DecidableEq

namespace Item

/-- The events that count for an item. -/
def counts : Item → Event → Bool
  | .total, .hit => true
  | .total, .miss => true
  | .hits, .hit => true
  | .stales, .stale => true
  | .successes, .success _ => true
  | .failures, .failure => true
  | _, _ => false

/-- The name of its row. -/
def name : Item → String
  | .total => Registry.requestsTotal
  | .hits => Registry.hitsTotal
  | .stales => Registry.staleTotal
  | .successes => Registry.refreshTotal
  | .failures => Registry.refreshTotal

/-- The labels of its row. -/
def labels (source : String) : Item → List (String × String)
  | .successes => Registry.outcomeLabels source "success"
  | .failures => Registry.outcomeLabels source "error"
  | _ => Registry.sourceLabels source

lemma name_ne_refreshSeconds (i : Item) : i.name ≠ Registry.refreshSeconds := by
  cases i <;> decide

/-- Each item has a row of its own. -/
lemma name_or_labels_ne {i j : Item} (h : i ≠ j) (source : String) :
    i.name ≠ j.name ∨ i.labels source ≠ j.labels source := by
  by_cases hn : i.name = j.name
  · have hrefresh : i = .successes ∧ j = .failures ∨ i = .failures ∧ j = .successes := by
      revert hn h
      cases i <;> cases j <;> decide
    rcases hrefresh with ⟨rfl, rfl⟩ | ⟨rfl, rfl⟩ <;>
      exact .inr (by simp [labels, Registry.outcomeLabels])
  · exact .inl hn

end Item

/-! ### The counters of a source -/

namespace Counters

variable (c : Counters)

/-- The counter of an item. -/
def value : Item → UInt64
  | .total => c.total
  | .hits => c.hits
  | .stales => c.stales
  | .successes => c.successes
  | .failures => c.failures

lemma record_value (e : Event) (i : Item) :
    (c.record e).value i = c.value i + if i.counts e then 1 else 0 := by
  cases i <;> cases e <;> simp [record, value, Item.counts]

/-- **A counter is the number of its events**, up to wrapping around. -/
theorem foldl_record_value (log : List Event) (i : Item) :
    (log.foldl record c).value i = c.value i + UInt64.ofNat (log.countP i.counts) := by
  induction log generalizing c with
  | nil => simp
  | cons e log ih =>
      rw [List.foldl_cons, ih, record_value, List.countP_cons, UInt64.add_assoc]
      split_ifs with h
      · rw [UInt64.ofNat_add, UInt64.add_comm 1]
        rfl
      · rw [UInt64.zero_add, Nat.add_zero]

end Counters

/-! ### Rows -/

namespace Registry

variable {r : Registry} {name name' : String} {labels labels' : List (String × String)}
  {start start' : Measure}

/-- The measure under a name and labels, which is `start` if there is none yet. -/
def measured (name : String) (labels : List (String × String)) (start : Measure) :
    Registry → Measure
  | [] => start
  | row :: rows =>
    if row.name = name && row.labels = labels then row.measure
    else measured name labels start rows

/-- A change is seen under its name and labels. -/
lemma measured_update_self (change : Measure → Measure) :
    (r.update name labels start change).measured name labels start
      = change (r.measured name labels start) := by
  induction r with
  | nil => simp [update, measured]
  | cons row rows ih =>
      rw [update, measured]
      split_ifs with h
      · simp only [measured, if_pos h]
      · rw [measured, if_neg h, ih]

/-- A change is not seen under another name or other labels. -/
lemma measured_update_of_ne (h : name ≠ name' ∨ labels ≠ labels') (change : Measure → Measure) :
    (r.update name labels start change).measured name' labels' start'
      = r.measured name' labels' start' := by
  have hno : (name = name' && labels = labels') = false := by
    rcases h with h | h <;> simp [h]
  induction r with
  | nil => simp [update, measured, hno]
  | cons row rows ih =>
      rw [update]
      split_ifs with hrow
      · obtain ⟨rfl, rfl⟩ : row.name = name ∧ row.labels = labels := by simpa using hrow
        rw [measured, measured, if_neg (by simp [hno]), if_neg (by simp [hno])]
      · rw [measured, measured, ih]

/-- The measure in the row of an item. -/
def value (r : Registry) (source : String) (i : Item) : Measure :=
  r.measured i.name (i.labels source) (.count 0)

/-- The measure of the times that fetching took. -/
def times (r : Registry) (source : String) : Measure :=
  r.measured refreshSeconds (sourceLabels source) (.samples [])

variable {source : String}

/-- Counting for an item changes its own row. -/
lemma value_increment (i j : Item) :
    (r.increment j.name (j.labels source)).value source i
      = if i = j then Measure.increment (r.value source i) else r.value source i := by
  rw [value, increment]
  split_ifs with h
  · subst h
    exact measured_update_self _
  · exact measured_update_of_ne (Item.name_or_labels_ne (Ne.symm h) source) _

lemma times_increment (j : Item) :
    (r.increment j.name (j.labels source)).times source = r.times source :=
  measured_update_of_ne (.inl j.name_ne_refreshSeconds) _

/-- Another time is seen among the times. -/
lemma times_observe (x : Float) :
    (r.observe refreshSeconds (sourceLabels source) x).times source
      = Measure.observe x (r.times source) :=
  measured_update_self _

lemma value_observe (x : Float) (i : Item) :
    (r.observe refreshSeconds (sourceLabels source) x).value source i = r.value source i :=
  measured_update_of_ne (.inl i.name_ne_refreshSeconds.symm) _

/-- Recording an event is counting for its items, and taking the time that it tells. -/
lemma record_eq (r : Registry) (source : String) (e : Event) :
    r.record source e = match e with
      | .hit => (r.increment Item.total.name (Item.total.labels source)).increment Item.hits.name
          (Item.hits.labels source)
      | .miss => r.increment Item.total.name (Item.total.labels source)
      | .stale => r.increment Item.stales.name (Item.stales.labels source)
      | .success took => (r.increment Item.successes.name (Item.successes.labels source)).observe
          refreshSeconds (sourceLabels source) took.toFloat
      | .failure => r.increment Item.failures.name (Item.failures.labels source) := by
  cases e <;> rfl

lemma value_record (r : Registry) (source : String) (e : Event) (i : Item) :
    (r.record source e).value source i
      = if i.counts e then Measure.increment (r.value source i) else r.value source i := by
  rw [record_eq]
  cases e <;> cases i <;> simp [value_increment, value_observe, Item.counts]

lemma times_record (r : Registry) (source : String) (e : Event) :
    (r.record source e).times source = match e.took? with
      | some took => Measure.observe took.toFloat (r.times source)
      | none => r.times source := by
  rw [record_eq]
  cases e <;> simp [times_increment, times_observe, Event.took?]

/-- **The row of an item is the number of its events**, up to wrapping around. -/
theorem measured_foldl_record {n : UInt64} {i : Item} (log : List Event)
    (h : r.value source i = .count n) :
    (log.foldl (fun r e => r.record source e) r).value source i
      = .count (n + UInt64.ofNat (log.countP i.counts)) := by
  induction log generalizing r n with
  | nil => simpa using h
  | cons e log ih =>
      rw [List.foldl_cons, List.countP_cons]
      by_cases hc : i.counts e = true
      · have hnext : (r.record source e).value source i = .count (n + 1) := by
          rw [value_record, if_pos hc, h, Measure.increment]
        rw [ih hnext, if_pos hc, UInt64.add_assoc, UInt64.ofNat_add, UInt64.add_comm 1]
        rfl
      · have hnext : (r.record source e).value source i = .count n := by
          rw [value_record, if_neg hc, h]
        rw [ih hnext, if_neg hc, Nat.add_zero]

/-- **The samples are the times of the successes**, in their order. -/
theorem samples_foldl_record {xs : List Float} (log : List Event)
    (h : r.times source = .samples xs) :
    (log.foldl (fun r e => r.record source e) r).times source
      = .samples (xs ++ (log.filterMap Event.took?).map Duration.toFloat) := by
  induction log generalizing r xs with
  | nil => simpa using h
  | cons e log ih =>
      have hnext := times_record r source e
      cases ht : e.took? with
      | none =>
          rw [ht, h] at hnext
          rw [List.foldl_cons, ih hnext, List.filterMap_cons_none ht]
      | some took =>
          rw [ht, h] at hnext
          rw [List.foldl_cons, ih hnext, List.filterMap_cons_some ht, List.map_cons,
            List.append_assoc]
          rfl

end Registry

/-- As many times are told as there are successes. -/
lemma length_filterMap_took? (log : List Event) :
    (log.filterMap Event.took?).length = log.countP Item.successes.counts := by
  induction log with
  | nil => rfl
  | cons e log ih =>
      rw [List.countP_cons, ← ih]
      cases e <;> simp [List.filterMap_cons, Event.took?, Item.counts]

end Keyring.Metrics
