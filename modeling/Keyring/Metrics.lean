import Keyring.Json.Value
import Keyring.Time.Duration

/-!
What is counted about a source of keys.

* `Metrics.Event`: what happens.
* `Metrics.Counters`: the counters of one source, `Counters.record`, and what they tell.
* `Metrics.Registry`: counters and samples by name and labels, for all sources together,
  `Registry.record`.
-/

namespace Keyring.Metrics

/-- What happens in a call for keys. -/
inductive Event where
  /-- The keys at hand were good. -/
  | hit
  /-- The keys at hand were stale, or there were none. -/
  | miss
  /-- Expired keys were used because fetching failed. -/
  | stale
  /-- Keys were fetched, and it took so long. -/
  | success (took : Duration)
  /-- Fetching failed. -/
  | failure
  deriving Repr, DecidableEq

/-! ### The counters of one source -/

/-- Counters of 64 bits, which wrap around. -/
structure Counters where
  /-- how often keys were asked for -/
  total : UInt64
  /-- how often the keys at hand were good -/
  hits : UInt64
  /-- how often expired keys were used -/
  stales : UInt64
  /-- how often keys were fetched -/
  successes : UInt64
  /-- how often fetching failed -/
  failures : UInt64
  /-- the microseconds that fetching took the last time -/
  micros : UInt64
  deriving Repr, DecidableEq

namespace Counters

/-- Nothing has happened. -/
def zero : Counters := ⟨0, 0, 0, 0, 0, 0⟩

/-- The counters after an event. -/
def record (c : Counters) : Event → Counters
  | .hit => { c with total := c.total + 1, hits := c.hits + 1 }
  | .miss => { c with total := c.total + 1 }
  | .stale => { c with stales := c.stales + 1 }
  | .success took => { c with successes := c.successes + 1, micros := UInt64.ofNat took.toMicros }
  | .failure => { c with failures := c.failures + 1 }

/-- The microseconds that fetching took the last time; zero tells that there was none. -/
def lastMicros? (c : Counters) : Option UInt64 := if c.micros = 0 then none else some c.micros

/-- A part of how often keys were asked for, zero if they never were. -/
def share (c : Counters) (part : UInt64) : Float :=
  if c.total = 0 then 0.0 else part.toFloat / c.total.toFloat

/-- How often the keys at hand were good. -/
def hitRate (c : Counters) : Float := c.share c.hits

/-- How often expired keys were used. -/
def staleRatio (c : Counters) : Float := c.share c.stales

end Counters

/-! ### Counters and samples by name -/

/-- A number of events, or the samples taken. -/
inductive Measure where
  | count (n : UInt64)
  | samples (values : List Float)
  deriving Repr, BEq

/-- A measure under a name and labels. -/
structure Row where
  /-- the name -/
  name : String
  /-- the labels with their values, in the order of the labels -/
  labels : List (String × String)
  /-- what was measured -/
  measure : Measure
  deriving Repr, BEq

/-- Measures by name and labels. -/
abbrev Registry := List Row

namespace Registry

/-- The names in use. -/
def requestsTotal : String := "rsa_keysource_requests_total"
def hitsTotal : String := "rsa_keysource_hits_total"
def staleTotal : String := "rsa_keysource_stale_total"
def refreshTotal : String := "rsa_keysource_refresh_total"
def refreshSeconds : String := "rsa_keysource_refresh_duration_seconds"

/-- A measure with one event more. -/
def Measure.increment : Measure → Measure
  | .count n => .count (n + 1)
  | m => m

/-- A measure with one sample more. -/
def Measure.observe (x : Float) : Measure → Measure
  | .samples xs => .samples (xs ++ [x])
  | m => m

/-- Changes the measure of a name and labels, which is `start` if there is none yet. -/
def update (name : String) (labels : List (String × String)) (start : Measure)
    (change : Measure → Measure) : Registry → Registry
  | [] => [⟨name, labels, change start⟩]
  | row :: rows =>
    if row.name = name && row.labels = labels then
      { row with measure := change row.measure } :: rows
    else row :: update name labels start change rows

/-- Counts an event. -/
def increment (name : String) (labels : List (String × String)) (r : Registry) : Registry :=
  r.update name labels (.count 0) Measure.increment

/-- Takes a sample. -/
def observe (name : String) (labels : List (String × String)) (x : Float) (r : Registry) :
    Registry :=
  r.update name labels (.samples []) (Measure.observe x)

/-- The labels of a source. -/
def sourceLabels (source : String) : List (String × String) := [("source", source)]

/-- The labels of the outcome of fetching. -/
def outcomeLabels (source outcome : String) : List (String × String) :=
  sourceLabels source ++ [("status", outcome)]

/-- The measures after an event at a source. -/
def record (r : Registry) (source : String) : Event → Registry
  | .hit =>
    (r.increment requestsTotal (sourceLabels source)).increment hitsTotal (sourceLabels source)
  | .miss => r.increment requestsTotal (sourceLabels source)
  | .stale => r.increment staleTotal (sourceLabels source)
  | .success took =>
    (r.increment refreshTotal (outcomeLabels source "success")).observe refreshSeconds
      (sourceLabels source) took.toFloat
  | .failure => r.increment refreshTotal (outcomeLabels source "error")

end Registry

end Keyring.Metrics
