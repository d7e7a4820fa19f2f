import Mathlib.Tactic
import Keyring.Proofs.Time.Elapsed

/-!
Sums of instants and lengths of time, step by step in words of 32 and 64 bits.

In words an instant is a day of the calendar, a second of it and a nanosecond of that. A length of
time is added as a span, of at most 2^63 − 1 milliseconds.

* `fits`: a result that has to fit into a signed word.
* `Moment`: an instant in words; `Moment.ofInstant_injective`.
* `Span`: whole seconds and nanoseconds of one sign; `Span.ofDuration?`: a length of time as a span,
  if it is not too long.
* `Moment.move`: the sum of both. Some steps are checked, and then it may be that there is none; the
  others have to fit.
* `Moment.move_ofInstant`, `sum_eq`: they always do, and the sum in words is `Instant.add?`.
-/

namespace Keyring.Words

/-- The number of seconds in a day. -/
def secondsPerDay : ℤ := 86400

/-- A result that has to fit into a signed word of so many bits. -/
def fits (bits : ℕ) (n : ℤ) : Option ℤ :=
  if -2 ^ (bits - 1) ≤ n ∧ n < 2 ^ (bits - 1) then some n else none

lemma fits_of_lt {bits : ℕ} {n : ℤ} (hlow : -2 ^ (bits - 1) ≤ n) (hhigh : n < 2 ^ (bits - 1)) :
    fits bits n = some n := if_pos ⟨hlow, hhigh⟩

/-! ### Instants -/

/-- The day of the first instant, counted from the epoch. -/
def firstDay : ℤ := -96465292

/-- The day of the last instant. -/
def lastDay : ℤ := 95026236

/-- An instant in words. -/
@[ext]
structure Moment where
  /-- the day, counted from the epoch -/
  day : ℤ
  /-- the second of the day -/
  second : ℤ
  /-- the nanosecond of the second; from 10^9 on it is one of the leap second that follows -/
  frac : ℤ
  firstDay_le : firstDay ≤ day
  le_lastDay : day ≤ lastDay
  second_nonneg : 0 ≤ second
  second_lt : second < secondsPerDay
  frac_nonneg : 0 ≤ frac
  frac_lt : frac < 2 * nanosPerSecond

namespace Moment

lemma secondsPerDay_pos : 0 < secondsPerDay := by decide

lemma day_bounds (t : Instant) :
    firstDay ≤ t.seconds / secondsPerDay ∧ t.seconds / secondsPerDay ≤ lastDay := by
  have hfirst := t.first_le
  have hlast := t.le_last
  simp only [firstSecond, lastSecond, firstDay, lastDay, secondsPerDay] at *
  omega

/-- An instant in words. -/
def ofInstant (t : Instant) : Moment where
  day := t.seconds / secondsPerDay
  second := t.seconds % secondsPerDay
  frac := t.subsecond
  firstDay_le := (day_bounds t).1
  le_lastDay := (day_bounds t).2
  second_nonneg := Int.emod_nonneg _ secondsPerDay_pos.ne'
  second_lt := Int.emod_lt_of_pos _ secondsPerDay_pos
  frac_nonneg := Int.natCast_nonneg _
  frac_lt := Int.ofNat_lt.mpr t.subsecond_lt

/-- The seconds since the epoch, from the day and the second of the day. -/
lemma seconds_ofInstant (t : Instant) :
    (ofInstant t).day * secondsPerDay + (ofInstant t).second = t.seconds :=
  Int.ediv_mul_add_emod _ _

lemma ofInstant_injective {t u : Instant} (h : ofInstant t = ofInstant u) : t = u := by
  refine Instant.ext ?_ (Int.natCast_inj.mp (congrArg frac h))
  rw [← seconds_ofInstant t, h, seconds_ofInstant]

lemma le_frac_ofInstant_iff {t : Instant} :
    (nanosPerSecond : ℤ) ≤ (ofInstant t).frac ↔ t.IsLeap := Int.ofNat_le

/-- The moment of a day, a second and a nanosecond, if there is one. -/
def ofParts? (day second frac : ℤ) : Option Moment :=
  if h : (firstDay ≤ day ∧ day ≤ lastDay) ∧ (0 ≤ second ∧ second < secondsPerDay)
      ∧ 0 ≤ frac ∧ frac < 2 * nanosPerSecond then
    some ⟨day, second, frac, h.1.1, h.1.2, h.2.1.1, h.2.1.2, h.2.2.1, h.2.2.2⟩
  else none

variable {day second frac : ℤ}

/-- Parts make a moment of the instant that has them. -/
lemma ofParts?_of_instant {t : Instant} (hs : 0 ≤ second ∧ second < secondsPerDay)
    (hseconds : t.seconds = day * secondsPerDay + second) (hfrac : (t.subsecond : ℤ) = frac) :
    ofParts? day second frac = some (ofInstant t) := by
  have hfirst := t.first_le
  have hlast := t.le_last
  have hlt : (t.subsecond : ℤ) < 2 * nanosPerSecond := by exact_mod_cast t.subsecond_lt
  have hday : firstDay ≤ day ∧ day ≤ lastDay := by
    simp only [firstDay, lastDay, firstSecond, lastSecond, secondsPerDay] at *
    omega
  rw [ofParts?, dif_pos ⟨hday, hs, hfrac ▸ Int.natCast_nonneg _, hfrac ▸ hlt⟩, Option.some.injEq]
  simp only [secondsPerDay] at hs hseconds
  refine Moment.ext ?_ ?_ hfrac.symm
  all_goals
    simp only [ofInstant, hseconds, secondsPerDay]
    omega

/-- Outside leap seconds there is a moment exactly if there is an instant. -/
lemma ofParts?_eq (hs : 0 ≤ second ∧ second < secondsPerDay)
    (hf : 0 ≤ frac ∧ frac < nanosPerSecond) : ofParts? day second frac
      = (Instant.ofNanos? ((day * secondsPerDay + second) * nanosPerSecond + frac)).map
        ofInstant := by
  cases h : Instant.ofNanos? ((day * secondsPerDay + second) * nanosPerSecond + frac) with
  | some t =>
      obtain ⟨hnanos, hleap⟩ := Instant.ofNanos?_eq_some.mp h
      have hlt := Nat.not_le.mp hleap
      simp only [Instant.nanos, nanosPerSecond] at hnanos hlt hf
      exact ofParts?_of_instant hs (by omega) (by omega)
  | none =>
      have hrange := mt Instant.isSome_ofNanos?.mpr (by rw [h]; exact Bool.false_ne_true)
      rw [ofParts?, dif_neg, Option.map_none]
      simp only [firstDay, lastDay, firstNanos, lastNanos, firstSecond, lastSecond, secondsPerDay,
        nanosPerSecond] at *
      omega

end Moment

/-! ### Spans -/

/-- The seconds of the longest span. -/
def greatestSeconds : ℤ := 9223372036854775

/-- The nanoseconds of the longest span beyond its seconds. -/
def greatestNanos : ℤ := 807000000

/-- A length of time that can be added to an instant. -/
structure Span where
  /-- the seconds, rounded towards zero -/
  seconds : ℤ
  /-- the nanoseconds beyond them, of the same sign -/
  nanos : ℤ
  seconds_bounds : -greatestSeconds ≤ seconds ∧ seconds ≤ greatestSeconds
  nanos_bounds : -nanosPerSecond < nanos ∧ nanos < nanosPerSecond
  one_sign : (0 ≤ seconds ∧ 0 ≤ nanos) ∨ (seconds ≤ 0 ∧ nanos ≤ 0)

/-- The nanoseconds of a span. -/
def Span.toDelta (s : Span) : Delta := ⟨s.seconds * nanosPerSecond + s.nanos⟩

lemma Span.nanos_toDelta (s : Span) : s.toDelta.nanos = s.seconds * nanosPerSecond + s.nanos := rfl

lemma Span.bounds_of_duration {d : Duration} (h : d.seconds.toNat < greatestSeconds
      ∨ d.seconds.toNat = greatestSeconds ∧ d.nanos ≤ greatestNanos) :
    (-greatestSeconds ≤ d.seconds.toNat ∧ d.seconds.toNat ≤ greatestSeconds)
      ∧ -(nanosPerSecond : ℤ) < d.nanos ∧ (d.nanos : ℤ) < nanosPerSecond := by
  have hlt := d.nanos_lt
  simp only [greatestSeconds] at *
  omega

/-- A length of time as a span, if it is not too long. -/
def Span.ofDuration? (d : Duration) : Option Span :=
  if h : d.seconds.toNat < greatestSeconds
      ∨ d.seconds.toNat = greatestSeconds ∧ d.nanos ≤ greatestNanos then
    some {
      seconds := d.seconds.toNat
      nanos := d.nanos
      seconds_bounds := (bounds_of_duration h).1
      nanos_bounds := (bounds_of_duration h).2
      one_sign := .inl ⟨Int.natCast_nonneg _, Int.natCast_nonneg _⟩ }
  else none

/-! ### Sums -/

/-- The moment so many seconds of whole days from a day, and a second and a nanosecond beyond them.
All of this is checked: the seconds have to be those of a span, and the days have to fit. -/
def Moment.daysFrom? (m : Moment) (whole second frac : ℤ) : Option Moment :=
  if -greatestSeconds ≤ whole ∧ whole ≤ greatestSeconds then do
    let days ← fits 32 (whole / secondsPerDay)
    let day ← fits 32 (m.day + days)
    Moment.ofParts? day second frac
  else none

/-- Seconds and nanoseconds, where the nanoseconds may make one more second. -/
def carry (second frac : ℤ) : Option (ℤ × ℤ) :=
  if nanosPerSecond ≤ frac then (fits 64 (second + 1)).map fun s => (s, frac - nanosPerSecond)
  else some (second, frac)

/-- Seconds and nanoseconds, where the nanoseconds may take one second away or make one more. -/
def balance (second frac : ℤ) : Option (ℤ × ℤ) :=
  if frac < 0 then (fits 64 (second - 1)).map fun s => (s, frac + nanosPerSecond)
  else carry second frac

/-- A span added to a second and a nanosecond of the day of a moment. -/
def Moment.moveFrom (m : Moment) (second frac : ℤ) (s : Span) : Option (Option Moment) := do
  let second ← fits 64 (second + s.seconds)
  let frac ← fits 32 (frac + s.nanos)
  let (second, frac) ← balance second frac
  let whole ← fits 64 (second - second % secondsPerDay)
  return m.daysFrom? whole (second % secondsPerDay) frac

/-- Whether a span leads past the end of the leap second that a moment lies in. -/
def Moment.passes (m : Moment) (s : Span) : Option Bool :=
  if 0 < s.seconds then some true
  else if 0 < s.nanos then
    (fits 32 (2 * nanosPerSecond - s.nanos)).map fun room => decide (room ≤ m.frac)
  else some false

/-- A moment moved by a span. None if a step that is not checked leaves its word. -/
def Moment.move (m : Moment) (s : Span) : Option (Option Moment) :=
  if nanosPerSecond ≤ m.frac then do
    let frac ← fits 32 (m.frac - nanosPerSecond)
    if ← m.passes s then m.moveFrom m.second frac s
    else if s.seconds < 0 then do
      let second ← fits 64 (m.second + 1)
      m.moveFrom second frac s
    else do
      let frac ← fits 32 (m.frac + s.nanos)
      return m.daysFrom? 0 m.second frac
  else m.moveFrom m.second m.frac s

variable {m : Moment} {s : Span} {whole second frac : ℤ}

/-- Nothing is lost when a second is carried. -/
lemma exists_carry (hsecond : -2 ^ 62 ≤ second ∧ second < 2 ^ 62)
    (hfrac : 0 ≤ frac ∧ frac < 2 * nanosPerSecond) :
    ∃ second' frac', carry second frac = some (second', frac')
      ∧ (0 ≤ frac' ∧ frac' < nanosPerSecond) ∧ (second ≤ second' ∧ second' ≤ second + 1)
      ∧ second' * nanosPerSecond + frac' = second * nanosPerSecond + frac := by
  rw [carry]
  split_ifs with h
  · rw [fits_of_lt (by omega) (by omega), Option.map_some]
    exact ⟨_, _, rfl, by omega, by omega, by ring⟩
  · exact ⟨_, _, rfl, by omega, by omega, rfl⟩

/-- Nothing is lost when a second is carried or taken away. -/
lemma exists_balance (hsecond : -2 ^ 62 ≤ second ∧ second < 2 ^ 62)
    (hfrac : -nanosPerSecond ≤ frac ∧ frac < 2 * nanosPerSecond) :
    ∃ second' frac', balance second frac = some (second', frac')
      ∧ (0 ≤ frac' ∧ frac' < nanosPerSecond) ∧ (second - 1 ≤ second' ∧ second' ≤ second + 1)
      ∧ second' * nanosPerSecond + frac' = second * nanosPerSecond + frac := by
  rw [balance]
  split_ifs with h
  · rw [fits_of_lt (by omega) (by omega), Option.map_some]
    exact ⟨_, _, rfl, by omega, by omega, by ring⟩
  · obtain ⟨second', frac', hcarry, hf, hs, htotal⟩ := exists_carry hsecond ⟨not_lt.mp h, hfrac.2⟩
    exact ⟨second', frac', hcarry, hf, ⟨by omega, hs.2⟩, htotal⟩

namespace Moment

/-- The checks of days refuse only what has no moment anyway. -/
lemma daysFrom?_eq (hdays : secondsPerDay ∣ whole) :
    m.daysFrom? whole second frac = ofParts? (m.day + whole / secondsPerDay) second frac := by
  obtain ⟨days, rfl⟩ := hdays
  have hday : -96465292 ≤ m.day ∧ m.day ≤ 95026236 := ⟨m.firstDay_le, m.le_lastDay⟩
  have hout : ¬ (firstDay ≤ m.day + days ∧ m.day + days ≤ lastDay) →
      ofParts? (m.day + days) second frac = none := fun h => dif_neg fun hin => h hin.1
  rw [daysFrom?, Int.mul_ediv_cancel_left _ secondsPerDay_pos.ne']
  dsimp only [Option.bind_eq_bind]
  by_cases hfits : (-2 ^ (32 - 1) ≤ days ∧ days < 2 ^ (32 - 1))
      ∧ -2 ^ (32 - 1) ≤ m.day + days ∧ m.day + days < 2 ^ (32 - 1)
  · rw [if_pos (by rw [secondsPerDay, greatestSeconds]; omega), fits_of_lt hfits.1.1 hfits.1.2,
      Option.bind_some, fits_of_lt hfits.2.1 hfits.2.2, Option.bind_some]
  · rw [hout (by rw [firstDay, lastDay]; omega)]
    by_cases hd : -2 ^ (32 - 1) ≤ days ∧ days < 2 ^ (32 - 1)
    · rw [fits_of_lt hd.1 hd.2, Option.bind_some, fits, if_neg fun hin => hfits ⟨hd, hin⟩,
        Option.bind_none, ite_self]
    · rw [fits, if_neg hd, Option.bind_none, ite_self]

/-- **From a second and a nanosecond outside leap seconds a moment moves exactly**, and no step
leaves its word. -/
lemma moveFrom_eq (hs : 0 ≤ second ∧ second ≤ secondsPerDay)
    (hf : 0 ≤ frac ∧ frac < nanosPerSecond) : m.moveFrom second frac s
      = some ((Instant.ofNanos? ((m.day * secondsPerDay + second) * nanosPerSecond + frac
        + s.toDelta.nanos)).map ofInstant) := by
  have hgreatest : greatestSeconds = 9223372036854775 := rfl
  have hbillion : (nanosPerSecond : ℤ) = 1000000000 := rfl
  have hday : secondsPerDay = 86400 := rfl
  have hseconds := s.seconds_bounds
  have hnanos := s.nanos_bounds
  obtain ⟨second', frac', hbalance, hf', hs', htotal⟩ :=
    @exists_balance (second + s.seconds) (frac + s.nanos) (by omega) (by omega)
  have hmod : 0 ≤ second' % secondsPerDay ∧ second' % secondsPerDay < secondsPerDay :=
    ⟨Int.emod_nonneg _ (by decide), Int.emod_lt_of_pos _ (by decide)⟩
  have hexact : ((m.day + (second' - second' % secondsPerDay) / secondsPerDay) * secondsPerDay
      + second' % secondsPerDay) * nanosPerSecond + frac'
        = (m.day * secondsPerDay + second) * nanosPerSecond + frac + s.toDelta.nanos := by
    have hwhole := Int.ediv_mul_cancel (@Int.dvd_self_sub_emod second' secondsPerDay)
    rw [Span.toDelta]
    linear_combination htotal + (nanosPerSecond : ℤ) * hwhole
  rw [moveFrom]
  dsimp only [Option.bind_eq_bind]
  rw [fits_of_lt (by omega) (by omega), Option.bind_some, fits_of_lt (by omega) (by omega),
    Option.bind_some, hbalance, Option.bind_some]
  dsimp only
  rw [fits_of_lt (by omega) (by omega), Option.bind_some, daysFrom?_eq Int.dvd_self_sub_emod,
    ofParts?_eq hmod hf', hexact]
  rfl

/-- Whether a span leads past the end of a leap second is told by the sum of the nanoseconds. -/
lemma passes_eq (hfrac : nanosPerSecond ≤ m.frac) :
    m.passes s = some (decide (2 * nanosPerSecond ≤ m.frac + s.toDelta.nanos)) := by
  have hbillion : (nanosPerSecond : ℤ) = 1000000000 := rfl
  have hlt := m.frac_lt
  have hnanos := s.nanos_bounds
  have hsign := s.one_sign
  have htotal : s.toDelta.nanos = s.seconds * 1000000000 + s.nanos := s.nanos_toDelta
  rw [passes]
  split_ifs with hseconds hpos
  · rw [Option.some.injEq, eq_comm, decide_eq_true_iff]
    omega
  · rw [fits_of_lt (by omega) (by omega), Option.map_some, Option.some.injEq, decide_eq_decide]
    omega
  · rw [Option.some.injEq, eq_comm, decide_eq_false_iff_not]
    omega

lemma nanos_ofInstant (t : Instant) : ((ofInstant t).day * secondsPerDay + (ofInstant t).second)
    * nanosPerSecond + (ofInstant t).frac = t.nanos := by
  rw [seconds_ofInstant]
  rfl

/-- By less than a second, and not past the end of a leap second, only its nanosecond moves. -/
lemma ofParts?_add {t : Instant} {d : Delta} (ht : t.IsLeap) (hlow : -nanosPerSecond < d.nanos)
    (hhigh : t.subsecond + d.nanos < 2 * nanosPerSecond) :
    ofParts? (ofInstant t).day (ofInstant t).second (t.subsecond + d.nanos)
      = (t.add? d).map ofInstant := by
  have hs := (ofInstant t).second_nonneg
  have hlt := (ofInstant t).second_lt
  rcases lt_or_ge (t.subsecond + d.nanos) nanosPerSecond with hback | hstay
  · have hnonneg : 0 ≤ t.subsecond + d.nanos := by
      have hleap : (nanosPerSecond : ℤ) ≤ t.subsecond := le_frac_ofInstant_iff.mpr ht
      omega
    rw [Instant.add?_of_lt hback, ofParts?_eq ⟨hs, hlt⟩ ⟨hnonneg, hback⟩, ← nanos_ofInstant,
      add_assoc]
    rfl
  · obtain ⟨u, hu, hseconds, hsubsecond⟩ := Instant.exists_add?_of_stays ht hstay hhigh
    rw [hu, ofParts?_of_instant ⟨hs, hlt⟩ (hseconds.trans (seconds_ofInstant t).symm) hsubsecond]
    rfl

/-- **A sum in words is the sum of the instants**, in leap seconds and outside them, and no step of
it leaves its word. -/
lemma move_ofInstant (t : Instant) (s : Span) :
    (ofInstant t).move s = some ((t.add? s.toDelta).map ofInstant) := by
  have hbillion : (nanosPerSecond : ℤ) = 1000000000 := rfl
  have hday : secondsPerDay = 86400 := rfl
  have hs : 0 ≤ (ofInstant t).second ∧ (ofInstant t).second < secondsPerDay :=
    ⟨(ofInstant t).second_nonneg, (ofInstant t).second_lt⟩
  have hlt := (ofInstant t).frac_lt
  rw [move]
  by_cases ht : t.IsLeap
  · have hleap := le_frac_ofInstant_iff.mpr ht
    have htotal : s.toDelta.nanos = s.seconds * 1000000000 + s.nanos := s.nanos_toDelta
    have hnanos := s.nanos_bounds
    have hsign := s.one_sign
    dsimp only [Option.bind_eq_bind]
    rw [if_pos hleap, fits_of_lt (by omega) (by omega), Option.bind_some, passes_eq hleap,
      Option.bind_some]
    simp only [decide_eq_true_eq]
    split_ifs with hpast hback
    · -- past the end of the leap second
      rw [moveFrom_eq ⟨hs.1, hs.2.le⟩ ⟨by omega, by omega⟩, Instant.add?_of_le ht hpast,
        ← nanos_ofInstant]
      exact congrArg (fun n => some ((Instant.ofNanos? n).map ofInstant)) (by ring)
    · -- back by a second or more
      have hbefore : (ofInstant t).frac + s.toDelta.nanos < nanosPerSecond := by omega
      rw [fits_of_lt (by omega) (by omega), Option.bind_some,
        moveFrom_eq ⟨by omega, by omega⟩ ⟨by omega, by omega⟩, Instant.add?_of_lt hbefore,
        ← nanos_ofInstant]
      exact congrArg (fun n => some ((Instant.ofNanos? n).map ofInstant)) (by ring)
    · -- by less than a second, and not past the end of the leap second
      have hmoved : s.nanos = s.toDelta.nanos := by omega
      rw [fits_of_lt (by omega) (by omega), Option.bind_some, daysFrom?_eq (dvd_zero _),
        Int.zero_ediv, add_zero, hmoved]
      exact congrArg some (ofParts?_add ht (by omega) (not_le.mp hpast))
  · have hleap := mt le_frac_ofInstant_iff.mp ht
    rw [if_neg hleap, moveFrom_eq ⟨hs.1, hs.2.le⟩ ⟨(ofInstant t).frac_nonneg, not_le.mp hleap⟩,
      nanos_ofInstant, Instant.add?_of_not_isLeap ht]

end Moment

/-! ### Lengths of time that are not negative -/

/-- A length of time is a span unless it is too long, and nothing of it is lost. -/
lemma Span.toDelta_of_ofDuration? {d : Duration} {s : Span} (h : Span.ofDuration? d = some s) :
    s.toDelta = d.toDelta := by
  rw [ofDuration?] at h
  split_ifs at h
  cases h
  refine Delta.ext ?_
  rw [nanos_toDelta, Duration.toDelta, Duration.toNanos]
  push_cast
  rfl

lemma Span.lt_of_ofDuration?_eq_none {d : Duration} (h : Span.ofDuration? d = none) :
    greatestSeconds * nanosPerSecond < d.toNanos := by
  rw [ofDuration?, dite_eq_right_iff] at h
  have hlong := imp_false.mp fun hd => by simpa using h hd
  simp only [Duration.toNanos, nanosPerSecond, greatestSeconds, greatestNanos] at *
  omega

/-- A length of time is added as a span, if it is not too long. -/
def sum (t : Instant) (d : Duration) : Option (Option Moment) :=
  (Span.ofDuration? d).elim (some none) (Moment.ofInstant t).move

/-- **The sum in words is the exact one**, for every instant and every length of time: what is too
long for a span would end after the last instant. -/
lemma sum_eq (t : Instant) (d : Duration) :
    sum t d = some ((t.add? d.toDelta).map Moment.ofInstant) := by
  rw [sum]
  cases hs : Span.ofDuration? d with
  | some s => rw [Option.elim_some, Moment.move_ofInstant, Span.toDelta_of_ofDuration? hs]
  | none =>
      have hlong := Span.lt_of_ofDuration?_eq_none hs
      have hfirst := t.first_le
      have hnone : ¬ t.InRange d.toDelta := by
        rw [Instant.InRange]
        simp only [Instant.nanos, firstNanos, lastNanos, firstSecond, lastSecond, Duration.toDelta,
          nanosPerSecond, greatestSeconds] at *
        split_ifs <;> omega
      rw [Option.elim_none, Instant.add?_eq_none_iff.mpr hnone, Option.map_none]

end Keyring.Words
