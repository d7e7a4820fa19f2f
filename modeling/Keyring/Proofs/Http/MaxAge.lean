import Mathlib.Tactic
import Keyring.Http.Headers
import Keyring.Proofs.Result
import Keyring.Proofs.Time.Elapsed

/-!
How long the headers of an answer say that it may be kept.

* `Headers.Decides`: the directive that decides, the first one with the mark.
* `Headers.maxAge_eq_ok_iff`, `Headers.maxAge_eq_error_iff`: what it says, or what is wrong with it,
  or that there is none.
* `add?_seconds_eq_some_iff`, `add?_seconds_eq_none_iff`: the instant so many seconds after another
  one, which there is unless the sum is out of range.
-/

namespace Keyring

/-! ### Numbers of 64 bits -/

namespace Decimal

lemma parseDigits_lt {m n : ℕ} {cs : List Char} (hm : m < UInt64.size)
    (h : parseDigits m cs = .ok n) : n < UInt64.size := by
  induction cs generalizing m with
  | nil =>
      obtain rfl : m = n := by simpa [parseDigits] using h
      exact hm
  | cons c r ih =>
      rw [parseDigits] at h
      dsimp only at h
      split_ifs at h with hdigit hlt
      exact ih hlt h

/-- A number that is read has 64 bits. -/
lemma parse64_lt {n : ℕ} {cs : List Char} (h : parse64 cs = .ok n) : n < UInt64.size := by
  unfold parse64 at h
  split at h
  · cases h
  · cases h
  · exact parseDigits_lt (by decide) h
  · exact parseDigits_lt (by decide) h

end Decimal

/-! ### The directive that decides -/

namespace Http.Headers

variable {headers : Headers} {d : List Char} {e : Error}

/-- A directive of the first `Cache-Control` decides: it has the mark, and none before it has. -/
def Decides (headers : Headers) (d : List Char) : Prop :=
  ∃ before after, directives (headers.cacheControl?.getD []) = before ++ d :: after
    ∧ maxAgeMark <+: d ∧ ∀ b ∈ before, ¬ maxAgeMark <+: b

/-- No directive of the first `Cache-Control` has the mark. -/
def Undecided (headers : Headers) : Prop :=
  ∀ d ∈ directives (headers.cacheControl?.getD []), ¬ maxAgeMark <+: d

lemma find?_eq_some_iff :
    (directives (headers.cacheControl?.getD [])).find? maxAgeMark.isPrefixOf = some d
      ↔ headers.Decides d := by
  rw [List.find?_eq_some_iff_append]
  constructor
  · rintro ⟨hd, before, after, hall, hbefore⟩
    exact ⟨before, after, hall, List.isPrefixOf_iff_prefix.mp hd,
      fun b hb hmark => by simpa [List.isPrefixOf_iff_prefix.mpr hmark] using hbefore b hb⟩
  · rintro ⟨before, after, hall, hd, hbefore⟩
    refine ⟨List.isPrefixOf_iff_prefix.mpr hd, before, after, hall, fun b hb => ?_⟩
    rw [Bool.not_eq_true', ← Bool.not_eq_true, List.isPrefixOf_iff_prefix]
    exact hbefore b hb

lemma find?_eq_none_iff :
    (directives (headers.cacheControl?.getD [])).find? maxAgeMark.isPrefixOf = none
      ↔ headers.Undecided := by
  rw [List.find?_eq_none]
  exact forall₂_congr fun d _ => not_congr List.isPrefixOf_iff_prefix

/-- The seconds of a directive, or what is wrong with their number. -/
lemma directiveSeconds_eq :
    directiveSeconds d = match Decimal.parse64 (d.drop maxAgeMark.length) with
      | .ok n => .ok (UInt64.ofNat n)
      | .error f => .error (.format (.maxAge (String.ofList d) f)) := rfl

/-- **How long an answer may be kept**: as many seconds as the directive that decides says. -/
theorem maxAge_eq_ok_iff {lifetime : Duration} :
    headers.maxAge = .ok lifetime ↔ ∃ d n, headers.Decides d
      ∧ Decimal.parse64 (d.drop maxAgeMark.length) = .ok n
      ∧ lifetime = Duration.ofSeconds (UInt64.ofNat n) := by
  rw [maxAge]
  cases hf : (directives (headers.cacheControl?.getD [])).find? maxAgeMark.isPrefixOf with
  | none =>
      refine ⟨fun h => by simp at h, ?_⟩
      rintro ⟨d, n, hd, -⟩
      rw [find?_eq_some_iff.mpr hd] at hf
      cases hf
  | some d =>
      have hd := find?_eq_some_iff.mp hf
      have hsame : ∀ d', headers.Decides d' → d' = d := fun d' hd' =>
        Option.some.inj ((find?_eq_some_iff.mpr hd').symm.trans hf)
      dsimp only
      rw [directiveSeconds_eq]
      constructor
      · cases hp : Decimal.parse64 (d.drop maxAgeMark.length) with
        | error f => simp [Except.map]
        | ok n =>
            intro h
            exact ⟨d, n, hd, hp, by simpa [Except.map, eq_comm] using h⟩
      · rintro ⟨d', n, hd', hp, rfl⟩
        obtain rfl := hsame d' hd'
        rw [hp]
        rfl

/-- **What can be wrong**: no directive has the mark, or the number of the one that decides is none.
-/
theorem maxAge_eq_error_iff :
    headers.maxAge = .error e ↔ (headers.Undecided ∧ e = .config .noMaxAge)
      ∨ ∃ d f, headers.Decides d ∧ Decimal.parse64 (d.drop maxAgeMark.length) = .error f
        ∧ e = .format (.maxAge (String.ofList d) f) := by
  rw [maxAge]
  cases hf : (directives (headers.cacheControl?.getD [])).find? maxAgeMark.isPrefixOf with
  | none =>
      have hno := find?_eq_none_iff.mp hf
      have hnone : ∀ d, ¬ headers.Decides d := fun d hd => by
        rw [find?_eq_some_iff.mpr hd] at hf
        cases hf
      simp [hno, hnone, eq_comm]
  | some d =>
      have hd := find?_eq_some_iff.mp hf
      have hsame : ∀ d', headers.Decides d' → d' = d := fun d' hd' =>
        Option.some.inj ((find?_eq_some_iff.mpr hd').symm.trans hf)
      have hsome : ¬ headers.Undecided := fun hno => by
        rw [find?_eq_none_iff.mpr hno] at hf
        cases hf
      dsimp only
      rw [directiveSeconds_eq]
      constructor
      · cases hp : Decimal.parse64 (d.drop maxAgeMark.length) with
        | error f =>
            intro h
            exact .inr ⟨d, f, hd, hp, by simpa [Except.map, eq_comm] using h⟩
        | ok n => simp [Except.map]
      · rintro (⟨hno, -⟩ | ⟨d', f, hd', hp, rfl⟩)
        · exact absurd hno hsome
        · obtain rfl := hsame d' hd'
          rw [hp]
          rfl

end Http.Headers

/-! ### Seconds after an instant -/

variable {now : Instant} {n : ℕ}

/-- The instant so many seconds after another one is the one that they reach. -/
lemma add?_seconds_eq_some_iff (hn : n < UInt64.size) {expiry : Instant} :
    now.add? (Duration.ofSeconds (UInt64.ofNat n)).toDelta = some expiry
      ↔ now.Reaches ⟨n * nanosPerSecond⟩ expiry := by
  rw [Instant.add?_eq_some_iff, Duration.toDelta_ofSeconds, UInt64.toNat_ofNat_of_lt' hn]

lemma add?_seconds_eq_none_iff (hn : n < UInt64.size) :
    now.add? (Duration.ofSeconds (UInt64.ofNat n)).toDelta = none
      ↔ ¬ now.InRange ⟨n * nanosPerSecond⟩ := by
  rw [Instant.add?_eq_none_iff, Duration.toDelta_ofSeconds, UInt64.toNat_ofNat_of_lt' hn]

end Keyring
