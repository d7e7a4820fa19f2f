import Keyring.Error

/-!
Exporting what is measured.

* `Metrics.Exporter`: the recorder of the measures of the process.
* `Metrics.Exporter.install`: makes the exporter the recorder; once is enough.
* `Metrics.Exporter.run_of_ne_absent`: the first recorder stays, and decides what every
  later installation answers.
-/

namespace Keyring.Metrics

/-- The recorder of the measures of the process: there is one at most, and it is never replaced. -/
inductive Exporter where
  /-- No recorder is set. -/
  | absent
  /-- The exporter is the recorder, and its handle can be used. -/
  | present
  /-- Another recorder is set; setting one more is refused in these words. -/
  | displaced (refusal : String)
  deriving Repr, DecidableEq

namespace Exporter

/-- Whether the handle of the exporter can be used. -/
def installed : Exporter → Bool
  | .present => true
  | .absent | .displaced _ => false

/-- Installs the exporter, unless it is there already. -/
def install : Exporter → Except Error Unit × Exporter
  | .present => (.ok (), .present)
  | .absent => (.ok (), .present)
  | .displaced refusal => (.error (.metrics refusal), .displaced refusal)

/-- Sets another recorder where there is none. -/
def displace (refusal : String) : Exporter → Exporter
  | .absent => .displaced refusal
  | .present => .present
  | .displaced earlier => .displaced earlier

/-! ### Any number of installations -/

/-- A call that asks to set a recorder. -/
inductive Call where
  /-- The exporter is installed. -/
  | install
  /-- Another part of the process sets a recorder of its own. -/
  | displace (refusal : String)
  deriving Repr, DecidableEq

/-- The answers to the installations among some calls, and the recorder after all of them. -/
def run : Exporter → List Call → List (Except Error Unit) × Exporter
  | e, [] => ([], e)
  | e, .install :: calls => ((e.install.1 :: (e.install.2.run calls).1), (e.install.2.run calls).2)
  | e, .displace refusal :: calls => (e.displace refusal).run calls

variable {e : Exporter} {calls : List Call} {refusal : String}

/-- Installing does not replace a recorder. -/
theorem install_of_ne_absent (h : e ≠ .absent) : e.install.2 = e := by
  cases e with
  | absent => exact absurd rfl h
  | present => rfl
  | displaced _ => rfl

/-- Setting another recorder does not replace one either. -/
theorem displace_of_ne_absent (h : e ≠ .absent) : e.displace refusal = e := by
  cases e with
  | absent => exact absurd rfl h
  | present => rfl
  | displaced _ => rfl

/-- **A recorder stays**, and all installations after it answer the same. -/
theorem run_of_ne_absent (h : e ≠ .absent) :
    e.run calls = (List.replicate (calls.count .install) e.install.1, e) := by
  induction calls with
  | nil => rfl
  | cons call calls ih =>
      cases call with
      | install =>
          rw [run, install_of_ne_absent h, ih, List.count_cons_self, List.replicate_succ]
      | displace refusal =>
          rw [run, displace_of_ne_absent h, ih, List.count_cons_of_ne (by simp)]

/-- **Installed first, the exporter can be installed any number of times**, whatever other recorders
are tried in between. -/
theorem run_install (e : Exporter) (h : e.install.1 = .ok ()) :
    e.run (.install :: calls) = (List.replicate (calls.count .install + 1) (.ok ()), .present) := by
  cases e with
  | displaced _ => cases h
  | absent | present =>
      rw [run, install, run_of_ne_absent (by simp), List.replicate_succ]
      rfl

/-- **After another recorder the exporter is never installed**: every installation fails with the
words in which it is refused. -/
theorem run_displace : absent.run (.displace refusal :: calls) =
    (List.replicate (calls.count .install) (.error (.metrics refusal)), .displaced refusal) := by
  rw [run, displace, run_of_ne_absent (by simp)]
  rfl

end Exporter

end Keyring.Metrics
