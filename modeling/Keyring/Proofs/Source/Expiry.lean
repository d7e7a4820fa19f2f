import Mathlib.Tactic
import Keyring.Proofs.Source.Course
import Keyring.Proofs.Source.Provenance
import Keyring.Proofs.Http.MaxAge
import Keyring.Proofs.Time.Words

/-!
How long keys may be used, exact to the nanosecond, up to the last instant there is.

* `refreshed_eq_ok_iff`: when a refresh has keys to install, and when they expire.
* `MayServe`: whether keys may be used after their expiry; `mayOutlive_eq_true_iff_mayServe`,
  `mayServe_iff_of_not_isLeap`.
* `expiry_exact`: both statements for whole calls; no sum of this kind leaves its words.
* `expiry_from_leap_second`: keys that have arrived in a leap second.
-/

namespace Keyring

namespace Source

open Http (Attempt KeyDocument Transport)

variable {s : Source} {p fresh : Snapshot} {now expiry : Instant} {window took : Duration}
  {fetched : Except Error KeyDocument} {document : KeyDocument} {keys : List PublishedKey}
  {S : UInt64} {e : Error}

/-! ### Keys that have arrived -/

/-- Fetching came to keys that may be kept for some seconds, as far as document and headers go. -/
structure Brings (fetched : Except Error KeyDocument) (keys : List PublishedKey) (S : UInt64)
    (took : Duration) : Prop where
  document : ∃ document, fetched = .ok document ∧ PublishedKey.ofDocument document.body = .ok keys
    ∧ document.headers.maxAge = .ok (Duration.ofSeconds S) ∧ took = document.elapsed

/-- A refresh makes a snapshot of the keys and the expiry, if this is in range. -/
lemma Brings.refreshed_eq (h : Brings fetched keys S took) (now : Instant) :
    refreshed fetched now = match now.add? (Duration.ofSeconds S).toDelta with
      | some expiry => .ok (⟨keys, expiry⟩, took)
      | none => .error (.format (.lifetime S)) := by
  obtain ⟨document, rfl, hkeys, hage, rfl⟩ := h.document
  rw [refreshed, snapshotOf, hkeys]
  dsimp only
  rw [hage]
  dsimp only
  cases now.add? (Duration.ofSeconds S).toDelta <;> rfl

/-- **Keys expire exactly as many seconds after they have arrived as the headers say.** -/
lemma refreshed_eq_ok_iff : refreshed fetched now = .ok (fresh, took)
    ↔ ∃ S, Brings fetched fresh.keys S took
      ∧ now.Reaches ⟨S.toNat * nanosPerSecond⟩ fresh.expiresAt := by
  have hadd : ∀ {S : UInt64} {expiry : Instant},
      now.add? (Duration.ofSeconds S).toDelta = some expiry
        ↔ now.Reaches ⟨S.toNat * nanosPerSecond⟩ expiry := fun {S _} => by
    rw [Instant.add?_eq_some_iff, Duration.toDelta_ofSeconds]
  constructor
  · intro h
    cases fetched with
    | error e => cases h
    | ok document =>
        rw [refreshed, snapshotOf] at h
        cases hkeys : PublishedKey.ofDocument document.body with
        | error e => simp [hkeys, Except.map] at h
        | ok keys =>
            cases hage : document.headers.maxAge with
            | error e => simp [hkeys, hage, Except.map] at h
            | ok lifetime =>
                obtain ⟨d, n, -, -, rfl⟩ := Http.Headers.maxAge_eq_ok_iff.mp hage
                have hbrings : Brings (.ok document) keys (UInt64.ofNat n) document.elapsed :=
                  ⟨document, rfl, hkeys, hage, rfl⟩
                have heq := hbrings.refreshed_eq now
                rw [refreshed, snapshotOf, h] at heq
                cases hsum : now.add? (Duration.ofSeconds (UInt64.ofNat n)).toDelta with
                | none => simp [hsum] at heq
                | some expiry =>
                    simp only [hsum, Except.ok.injEq, Prod.mk.injEq] at heq
                    obtain ⟨rfl, rfl⟩ := heq
                    exact ⟨_, hbrings, hadd.mp hsum⟩
  · rintro ⟨S, hbrings, hexpiry⟩
    rw [hbrings.refreshed_eq, hadd.mpr hexpiry]

/-- There are no keys if the instant of their expiry would be out of range. -/
lemma Brings.refreshed_eq_error (h : Brings fetched keys S took)
    (hout : ¬ now.InRange ⟨S.toNat * nanosPerSecond⟩) :
    refreshed fetched now = .error (.format (.lifetime S)) := by
  rw [h.refreshed_eq, Duration.toDelta_ofSeconds, Instant.add?_eq_none_iff.mpr hout]

/-- There are keys if the instant of their expiry is in range. -/
lemma Brings.exists_refreshed (h : Brings fetched keys S took)
    (hin : now.InRange ⟨S.toNat * nanosPerSecond⟩) :
    ∃ expiry : Instant, now.Reaches ⟨S.toNat * nanosPerSecond⟩ expiry
      ∧ refreshed fetched now = .ok (⟨keys, expiry⟩, took) := by
  obtain ⟨expiry, hexpiry⟩ := Instant.exists_reaches_iff.mpr hin
  exact ⟨expiry, hexpiry, refreshed_eq_ok_iff.mpr ⟨S, h, hexpiry⟩⟩

/-- Keys do not expire before they have arrived, and only without a second to live at once. -/
lemma le_expiry (h : now.Reaches ⟨S.toNat * nanosPerSecond⟩ expiry) :
    now ≤ expiry ∧ (expiry = now ↔ S = 0) := by
  have hzero : S.toNat = 0 ↔ S = 0 := by rw [← UInt64.toNat_inj, UInt64.toNat_zero]
  obtain ⟨hle, -⟩ := h.le (mul_nonneg (Int.natCast_nonneg _) (Int.natCast_nonneg _))
  obtain ⟨hseconds, hsubsecond⟩ := Instant.reaches_seconds_iff.mp h
  refine ⟨hle, ?_⟩
  rw [← hzero, Instant.ext_iff, hseconds, hsubsecond]
  constructor
  · exact fun hsame => by omega
  · exact fun hS => by simp [hS]

/-! ### Keys that are used after their expiry -/

/-- **Keys may be used after their expiry**: there are any, the end of the window is an instant, and
that instant is still to come. -/
structure MayServe (p : Snapshot) (window : Duration) (now : Instant) : Prop where
  ne_nil : p.keys ≠ []
  lt_deadline : ∃ deadline, p.expiresAt.Reaches window.toDelta deadline ∧ now < deadline

lemma mayOutlive_eq_true_iff_mayServe :
    p.mayOutlive window now = true ↔ MayServe p window now := by
  simp only [Snapshot.mayOutlive_eq_true_iff, Instant.add?_eq_some_iff]
  exact ⟨fun h => ⟨h.1, h.2⟩, fun h => ⟨h.ne_nil, h.lt_deadline⟩⟩

/-- Outside leap seconds the nanoseconds since the epoch tell whether keys may be used. -/
lemma mayServe_iff_of_not_isLeap (hp : ¬ p.expiresAt.IsLeap) (hnow : ¬ now.IsLeap) :
    MayServe p window now ↔ p.keys ≠ [] ∧ p.expiresAt.nanos + window.toNanos ≤ lastNanos
      ∧ now.nanos < p.expiresAt.nanos + window.toNanos := by
  have hpos : (0 : ℤ) ≤ window.toNanos := Int.natCast_nonneg _
  constructor
  · rintro ⟨hkeys, deadline, hreaches, hlt⟩
    obtain ⟨hnanos, hleap⟩ := (Instant.reaches_iff_of_not_isLeap hp).mp hreaches
    have hin := (Instant.exists_reaches_iff.mp ⟨deadline, hreaches⟩).2
    rw [if_neg hp, add_zero] at hin
    exact ⟨hkeys, hin, hnanos ▸ (Instant.lt_iff_of_not_isLeap hnow hleap).mp hlt⟩
  · rintro ⟨hkeys, hlast, hlt⟩
    have hin : p.expiresAt.InRange window.toDelta := by
      refine ⟨?_, by rwa [if_neg hp, add_zero]⟩
      exact le_add_of_le_of_nonneg p.expiresAt.firstNanos_le hpos
    obtain ⟨deadline, hreaches⟩ := Instant.exists_reaches_iff.mpr hin
    obtain ⟨hnanos, hleap⟩ := (Instant.reaches_iff_of_not_isLeap hp).mp hreaches
    exact ⟨hkeys, deadline, hreaches, (Instant.lt_iff_of_not_isLeap hnow hleap).mpr (hnanos ▸ hlt)⟩

/-! ### Whole calls -/

variable {σ : Type} {send : Transport σ} {call : Call} {net : σ}

/-- What a call comes to that has to fetch and is not cancelled. -/
lemma exists_ends_of_keys (hstale : s.snapshot.isStale call.begun = true)
    (huncancelled : ((KeyDocument.fetch send (call.client.getD s.client) s.config net).1.isWaiting
      && call.cancelled) = false) :
    ∃ r, Ends s call
        ((KeyDocument.fetch send (call.client.getD s.client) s.config net).1.settle s.config) r
      ∧ (s.keys send call net).1 = some r.1 ∧ (s.keys send call net).2.1 = r.2 := by
  refine ⟨_, finish_ends s call _, ?_⟩
  rw [keys_of_isStale send net hstale]
  dsimp only
  rw [if_neg (by simp [huncancelled])]
  exact ⟨rfl, rfl⟩

/-- A call that installs keys answers with them. -/
lemma Ends.of_refreshed {r : Except Error (List PublishedKey) × Source}
    (h : Ends s call fetched r) (hr : refreshed fetched call.arrived = .ok (fresh, took)) :
    r.1 = .ok fresh.keys ∧ r.2.snapshot = fresh := by
  cases h with
  | installed hr' =>
      obtain ⟨rfl, rfl⟩ := Prod.mk.inj (Except.ok.inj (hr'.symm.trans hr))
      exact ⟨rfl, rfl⟩
  | servedStale hr' => cases hr'.symm.trans hr
  | failed hr' => cases hr'.symm.trans hr

/-- A call whose refresh failed is served with the stale keys, or fails. -/
lemma Ends.of_refreshed_error {r : Except Error (List PublishedKey) × Source}
    (h : Ends s call fetched r) (hr : refreshed fetched call.arrived = .error e) :
    (s.config.failurePolicy = .serveStale
        ∧ MayServe s.snapshot s.config.staleWhileError call.failed ∧ r.1 = .ok s.snapshot.keys)
      ∨ ¬ (s.config.failurePolicy = .serveStale
        ∧ MayServe s.snapshot s.config.staleWhileError call.failed) ∧ r.1 = .error e := by
  simp only [← mayOutlive_eq_true_iff_mayServe]
  cases h with
  | installed hr' => cases hr'.symm.trans hr
  | servedStale _ hpolicy hwindow => exact .inl ⟨hpolicy, hwindow, rfl⟩
  | failed hr' hno => exact .inr ⟨hno, congrArg _ (Except.error.inj (hr'.symm.trans hr))⟩

/-- **Expiry is exact up to the last instant.** Let a call find the keys at hand stale, and not be
cancelled. If fetching brings keys that may be kept for `S` seconds, they are installed to expire
exactly `S` seconds after the reading of the clock, not before that reading, and at it only if `S`
is zero; if that is out of range, fetching has failed for that reason. A leap second that the
reading lies in counts as a second; outside leap seconds this is a sum of nanoseconds since the
epoch. Nothing else is ever installed. Where fetching failed and stale keys may be served, they are
exactly if there are any, their expiry and the window add up to an instant, and the reading is
before that one; outside leap seconds this again is a matter of nanoseconds since the epoch. No sum
of an instant and a length of time leaves the words it is computed in. -/
theorem expiry_exact {σ : Type} (send : Transport σ) (s : Source) (call : Call) (net : σ) :
    let attempt := (KeyDocument.fetch send (call.client.getD s.client) s.config net).1
    let fetched := attempt.settle s.config
    let r := s.keys send call net
    s.snapshot.isStale call.begun = true → (attempt.isWaiting && call.cancelled) = false →
      (∀ keys S took, Brings fetched keys S took →
        call.arrived.InRange ⟨S.toNat * nanosPerSecond⟩ →
          ∃ expiry, call.arrived.Reaches ⟨S.toNat * nanosPerSecond⟩ expiry
            ∧ (¬ call.arrived.IsLeap →
              expiry.nanos = call.arrived.nanos + S.toNat * nanosPerSecond)
            ∧ r.1 = some (.ok keys) ∧ r.2.1.snapshot = ⟨keys, expiry⟩
            ∧ call.arrived ≤ expiry ∧ (expiry = call.arrived ↔ S = 0))
      ∧ (∀ keys S took, Brings fetched keys S took →
        ¬ call.arrived.InRange ⟨S.toNat * nanosPerSecond⟩ →
          refreshed fetched call.arrived = .error (.format (.lifetime S)))
      ∧ (∀ fresh took, refreshed fetched call.arrived = .ok (fresh, took) →
        ∃ S, Brings fetched fresh.keys S took
          ∧ call.arrived.Reaches ⟨S.toNat * nanosPerSecond⟩ fresh.expiresAt)
      ∧ (∀ e, refreshed fetched call.arrived = .error e →
        (s.config.failurePolicy = .clear → r.1 = some (.error e))
        ∧ (s.config.failurePolicy = .serveStale →
          (r.1 = some (.ok s.snapshot.keys)
            ↔ MayServe s.snapshot s.config.staleWhileError call.failed)
          ∧ (¬ MayServe s.snapshot s.config.staleWhileError call.failed →
            r.1 = some (.error e))))
      ∧ (¬ s.snapshot.expiresAt.IsLeap → ¬ call.failed.IsLeap →
        (MayServe s.snapshot s.config.staleWhileError call.failed ↔ s.snapshot.keys ≠ []
          ∧ s.snapshot.expiresAt.nanos + s.config.staleWhileError.toNanos ≤ lastNanos
          ∧ call.failed.nanos < s.snapshot.expiresAt.nanos + s.config.staleWhileError.toNanos))
      ∧ ∀ (t : Instant) (d : Duration),
        Words.sum t d = some ((t.add? d.toDelta).map Words.Moment.ofInstant) := by
  intro attempt fetched r hstale huncancelled
  obtain ⟨_, hends, hanswer, hsource⟩ := exists_ends_of_keys hstale huncancelled
  refine ⟨fun keys S took hbrings hin => ?_, fun keys S took hbrings hout => ?_,
    fun fresh took hr => refreshed_eq_ok_iff.mp hr,
    fun e he => ⟨fun hpolicy => ?_, fun hpolicy => ?_⟩, mayServe_iff_of_not_isLeap, Words.sum_eq⟩
  -- the expiry is in range, or out of it
  · obtain ⟨expiry, hexpiry, hr⟩ := hbrings.exists_refreshed hin
    obtain ⟨hkeys, hsnapshot⟩ := hends.of_refreshed hr
    exact ⟨expiry, hexpiry, fun hno => ((Instant.reaches_iff_of_not_isLeap hno).mp hexpiry).1,
      hanswer.trans (congrArg some hkeys), hsource ▸ hsnapshot, le_expiry hexpiry⟩
  · exact hbrings.refreshed_eq_error hout
  -- fetching has failed, under either policy
  · rcases hends.of_refreshed_error he with ⟨hserves, -⟩ | ⟨-, herror⟩
    · rw [hpolicy] at hserves
      cases hserves
    · exact hanswer.trans (congrArg some herror)
  · rcases hends.of_refreshed_error he with ⟨-, hmay, hkeys⟩ | ⟨hno, herror⟩
    · have hserved := hanswer.trans (congrArg some hkeys)
      exact ⟨⟨fun _ => hmay, fun _ => hserved⟩, fun hno => absurd hmay hno⟩
    · have hmay : ¬ MayServe s.snapshot s.config.staleWhileError call.failed := fun hmay =>
        hno ⟨hpolicy, hmay⟩
      have hfailed := hanswer.trans (congrArg some herror)
      refine ⟨⟨fun hserved => ?_, fun hmay' => absurd hmay' hmay⟩, fun _ => hfailed⟩
      cases hfailed.symm.trans hserved

/-! ### Close to the last instant -/

/-- A source whose keys expire a minute before the last second there is. -/
def lateSource : Source :=
  { sampleSource with
    config := { sampleSource.config with failurePolicy := .serveStale }
    snapshot := ⟨[sampleKey], sampleInstant 8210266876739⟩ }

/-- A transport that answers every request with keys that may be kept for a minute. -/
def minuteTransport : Transport Unit := fun _ _ => (.response sampleResponse, ())

/-- The document that is fetched over that transport. -/
def minuteDocument : KeyDocument :=
  ⟨sampleResponse.headers, sampleDocument.toUTF8.toList, Duration.ofSeconds 1⟩

lemma fetch_minute : (KeyDocument.fetch minuteTransport lateSource.client lateSource.config ()).1
    = .ended (.ok minuteDocument) := by
  have hfollow : (lateSource.client.follow minuteTransport
      (Http.destination lateSource.config.keyUrl) lateSource.client.limit
      (Http.destination lateSource.config.keyUrl) ()).1 = .ended (.ok sampleResponse) := by
    decide +kernel
  have hallowed : Http.Fetching.allowed lateSource.config = .ok () := rfl
  have hdocument : (KeyDocument.ofResult lateSource.config (.ok sampleResponse)).toOption
      = some minuteDocument := by decide +kernel
  rw [Http.fetch_eq, hallowed]
  dsimp only
  rw [hfollow, Http.Attempt.document]
  cases hd : KeyDocument.ofResult lateSource.config (.ok sampleResponse) with
  | error e => simp [hd, Except.toOption] at hdocument
  | ok d => simpa [hd, Except.toOption] using hdocument

lemma brings_minute : Brings (.ok minuteDocument) [sampleKey] 60 (Duration.ofSeconds 1) := by
  have hkeys : (PublishedKey.ofDocument minuteDocument.body).toOption = some [sampleKey] := by
    decide +kernel
  have hage : minuteDocument.headers.maxAge.toOption = some (Duration.ofSeconds 60) := by
    decide +kernel
  refine ⟨_, rfl, ?_, ?_, rfl⟩
  · cases h : PublishedKey.ofDocument minuteDocument.body with
    | error e => simp [h, Except.toOption] at hkeys
    | ok keys => simpa [h, Except.toOption] using hkeys
  · cases h : minuteDocument.headers.maxAge with
    | error e => simp [h, Except.toOption] at hage
    | ok lifetime => simpa [h, Except.toOption] using hage

/-- A call that begins when the keys of that source have just expired. -/
def lateCall (arrived failed : ℤ) : Call where
  client := none
  begun := sampleInstant 8210266876739
  arrived := sampleInstant arrived
  failed := sampleInstant failed
  cancelled := false

/-- In the last second that keys can be kept for a minute they are installed; a second later they
cannot be, and those from before are served as long as the window is open. -/
theorem expiry_exact_sample :
    lateSource.snapshot.isStale (sampleInstant 8210266876739) = true
      ∧ (lateSource.keys minuteTransport (lateCall 8210266876739 8210266876739) ()).1
        = some (.ok [sampleKey])
      ∧ (lateSource.keys minuteTransport (lateCall 8210266876739 8210266876739) ()).2.1.snapshot
        = ⟨[sampleKey], sampleInstant 8210266876799⟩
      ∧ (lateSource.keys minuteTransport (lateCall 8210266876740 8210266876798) ()).1
        = some (.ok [sampleKey])
      ∧ (lateSource.keys minuteTransport (lateCall 8210266876740 8210266876799) ()).1
        = some (.error (.format (.lifetime 60))) := by
  have hstale : lateSource.snapshot.isStale (sampleInstant 8210266876739) = true := by decide
  have hall := fun arrived failed =>
    expiry_exact minuteTransport lateSource (lateCall arrived failed) ()
  have hfetch : ∀ arrived failed, (KeyDocument.fetch minuteTransport
      ((lateCall arrived failed).client.getD lateSource.client) lateSource.config ()).1
        = .ended (.ok minuteDocument) := fun _ _ => fetch_minute
  simp only [hfetch] at hall
  obtain ⟨hfits, -⟩ := hall 8210266876739 8210266876739 hstale rfl
  obtain ⟨expiry, hexpiry, -, hkeys, hsnapshot, -⟩ := hfits _ _ _ brings_minute (by decide +kernel)
  obtain rfl : sampleInstant 8210266876799 = expiry :=
    Option.some.inj (Eq.trans (by decide +kernel) (Instant.add?_eq_some_iff.mpr hexpiry))
  -- a second later the keys would expire after the last instant
  obtain ⟨-, hlate, -, hserves, -⟩ := hall 8210266876740 8210266876798 hstale rfl
  have herror := hlate _ _ _ brings_minute (by decide +kernel)
  have hmay : MayServe lateSource.snapshot lateSource.config.staleWhileError
      (sampleInstant 8210266876798) := mayOutlive_eq_true_iff_mayServe.mp (by decide +kernel)
  have hno : ¬ MayServe lateSource.snapshot lateSource.config.staleWhileError
      (sampleInstant 8210266876799) := mt mayOutlive_eq_true_iff_mayServe.mpr (by decide +kernel)
  obtain ⟨-, -, -, hfails, -⟩ := hall 8210266876740 8210266876799 hstale rfl
  exact ⟨hstale, hkeys, hsnapshot, ((hserves _ herror).2 rfl).1.mpr hmay,
    ((hfails _ herror).2 rfl).2 hno⟩

/-! ### In a leap second -/

/-- The source whose keys expire late, before it has any keys. -/
def freshSource : Source := { lateSource with snapshot := Snapshot.empty }

/-- A call that is over within a leap second. -/
def leapCall : Call := .at .midLeap none false

/-- **Keys that arrive in a leap second do not expire as many nanoseconds since the epoch later as
the headers say**: those that may be kept for a minute expire after 59 seconds of them, although a
minute would be in range. -/
theorem expiry_from_leap_second :
    freshSource.snapshot.isStale leapCall.begun = true
      ∧ Brings ((KeyDocument.fetch minuteTransport (leapCall.client.getD freshSource.client)
          freshSource.config ()).1.settle freshSource.config) [sampleKey] 60 (Duration.ofSeconds 1)
      ∧ leapCall.arrived.nanos + 60 * nanosPerSecond ≤ lastNanos
      ∧ (freshSource.keys minuteTransport leapCall ()).1 = some (.ok [sampleKey])
      ∧ (freshSource.keys minuteTransport leapCall ()).2.1.snapshot.expiresAt.nanos
        = leapCall.arrived.nanos + 59 * nanosPerSecond := by
  have hstale : freshSource.snapshot.isStale leapCall.begun = true := rfl
  have hfetch : (KeyDocument.fetch minuteTransport (leapCall.client.getD freshSource.client)
      freshSource.config ()).1 = .ended (.ok minuteDocument) := fetch_minute
  obtain ⟨r, hends, hanswer, hsource⟩ :=
    @exists_ends_of_keys freshSource Unit minuteTransport leapCall () hstale (by rw [hfetch]; rfl)
  rw [hfetch] at hends
  obtain ⟨hkeys, hsnapshot⟩ := hends.of_refreshed (brings_minute.refreshed_eq .midLeap)
  rw [hfetch, hanswer, hsource, hkeys, hsnapshot]
  exact ⟨hstale, brings_minute, by decide, rfl, by decide⟩

end Source

end Keyring
