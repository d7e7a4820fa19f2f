import Mathlib.Tactic
import Keyring.Proofs.Http.MaxAge
import Keyring.Proofs.PublishedKey.Entries
import Keyring.Proofs.Source.Atomicity

/-!
The stages of a refresh, and which of them decides what it comes to.

* `Stage`: the stages in their order.
* `Turn.Fails`: what can fail at a stage, and the error that tells it. An answer may fail at several
  stages.
* `Turn.FailsFirst`: a stage is the first one to fail.
* `Turn.FailsFirst.yield_eq`, `Turn.exists_fresh`: the first stage to fail decides; if none fails,
  the keys of the document are installed until the end of their lifetime.
* `Error.IsForeign`: the errors that have nothing to do with refreshing.
* `refresh_decided_by_first_failure`: this is what a call comes to that finds the keys stale.
-/

namespace Keyring

open Http (Client Fetching KeyDocument Response)

/-! ### Errors that are none of a refresh -/

/-- An error that has nothing to do with refreshing. -/
def Error.IsForeign : Error → Prop
  | .security _ => True
  | .signature _ => True
  | .unknownKeyId _ => True
  | .url _ => True
  | .metrics _ => True
  | _ => False

namespace Source

/-- **The stages of a refresh**, in their order. -/
inductive Stage where
  /-- An answer is got, maybe after redirects. -/
  | exchange
  /-- The status of the answer is a success. -/
  | status
  /-- The answer announces no more octets than allowed. -/
  | announced
  /-- The body has no more octets than allowed. -/
  | received
  /-- The body has arrived to its end. -/
  | whole
  /-- The body is an object of texts. -/
  | json
  /-- The texts are armoured certificates with keys. -/
  | keys
  /-- The headers say how long the keys may be kept. -/
  | directive
  /-- The directive that says so has a number. -/
  | lifetime
  /-- There is an instant so many seconds after the keys have arrived. -/
  | expiry
  deriving Repr, DecidableEq

namespace Stage

/-- A stage comes before another one. -/
instance : LT Stage := ⟨fun a b => a.ctorIdx < b.ctorIdx⟩

instance (a b : Stage) : Decidable (a < b) := Nat.decLt _ _

end Stage

namespace Turn

variable {t : Turn} {s : Source} {stage : Stage} {e : Error} {r : Response}

/-- **What can fail at a stage** on a turn, and the error that tells it. Whether an earlier stage
has failed does not matter, as long as there is something to look at. -/
inductive Fails (t : Turn) (s : Source) : Stage → Error → Prop where
  /-- The request could not be sent, was not answered, or was redirected too often. -/
  | exchange {f : TransportFault} (h : t.followed s = .ended (.error f)) :
      Fails t s .exchange (.transport f)
  /-- No answer came in time. -/
  | timeout (h : t.followed s = .waiting) :
      Fails t s .exchange (.transport (.unanswered (Http.destination s.config.keyUrl)))
  /-- The answer has another status. -/
  | status {r : Response} (h : t.followed s = .ended (.ok r)) (hs : r.status.isSuccess = false) :
      Fails t s .status (.status r.status s.config.keyUrl r.body.excerpt?)
  /-- More octets are announced than allowed. -/
  | announced {r : Response} {length : ℕ} (h : t.followed s = .ended (.ok r))
      (ha : r.announced = some length) (hl : s.config.maxResponseBytes.toNat < length) :
      Fails t s .announced (.config (.oversized s.config.maxResponseBytes))
  /-- More octets came. -/
  | received {r : Response} (h : t.followed s = .ended (.ok r))
      (hl : s.config.maxResponseBytes.toNat < r.body.octets.length) :
      Fails t s .received (.config (.oversized s.config.maxResponseBytes))
  /-- The body breaks off. -/
  | whole {r : Response} (h : t.followed s = .ended (.ok r)) (hb : r.body.broken = true) :
      Fails t s .whole (.transport .brokenBody)
  /-- The body is no object of texts. -/
  | json {r : Response} {f : Json.Failure} (h : t.followed s = .ended (.ok r))
      (hf : Json.readDocument Json.readTextMap r.body.octets = .error f) : Fails t s .json (.json f)
  /-- An id has no key, and it is the least such id in the order of the octets. -/
  | keys {r : Response} {members : List (String × String)} {kid value : String} {e : Error}
      (h : t.followed s = .ended (.ok r))
      (hm : Json.readDocument Json.readTextMap r.body.octets = .ok members)
      (hv : PublishedKey.lastValue? members kid = some value)
      (he : PublishedKey.ofPem kid (Utf8.encode value.toList) = .error e)
      (hleast : ∀ kid' value', PublishedKey.lastValue? members kid' = some value' →
        Utf8.encode kid'.toList < Utf8.encode kid.toList → PublishedKey.Decodes kid' value') :
      Fails t s .keys e
  /-- No directive says how long the keys may be kept. -/
  | directive {r : Response} (h : t.followed s = .ended (.ok r)) (hn : r.headers.Undecided) :
      Fails t s .directive (.config .noMaxAge)
  /-- The directive that decides has no number. -/
  | lifetime {r : Response} {d : List Char} {f : Decimal.NaturalFault}
      (h : t.followed s = .ended (.ok r)) (hd : r.headers.Decides d)
      (hf : Decimal.parse64 (d.drop Http.Headers.maxAgeMark.length) = .error f) :
      Fails t s .lifetime (.format (.maxAge (String.ofList d) f))
  /-- So many seconds after the keys have arrived there is no instant. -/
  | expiry {r : Response} {d : List Char} {n : ℕ} (h : t.followed s = .ended (.ok r))
      (hd : r.headers.Decides d)
      (hn : Decimal.parse64 (d.drop Http.Headers.maxAgeMark.length) = .ok n)
      (hl : ¬ t.call.arrived.InRange ⟨n * nanosPerSecond⟩) :
      Fails t s .expiry (.format (.lifetime (UInt64.ofNat n)))

/-- No stage fails that comes before this one. -/
def PassesBefore (t : Turn) (s : Source) (stage : Stage) : Prop :=
  ∀ earlier < stage, ∀ e, ¬ t.Fails s earlier e

/-- **A stage is the first one to fail.** -/
def FailsFirst (t : Turn) (s : Source) (stage : Stage) (e : Error) : Prop :=
  t.Fails s stage e ∧ t.PassesBefore s stage

/-- If a stage fails, there is one that is the first to fail. -/
lemma exists_failsFirst (h : t.Fails s stage e) : ∃ first e', t.FailsFirst s first e' := by
  obtain ⟨first, ⟨e', hfirst⟩, hleast⟩ :=
    (measure Stage.ctorIdx).wf.has_min {stage | ∃ e, t.Fails s stage e} ⟨stage, e, h⟩
  exact ⟨first, e', hfirst, fun earlier hlt e'' he => hleast earlier ⟨e'', he⟩ hlt⟩

/-! ### What the stages let pass -/

namespace PassesBefore

/-- What passes all stages before one passes those before an earlier one. -/
lemma of_le {later : Stage} (h : t.PassesBefore s later) (hle : ¬ later < stage) :
    t.PassesBefore s stage :=
  fun earlier hlt => h earlier (Nat.lt_of_lt_of_le hlt (Nat.not_lt.mp hle))

lemma isSuccess (hp : t.PassesBefore s .announced) (h : t.followed s = .ended (.ok r)) :
    r.status.isSuccess = true := by
  by_contra hno
  exact hp .status (by decide) _ (.status h (by simpa using hno))

lemma announced_le (hp : t.PassesBefore s .received) (h : t.followed s = .ended (.ok r))
    {length : ℕ} (hlength : r.announced = some length) :
    length ≤ s.config.maxResponseBytes.toNat :=
  not_lt.mp fun hl => hp .announced (by decide) _ (.announced h hlength hl)

lemma received_le (hp : t.PassesBefore s .whole) (h : t.followed s = .ended (.ok r)) :
    r.body.octets.length ≤ s.config.maxResponseBytes.toNat :=
  not_lt.mp fun hl => hp .received (by decide) _ (.received h hl)

/-- An answer that passes the stages before its body is read makes a document. -/
lemma came_eq (hp : t.PassesBefore s .json) (hallowed : Fetching.allowed s.config = .ok ())
    (h : t.followed s = .ended (.ok r)) :
    t.came s = .ok ⟨r.headers, r.body.octets, r.elapsed⟩ := by
  rw [Answered.came_eq ⟨hallowed, h⟩, KeyDocument.ofResponse_eq_ok_iff]
  refine ⟨(hp.of_le (by decide)).isSuccess h, fun _ => (hp.of_le (by decide)).announced_le h,
    (hp.of_le (by decide)).received_le h, ?_, rfl⟩
  by_contra hno
  exact hp .whole (by decide) _ (.whole h (by simpa using hno))

/-- A document that passes the stages before its headers are read has keys. -/
lemma exists_keys (hp : t.PassesBefore s .directive) (h : t.followed s = .ended (.ok r)) :
    ∃ keys, PublishedKey.ofDocument r.body.octets = .ok keys := by
  rw [PublishedKey.ofDocument]
  cases hm : Json.readDocument Json.readTextMap r.body.octets with
  | error f => exact absurd (.json h hm) (hp .json (by decide) _)
  | ok members =>
      cases hk : PublishedKey.ofEntries (PublishedKey.entries members) with
      | ok keys => exact ⟨keys, hk⟩
      | error e =>
          obtain ⟨kid, value, hv, he, hleast⟩ :=
            PublishedKey.ofEntries_entries_eq_error_iff.mp hk
          exact absurd (.keys h hm hv he hleast) (hp .keys (by decide) _)

/-- Headers that pass the stages before the last one tell a lifetime. -/
lemma exists_lifetime (hp : t.PassesBefore s .expiry) (h : t.followed s = .ended (.ok r)) :
    ∃ d n, r.headers.Decides d
      ∧ Decimal.parse64 (d.drop Http.Headers.maxAgeMark.length) = .ok n := by
  cases hm : r.headers.maxAge with
  | ok lifetime =>
      obtain ⟨d, n, hd, hn, -⟩ := Http.Headers.maxAge_eq_ok_iff.mp hm
      exact ⟨d, n, hd, hn⟩
  | error e =>
      rcases Http.Headers.maxAge_eq_error_iff.mp hm with ⟨hno, -⟩ | ⟨d, f, hd, hf, -⟩
      · exact absurd (.directive h hno) (hp .directive (by decide) _)
      · exact absurd (.lifetime h hd hf) (hp .lifetime (by decide) _)

end PassesBefore

/-! ### What decides -/

/-- **The first stage to fail decides** what a turn yields. -/
theorem FailsFirst.yield_eq (h : t.FailsFirst s stage e)
    (hallowed : Fetching.allowed s.config = .ok ()) : t.yield s = .error e := by
  obtain ⟨hfails, hp⟩ := h
  rw [← refreshError_iff]
  cases hfails with
  | exchange hr => exact .transport hallowed hr
  | timeout hr => exact .timeout hallowed hr
  | status hr hs => exact KeyDocument.refusal_eq s.config _ ▸ .status ⟨hallowed, hr⟩ hs
  | announced hr ha hl => exact .announced ⟨hallowed, hr⟩ (hp.isSuccess hr) ha hl
  | received hr hl =>
      exact .oversized ⟨hallowed, hr⟩ ((hp.of_le (by decide)).isSuccess hr) hl
  | whole hr hb =>
      exact .broken ⟨hallowed, hr⟩ ((hp.of_le (by decide)).isSuccess hr)
        (fun _ => (hp.of_le (by decide)).announced_le hr) (hp.received_le hr) hb
  | json hr hf => exact .json (hp.came_eq hallowed hr) hf
  | keys hr hm hv he hleast =>
      exact .key ((hp.of_le (by decide)).came_eq hallowed hr) hm
        (PublishedKey.ofEntries_entries_eq_error_iff.mpr ⟨_, _, hv, he, hleast⟩)
  | directive hr hn =>
      obtain ⟨keys, hk⟩ := hp.exists_keys hr
      exact .maxAge ((hp.of_le (by decide)).came_eq hallowed hr) hk
        (Http.Headers.maxAge_eq_error_iff.mpr (.inl ⟨hn, rfl⟩))
  | lifetime hr hd hf =>
      obtain ⟨keys, hk⟩ := (hp.of_le (by decide)).exists_keys hr
      exact .maxAge ((hp.of_le (by decide)).came_eq hallowed hr) hk
        (Http.Headers.maxAge_eq_error_iff.mpr (.inr ⟨_, _, hd, hf, rfl⟩))
  | expiry hr hd hn hl =>
      obtain ⟨keys, hk⟩ := (hp.of_le (by decide)).exists_keys hr
      exact .expiry ((hp.of_le (by decide)).came_eq hallowed hr) hk
        (Http.Headers.maxAge_eq_ok_iff.mpr ⟨_, _, hd, hn, rfl⟩)
        ((add?_seconds_eq_none_iff (Decimal.parse64_lt hn)).mpr hl)

/-- **If no stage fails**, a turn yields the keys of the document that came, until so long after it
came as its headers say. -/
theorem exists_fresh (hallowed : Fetching.allowed s.config = .ok ())
    (hp : ∀ stage e, ¬ t.Fails s stage e) :
    ∃ r keys d n expiry, t.followed s = .ended (.ok r)
      ∧ PublishedKey.ofDocument r.body.octets = .ok keys ∧ r.headers.Decides d
      ∧ Decimal.parse64 (d.drop Http.Headers.maxAgeMark.length) = .ok n
      ∧ t.call.arrived.Reaches ⟨n * nanosPerSecond⟩ expiry
      ∧ t.yield s = .ok (⟨keys, expiry⟩, r.elapsed) := by
  have hbefore : ∀ stage, t.PassesBefore s stage := fun _ earlier _ => hp earlier
  cases hr : t.followed s with
  | waiting => exact absurd (.timeout hr) (hp _ _)
  | ended result =>
      cases result with
      | error f => exact absurd (.exchange hr) (hp _ _)
      | ok r =>
          obtain ⟨keys, hk⟩ := (hbefore _).exists_keys hr
          obtain ⟨d, n, hd, hn⟩ := (hbefore _).exists_lifetime hr
          have hlt := Decimal.parse64_lt hn
          cases ha : t.call.arrived.add? (Duration.ofSeconds (UInt64.ofNat n)).toDelta with
          | none =>
              exact absurd (.expiry hr hd hn ((add?_seconds_eq_none_iff hlt).mp ha)) (hp _ _)
          | some expiry =>
              refine ⟨r, keys, d, n, expiry, rfl, hk, hd, hn,
                (add?_seconds_eq_some_iff hlt).mp ha, ?_⟩
              rw [yield, (hbefore _).came_eq hallowed hr]
              simp only [refreshed, snapshotOf, hk,
                Http.Headers.maxAge_eq_ok_iff.mpr ⟨d, n, hd, hn, rfl⟩, ha, Except.map]

/-- What fails at a stage has to do with refreshing. -/
lemma Fails.not_isForeign (h : t.Fails s stage e) : ¬ e.IsForeign := by
  cases h with
  | keys hr hm hv he hleast =>
      rcases PublishedKey.ofPem_error he with ⟨f, rfl⟩ | ⟨f, rfl⟩ | ⟨f, rfl⟩
      all_goals exact id
  | _ => exact id

/-- The error of a failed refresh has to do with refreshing. -/
lemma not_isForeign_of_yield (hallowed : Fetching.allowed s.config = .ok ())
    (h : t.yield s = .error e) : ¬ e.IsForeign := by
  by_cases hfails : ∃ stage e, t.Fails s stage e
  · obtain ⟨stage, e', hf⟩ := hfails
    obtain ⟨first, e₁, hfirst⟩ := exists_failsFirst hf
    obtain rfl : e₁ = e := Except.error.inj ((hfirst.yield_eq hallowed).symm.trans h)
    exact hfirst.1.not_isForeign
  · push Not at hfails
    obtain ⟨r, keys, d, n, expiry, -, -, -, -, -, hy⟩ := exists_fresh hallowed hfails
    rw [hy] at h
    cases h

/-- A call that finds the keys stale and fails to fetch others is served with the stale keys as long
as they may be used, and fails with the error of the refresh otherwise. -/
lemma run_of_error {client : Option Client} (ho : t.operation = .keys client)
    (hs : s.snapshot.isStale t.call.begun = true) (huncancelled : t.cancelled = false)
    (h : t.yield s = .error e) :
    if s.config.failurePolicy = .serveStale
        ∧ s.snapshot.mayOutlive s.config.staleWhileError t.call.failed = true then
      (t.run s).1 = some (.keys (.ok s.snapshot.keys)) ∧ (t.run s).2.1.snapshot = s.snapshot
    else (t.run s).1 = some (.keys (.error e)) ∧ (t.run s).2.1.snapshot = Snapshot.empty := by
  rw [run_of_uncancelled ho hs huncancelled]
  have hends := finish_ends s t.call (t.came s)
  generalize s.asking.finish s.kept? t.call (t.came s) = r at hends
  cases hends with
  | installed hr => rw [yield, hr] at h; cases h
  | servedStale hr hpolicy hwindow =>
      rw [if_pos ⟨hpolicy, hwindow⟩]
      refine ⟨rfl, ?_⟩
      rw [observe_snapshot, observe_snapshot, asking_snapshot, if_neg (by simp [hpolicy])]
  | @failed e' hr hno =>
      rw [if_neg hno]
      rw [yield, hr] at h
      exact ⟨by rw [Except.error.inj h], rfl⟩

/-- A call that finds the keys stale and fetches others installs them and answers with them. -/
lemma run_of_ok {client : Option Client} {p : Snapshot} {took : Duration}
    (ho : t.operation = .keys client) (hs : s.snapshot.isStale t.call.begun = true)
    (huncancelled : t.cancelled = false) (h : t.yield s = .ok (p, took)) :
    (t.run s).1 = some (.keys (.ok p.keys)) ∧ (t.run s).2.1.snapshot = p := by
  rw [run_of_uncancelled ho hs huncancelled]
  have hends := finish_ends s t.call (t.came s)
  generalize s.asking.finish s.kept? t.call (t.came s) = r at hends
  cases hends with
  | installed hr =>
      rw [yield, hr] at h
      cases h
      exact ⟨rfl, rfl⟩
  | servedStale hr => rw [yield, hr] at h; cases h
  | failed hr => rw [yield, hr] at h; cases h

end Turn

/-! ### Sources that were set up -/

/-- A source that was set up may send requests to its address. -/
lemma allowed_of_ofConfig {config : Config} {client : Client} {s : Source}
    (h : ofConfig config client = .ok s) : Fetching.allowed config = .ok () := by
  rw [ofConfig] at h
  cases hv : config.validate with
  | error e => simp [hv] at h
  | ok u =>
      rw [Config.validate] at hv
      cases hf : config.fault? with
      | some f => simp [hf] at hv
      | none =>
          rw [Config.fault?] at hf
          split_ifs at hf with hsecure
          rw [Fetching.allowed, Url.enforceHttps]
          cases hr : config.requireHttps with
          | false => rfl
          | true =>
              have hhttps : config.keyUrl.isHttps = true := by simpa [hr] using hsecure
              simp [hhttps]

/-- **The first stage to fail decides what a refresh comes to**, and if none fails exactly the keys
of the document are installed. A source was set up, and after any run its lock is free; then a call
finds the keys stale and is not cancelled. If a stage is the first to fail, the call fails with its
error and no keys are left, unless stale keys are served and the window for them is still open. If
no stage fails, the call answers with all keys of the document, and they may be used for so long
after the reading of the clock as the headers say. Exactly one of the two is the case. What fails
for an id is its armour, its encoding or the type of its key. No call on such a source ever fails
with an error that has nothing to do with refreshing. -/
theorem refresh_decided_by_first_failure {config : Config} {client : Client}
    {override : Option Client} {now : Instant} {moves : List Move} {s : Source} {t : Turn}
    (hs : ofConfig config client = .ok s) (hfree : (Shared.run s now moves).isFree = true)
    (ho : t.operation = .keys override) (huncancelled : t.cancelled = false)
    (hstale : (Shared.run s now moves).source.snapshot.isStale t.call.begun = true) :
    let src := (Shared.run s now moves).source
    let r := t.run src
    (∀ stage e, t.FailsFirst src stage e → t.yield src = .error e ∧
        if config.failurePolicy = .serveStale
            ∧ src.snapshot.mayOutlive config.staleWhileError t.call.failed = true then
          r.1 = some (.keys (.ok src.snapshot.keys)) ∧ r.2.1.snapshot = src.snapshot
        else r.1 = some (.keys (.error e)) ∧ r.2.1.snapshot = Snapshot.empty)
      ∧ ((∀ stage e, ¬ t.Fails src stage e) → ∃ response keys d n expiry,
        t.followed src = .ended (.ok response)
          ∧ PublishedKey.ofDocument response.body.octets = .ok keys
          ∧ response.headers.Decides d
          ∧ Decimal.parse64 (d.drop Http.Headers.maxAgeMark.length) = .ok n
          ∧ t.call.arrived.Reaches ⟨n * nanosPerSecond⟩ expiry
          ∧ r.1 = some (.keys (.ok keys)) ∧ r.2.1.snapshot = ⟨keys, expiry⟩)
      ∧ ((∃ stage e, t.FailsFirst src stage e) ∨ ∀ stage e, ¬ t.Fails src stage e)
      ∧ (∀ e, t.Fails src .keys e →
        (∃ f, e = .pem f) ∨ (∃ f, e = .format f) ∨ ∃ f, e = .keyType f)
      ∧ ∀ moves, ∀ v ∈ (Shared.run s now moves).holders, ∀ e,
        v.answer? = some (.keys (.error e)) → ¬ e.IsForeign := by
  intro src r
  have hallowed := allowed_of_ofConfig hs
  have hconfig : src.config = config := by
    rw [((run_history s now moves).config_client_eq hfree).1, ofConfig_config hs]
  have hsrc : Fetching.allowed src.config = .ok () := by rw [hconfig]; exact hallowed
  refine ⟨fun stage e h => ?_, fun h => ?_, ?_, fun e h => ?_, fun moves v hv e he => ?_⟩
  -- a stage is the first to fail
  · have hy := h.yield_eq hsrc
    have hrun := Turn.run_of_error ho hstale huncancelled hy
    rw [hconfig] at hrun
    exact ⟨hy, hrun⟩
  -- no stage fails
  · obtain ⟨response, keys, d, n, expiry, hr, hk, hd, hn, hexpiry, hy⟩ :=
      Turn.exists_fresh hsrc h
    obtain ⟨hanswer, hsnapshot⟩ := Turn.run_of_ok ho hstale huncancelled hy
    exact ⟨response, keys, d, n, expiry, hr, hk, hd, hn, hexpiry, hanswer, hsnapshot⟩
  · by_cases hfails : ∃ stage e, t.Fails src stage e
    · obtain ⟨stage, e, hf⟩ := hfails
      exact .inl (Turn.exists_failsFirst hf)
    · push Not at hfails
      exact .inr hfails
  · cases h with
    | keys hr hm hv he hleast => exact PublishedKey.ofPem_error he
  -- a call that fails after any run has ended without keys, on a source that the run has led to
  · obtain ⟨earlier, later, hholders⟩ := List.append_of_mem hv
    obtain ⟨s₁, s₂, asked, hhistory, hout, hacc⟩ := (run_history s now moves).split hholders
    have hs₁ : Fetching.allowed s₁.config = .ok () := by
      rw [(hhistory.config_client_eq hout).1, ofConfig_config hs]
      exact hallowed
    have hcomes := v.turn.run_comes s₁
    rw [(hacc.run_eq (.inr (by rw [he]; rfl))).1, he] at hcomes
    generalize v.requests = sent at hcomes
    cases hcomes with
    | ended _ _ _ hends =>
        cases hends with
        | failed hr => exact Turn.not_isForeign_of_yield hs₁ hr

/-! ### An answer with two faults -/

/-- An answer whose body is no object, and whose headers do not say how long it may be kept. -/
def faultyResponse : Response where
  status := ⟨200⟩
  headers := []
  announced := none
  body := ⟨["[]".toUTF8.toList], false⟩
  elapsed := Duration.ofSeconds 1

/-- A call for keys whose request gets this answer. -/
def faultyTurn : Turn where
  operation := .keys none
  begun := some (sampleInstant 70)
  replies := [.response faultyResponse]
  arrived := some (sampleInstant 70)
  failed := some (sampleInstant 70)
  cancelled := false

/-- The fault of the body decides, and the keys from before are dropped. -/
theorem refresh_decided_by_first_failure_sample :
    let src := (Shared.run sampleSource (sampleInstant 0) firstMoves).source
    ∃ f, ofConfig sampleSource.config sampleSource.client = .ok sampleSource
      ∧ (Shared.run sampleSource (sampleInstant 0) firstMoves).isFree = true
      ∧ src.snapshot = ⟨[sampleKey], sampleInstant 65⟩
      ∧ src.snapshot.isStale faultyTurn.call.begun = true
      ∧ faultyTurn.FailsFirst src .json (.json f)
      ∧ faultyTurn.Fails src .directive (.config .noMaxAge)
      ∧ (faultyTurn.run src).1 = some (.keys (.error (.json f)))
      ∧ (faultyTurn.run src).2.1.snapshot = Snapshot.empty := by
  intro src
  have hs : ofConfig sampleSource.config sampleSource.client = .ok sampleSource := by
    rw [ofConfig, show sampleSource.config.validate = .ok () from rfl]
    rfl
  have hfree : (Shared.run sampleSource (sampleInstant 0) firstMoves).isFree = true := by
    decide +kernel
  have hsnapshot : src.snapshot = ⟨[sampleKey], sampleInstant 65⟩ := by decide +kernel
  have hstale : src.snapshot.isStale faultyTurn.call.begun = true := by
    rw [hsnapshot]
    decide
  obtain ⟨hconfig, hclient⟩ := (run_history sampleSource _ firstMoves).config_client_eq hfree
  -- the request is answered at once, as the answer does not redirect
  have hfollowed : faultyTurn.followed src = .ended (.ok faultyResponse) := by
    have hnamed : Http.isRequestable (Http.destination sampleSource.config.keyUrl) = true := by
      decide +kernel
    rw [Turn.followed, hconfig, hclient, Http.follow_requestable _ _ _ _ hnamed]
    rfl
  have honly : ∀ {r : Response}, faultyTurn.followed src = .ended (.ok r) → r = faultyResponse := by
    intro r h
    simpa [hfollowed] using h.symm
  obtain ⟨f, hf⟩ : ∃ f, Json.readDocument Json.readTextMap faultyResponse.body.octets
      = .error f := by
    cases h : Json.readDocument Json.readTextMap faultyResponse.body.octets with
    | error f => exact ⟨f, rfl⟩
    | ok members =>
        have hno :
            (Json.readDocument Json.readTextMap faultyResponse.body.octets).isOk = false := by
          decide +kernel
        rw [h] at hno
        cases hno
  -- the answer passes every stage before its body is read
  have hfirst : faultyTurn.FailsFirst src .json (.json f) := by
    refine ⟨.json hfollowed hf, fun earlier hlt e h => ?_⟩
    cases h with
    | exchange h => simp [hfollowed] at h
    | timeout h => simp [hfollowed] at h
    | status h hs => obtain rfl := honly h; cases hs
    | announced h ha => obtain rfl := honly h; cases ha
    | received h hl =>
        obtain rfl := honly h
        rw [hconfig] at hl
        exact absurd hl (by decide +kernel)
    | whole h hb => obtain rfl := honly h; cases hb
    | _ => exact absurd hlt (by decide)
  obtain ⟨hfails, -⟩ := refresh_decided_by_first_failure hs hfree rfl rfl hstale
  obtain ⟨-, hrun⟩ := hfails _ _ hfirst
  rw [if_neg (by simp [sampleSource, Config.forUrl])] at hrun
  have hundecided : faultyResponse.headers.Undecided :=
    Http.Headers.find?_eq_none_iff.mp (by decide +kernel)
  exact ⟨f, hs, hfree, hsnapshot, hstale, hfirst, .directive hfollowed hundecided, hrun⟩

end Source

end Keyring
