import Mathlib.Tactic
import Keyring.Proofs.Http.Body
import Keyring.Proofs.Source.History

/-!
Where the keys come from that a source hands out, and why they may be used.

* `Delivery`: an operation received keys in an answer and installed them until an instant.
* `Turn.Keeps`: an operation that neither drops nor replaces keys.
* `Provenance`: the keys at hand are those that were installed last.
* `Justified`: keys were received by the call itself, or found before their expiry, or served stale
  after a failed refresh within the window.
* `keys_justified`: keys that are handed out are justified, whatever the moves.
-/

namespace Keyring.Source

open Http (Client KeyDocument Response)

variable {s s₀ : Source}

/-! ### Answers that keys were taken from -/

/-- On a turn of a source keys came in an answer `r`: a success, whose body arrived as a whole and
is the document of these keys. They may be used until `expiry`, which is so long after the reading
of the clock as the headers of `r` say, and were installed so. -/
structure Delivery (s : Source) (t : Turn) (r : Response) (keys : List PublishedKey)
    (expiry : Instant) : Prop where
  operation : ∃ client, t.operation = .keys client
  received : .response r ∈ t.replies
  success : r.status.isSuccess = true
  whole : r.body.broken = false
  document : PublishedKey.ofDocument r.body.octets = .ok keys
  expires : ∃ lifetime now, r.headers.maxAge = .ok lifetime ∧ t.arrived = some now
    ∧ now.add? lifetime.toDelta = some expiry
  installs : t.yield s = .ok (⟨keys, expiry⟩, r.elapsed)

/-- Keys that a document yields are all of its keys, for as long as its headers say. -/
lemma snapshotOf_eq_ok {document : KeyDocument} {now : Instant} {p : Snapshot}
    (h : snapshotOf document now = .ok p) :
    PublishedKey.ofDocument document.body = .ok p.keys
      ∧ ∃ lifetime, document.headers.maxAge = .ok lifetime
        ∧ now.add? lifetime.toDelta = some p.expiresAt := by
  rw [snapshotOf] at h
  cases hk : PublishedKey.ofDocument document.body with
  | error e => simp [hk] at h
  | ok keys =>
      cases hm : document.headers.maxAge with
      | error e => simp [hk, hm] at h
      | ok lifetime =>
          cases ha : now.add? lifetime.toDelta with
          | none => simp [hk, hm, ha] at h
          | some expiry =>
              obtain rfl : (⟨keys, expiry⟩ : Snapshot) = p := by simpa [hk, hm, ha] using h
              exact ⟨rfl, lifetime, rfl, ha⟩

/-- **What a turn yields was delivered** in an answer that it received. -/
lemma exists_delivery {t : Turn} {p : Snapshot} {took : Duration}
    (ho : ∃ client, t.operation = .keys client) (ha : t.arrived.isSome = true)
    (h : t.yield s = .ok (p, took)) : ∃ r, Delivery s t r p.keys p.expiresAt := by
  obtain ⟨document, hcame, hsnap, rfl⟩ := Turn.yield_eq_ok h
  obtain ⟨r, hr, hdoc⟩ := Turn.exists_response_of_came hcame
  obtain ⟨hsuccess, -, -, hwhole, rfl⟩ := KeyDocument.ofResponse_eq_ok_iff.mp hdoc
  obtain ⟨hkeys, lifetime, hage, hadd⟩ := snapshotOf_eq_ok hsnap
  obtain ⟨now, hnow⟩ := Option.isSome_iff_exists.mp ha
  rw [Turn.call, hnow, Option.getD_some] at hadd
  exact ⟨r, ho, hr, hsuccess, hwhole, hkeys, ⟨lifetime, now, hage, hnow, hadd⟩, h⟩

/-! ### The keys at hand -/

/-- An operation that neither drops keys nor replaces them: a copy, or a call that fetched none. -/
def Turn.Keeps (s : Source) (t : Turn) : Prop :=
  t.operation ≠ .invalidate ∧ ∀ client, t.operation = .keys client → ∀ p, t.yield s ≠ .ok p

/-- After some operations a source has no keys, or those that one of them installed, and all later
ones kept. -/
def Provenance (s : Source) (holders : List Holder) (snapshot : Snapshot) : Prop :=
  snapshot.keys = [] ∨ ∃ before w between r, holders = before ++ w :: between
    ∧ Delivery s w.turn r snapshot.keys snapshot.expiresAt
    ∧ ∀ u ∈ between, u.turn.Keeps s

lemma Provenance.empty (holders : List Holder) : Provenance s holders Snapshot.empty := .inl rfl

lemma Provenance.keep {holders : List Holder} {snapshot : Snapshot} {v : Holder}
    (h : Provenance s holders snapshot) (hv : v.turn.Keeps s) :
    Provenance s (holders ++ [v]) snapshot := by
  rcases h with h | ⟨before, w, between, r, rfl, hd, hk⟩
  · exact .inl h
  · refine .inr ⟨before, w, between ++ [v], r, by simp, hd, fun u hu => ?_⟩
    rcases List.mem_append.mp hu with hu | hu
    · exact hk u hu
    · rwa [List.mem_singleton.mp hu]

/-- While keys are fetched they are kept, or there are none. -/
lemma Provenance.asking {holders : List Holder} {v : Holder} (h : Provenance s₀ holders s.snapshot)
    (hv : v.turn.Keeps s₀) : Provenance s₀ (holders ++ [v]) s.asking.snapshot := by
  rw [asking_snapshot]
  split_ifs
  · exact .empty _
  · exact h.keep hv

/-- **One operation more.** -/
lemma Provenance.run {holders : List Holder} {v : Holder} (h : Provenance s₀ holders s.snapshot)
    (hsame : s.config = s₀.config ∧ s.client = s₀.client) (hv : v.turn.Complete s) :
    Provenance s₀ (holders ++ [v]) (v.turn.run s).2.1.snapshot := by
  have hyield : v.turn.yield s = v.turn.yield s₀ := Turn.yield_congr hsame
  have hkeeps : v.turn.operation ≠ .invalidate → (∀ p, v.turn.yield s ≠ .ok p) →
      v.turn.Keeps s₀ := fun ho hy => ⟨ho, fun _ _ p => hyield ▸ hy p⟩
  have hcomes := v.turn.run_comes s
  generalize v.turn.run s = r at hcomes ⊢
  cases hcomes with
  | invalidated ho => exact .empty _
  | copied ho => exact h.keep ⟨by simp [ho], fun client hc => by simp [ho] at hc⟩
  | served ho hs =>
      have hnone : v.turn.replies = [] := by simpa [hs] using (hv _ ho).2
      exact h.keep (hkeeps (by simp [ho]) (Turn.yield_ne_ok hnone))
  | cancelled ho hs hw =>
      exact h.asking (hkeeps (by simp [ho]) (Turn.yield_ne_ok_of_isWaiting hw))
  | @ended client asked r s' ho hs hw he =>
      obtain ⟨-, hread⟩ := hv _ ho
      rw [if_pos hs, hw] at hread
      obtain ⟨harrived, -⟩ := hread.resolve_left Bool.false_ne_true
      cases he with
      | @installed fresh took hr =>
          obtain ⟨r, hd⟩ := exists_delivery (s := s₀) ⟨client, ho⟩ harrived (hyield.symm.trans hr)
          exact .inr ⟨holders, v, [], r, rfl, hd, by simp⟩
      | servedStale hr hpolicy hwindow =>
          have hnot : ∀ p, v.turn.yield s ≠ .ok p := fun p hp => by simp [hr, Turn.yield] at hp
          exact h.asking (hkeeps (by simp [ho]) hnot)
      | failed hr hno => exact .empty _

/-- **The keys at hand are those that were installed last**, as long as there are any. -/
theorem History.provenance {holders : List Holder} {asked : List Http.Request}
    (h : History s₀ holders s asked) (hout : holders.all Holder.hasReleased = true)
    (hs₀ : s₀.snapshot.keys = []) : Provenance s₀ holders s.snapshot := by
  induction h with
  | nil => exact .inl hs₀
  | @snoc past s s' asked v h hpast hv ih =>
      have hlast := List.all_eq_true.mp hout _ List.mem_concat_self
      obtain ⟨hrun, hcomplete⟩ := hv.run_eq (.inl hlast)
      have hp := (ih hpast).run (h.config_client_eq hpast) hcomplete
      rwa [hrun] at hp

/-! ### Keys that are handed out -/

/-- **Why keys are handed out** to an operation `v`, after those in `earlier` that had held the lock
before it. -/
inductive Justified (s : Source) (earlier : List Holder) (v : Holder) (keys : List PublishedKey) :
    Prop where
  /-- The operation received the keys in an answer. -/
  | received {r : Response} {expiry : Instant} (hd : Delivery s v.turn r keys expiry)
  /-- The keys were installed by an earlier operation and kept by all operations since. No request
  was sent, and the reading of the clock was before their expiry. -/
  | fresh {before between : List Holder} {w : Holder} {r : Response} {expiry now : Instant}
      (he : earlier = before ++ w :: between) (hd : Delivery s w.turn r keys expiry)
      (hkept : ∀ u ∈ between, u.turn.Keeps s) (hsent : v.requests = [])
      (hbegun : v.turn.begun = some now) (hnow : now < expiry)
  /-- The keys were installed by an earlier operation and kept by all operations since. The refresh
  failed, the policy is to serve stale keys, and the reading of the clock after the failure was
  before the end of the window that begins with their expiry. -/
  | servedStale {before between : List Holder} {w : Holder} {r : Response} {e : Error}
      {expiry now deadline : Instant}
      (he : earlier = before ++ w :: between) (hd : Delivery s w.turn r keys expiry)
      (hkept : ∀ u ∈ between, u.turn.Keeps s) (hpolicy : s.config.failurePolicy = .serveStale)
      (hfailure : v.turn.yield s = .error e) (hfailed : v.turn.failed = some now)
      (hwindow : expiry.add? s.config.staleWhileError.toDelta = some deadline)
      (hnow : now < deadline)

/-- Keys that an operation answers are justified by the history before it. -/
lemma History.justified {earlier : List Holder} {asked : List Http.Request} {v : Holder}
    {s' : Source} {keys : List PublishedKey} (h : History s₀ earlier s asked)
    (hout : earlier.all Holder.hasReleased = true) (hs₀ : s₀.snapshot.keys = [])
    (hv : v.Accords s s') (hk : v.answer? = some (.keys (.ok keys))) :
    Justified s₀ earlier v keys := by
  have hprov := h.provenance hout hs₀
  have hsame := h.config_client_eq hout
  have hyield : v.turn.yield s = v.turn.yield s₀ := Turn.yield_congr hsame
  obtain ⟨hrun, hcomplete⟩ := hv.run_eq (.inr (by rw [hk]; rfl))
  have hcomes := v.turn.run_comes s
  rw [hrun, hk] at hcomes
  generalize hq : v.requests = sent at hcomes
  cases hcomes with
  | served ho hs =>
      obtain ⟨hne, hlt⟩ := Snapshot.isStale_eq_false_iff.mp hs
      obtain ⟨now, hbegun⟩ := Option.isSome_iff_exists.mp (hcomplete _ ho).1
      rw [Turn.call, hbegun, Option.getD_some] at hlt
      obtain ⟨before, w, between, r, he, hd, hkept⟩ := hprov.resolve_left hne
      exact .fresh he hd hkept hq hbegun hlt
  | @ended client _ _ _ ho hs hw he =>
      obtain ⟨-, hread⟩ := hcomplete _ ho
      rw [if_pos hs, hw] at hread
      obtain ⟨harrived, hfailed⟩ := hread.resolve_left Bool.false_ne_true
      cases he with
      | installed hr =>
          obtain ⟨r, hd⟩ := exists_delivery (s := s₀) ⟨client, ho⟩ harrived (hyield.symm.trans hr)
          exact .received hd
      | servedStale hr hpolicy hwindow =>
          obtain ⟨hne, deadline, hadd, hlt⟩ := Snapshot.mayOutlive_eq_true_iff.mp hwindow
          obtain ⟨now, hnow⟩ := Option.isSome_iff_exists.mp hfailed
          rw [Turn.call, hnow, Option.getD_some] at hlt
          obtain ⟨before, w, between, r, he, hd, hkept⟩ := hprov.resolve_left hne
          rw [hsame.1] at hpolicy hadd
          exact .servedStale he hd hkept hpolicy (hyield.symm.trans hr) hnow hadd hlt

/-- **Keys that are handed out are justified.** Whatever happens to a source after it has been set
up: a call that answers with keys received them in one answer; or they are those that were installed
last, and its reading was before their expiry; or its refresh failed, and its reading was before the
end of the window after their expiry. -/
theorem keys_justified {config : Config} {client : Client} {now : Instant} {moves : List Move}
    {earlier later : List Holder} {v : Holder} {keys : List PublishedKey}
    (hs : ofConfig config client = .ok s)
    (hv : (Shared.run s now moves).holders = earlier ++ v :: later)
    (hk : v.answer? = some (.keys (.ok keys))) : Justified s earlier v keys := by
  obtain ⟨s₁, s₂, asked, h, hout, hacc⟩ := (run_history s now moves).split hv
  exact h.justified hout (by rw [ofConfig_snapshot hs]; rfl) hacc hk

/-! ### A source that hands out keys twice -/

/-- The keys of an answer, if it has any. -/
def Answer.keys? : Answer → Option (List PublishedKey)
  | .keys (.ok found) => some found
  | _ => none

lemma Answer.keys?_eq_some {a : Answer} {keys : List PublishedKey} :
    a.keys? = some keys ↔ a = .keys (.ok keys) := by
  cases a with
  | keys result => cases result <;> simp [Answer.keys?]
  | done => simp [Answer.keys?]
  | snapshot p => simp [Answer.keys?]

lemma Holder.answer?_eq_of_keys? {v : Holder} {keys : List PublishedKey}
    (h : v.answer?.bind Answer.keys? = some keys) : v.answer? = some (.keys (.ok keys)) := by
  obtain ⟨answer, hanswer, hkeys⟩ := Option.bind_eq_some_iff.mp h
  rwa [Answer.keys?_eq_some.mp hkeys] at hanswer

/-- A document with the certificate of one small key. -/
def sampleDocument : String :=
  "\x7b\"k\":\"-----BEGIN A-----\\n"
    ++ "MFIwSAIBATADBgEqMAAwHhcNMjAwMTAxMDAwMDAwWhcNMjAwMTAxMDAwMDAwWjAA"
    ++ "MBowDQYJKoZIhvcNAQEBBQADCQAwBgIBDwIBAzADBgEqAwEA\\n-----END A-----\"\x7d"

/-- The key of this certificate. -/
def sampleKey : PublishedKey := ⟨"k", ⟨15, 3⟩⟩

/-- An answer with this document that may be kept for a minute. -/
def sampleResponse : Response where
  status := ⟨200⟩
  headers := [⟨"cache-control", "max-age=60".toUTF8.toList⟩]
  announced := none
  body := ⟨[sampleDocument.toUTF8.toList], false⟩
  elapsed := Duration.ofSeconds 1

/-- Two calls for keys are queued, and the clock moves on. The first one gets a reply and releases
the lock. -/
def sampleMoves : List Move := [
  .enqueue (.keys none), .enqueue (.keys none), .acquire, .proceed 0, .proceed 0,
  .tick (sampleInstant 5), .reply 0 (.response sampleResponse), .proceed 0, .proceed 0, .proceed 0,
  .tick (sampleInstant 64), .acquire, .proceed 1]

/-- The second call gets the same keys without a request, in the last second before their expiry. -/
theorem keys_justified_sample :
    ∃ v₀ v, ofConfig sampleSource.config sampleSource.client = .ok sampleSource
      ∧ (Shared.run sampleSource (sampleInstant 0) sampleMoves).holders = [v₀] ++ v :: []
      ∧ v.answer? = some (.keys (.ok [sampleKey]))
      ∧ v.requests = []
      ∧ Justified sampleSource [v₀] v [sampleKey] := by
  have hs : ofConfig sampleSource.config sampleSource.client = .ok sampleSource := by
    rw [ofConfig, show sampleSource.config.validate = .ok () from rfl]
    rfl
  have hrun : (Shared.run sampleSource (sampleInstant 0) sampleMoves).holders.map
      (fun v => (v.answer?.bind Answer.keys?, v.requests.length))
        = [(some [sampleKey], 1), (some [sampleKey], 0)] := by decide +kernel
  obtain ⟨v₀, rest, hholders, -, hrest⟩ := List.map_eq_cons_iff.mp hrun
  obtain ⟨v, none, rfl, hv, hnone⟩ := List.map_eq_cons_iff.mp hrest
  obtain rfl := List.map_eq_nil_iff.mp hnone
  obtain ⟨hk, hlength⟩ := Prod.mk.inj hv
  obtain ⟨answer, hanswer, hkeys⟩ := Option.bind_eq_some_iff.mp hk
  rw [Answer.keys?_eq_some.mp hkeys] at hanswer
  exact ⟨v₀, v, hs, hholders, hanswer, List.length_eq_zero_iff.mp hlength,
    keys_justified hs hholders hanswer⟩

end Keyring.Source
