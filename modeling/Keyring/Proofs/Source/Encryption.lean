import Mathlib.Tactic
import Keyring.Proofs.Http.Redirects
import Keyring.Proofs.Source.Provenance

/-!
What becomes of encryption where it is required.

The address of the configuration has to be that of encrypted transport. An answer may redirect the
request to another address, and nothing is required of that one.

* `exists_way_of_keys`: a call over a recorded transport comes to the same, and the keys that it
  installs came with the last answer.
* `encrypted_unless_led_away`: all requests are encrypted exactly if no answer redirects to an
  address without encryption.
* `downgrade_installs_keys`: an answer can do that, and the keys of the next one are installed.
-/

namespace Keyring.Source

open Http (Attempt Client EncryptedUnlessLedAway Exchange KeyDocument LeadsAway Response Transport
  recorded)

variable {σ : Type} {s : Source}

/-- **The keys after a call** are those from before, or there are none, or they are those of the
document in the last answer. -/
def BroughtBy (s : Source) (way : List Exchange) (after : Snapshot) : Prop :=
  after = s.snapshot ∨ after = Snapshot.empty
    ∨ ∃ earlier request r document, way = earlier ++ [(request, .response r)]
      ∧ KeyDocument.ofResponse s.config r = .ok document
      ∧ PublishedKey.ofDocument document.body = .ok after.keys
      ∧ ((∀ e ∈ way.dropLast, ¬ LeadsAway e) → request.url.isHttps = true)

lemma broughtBy_asking (s : Source) (way : List Exchange) : s.BroughtBy way s.asking.snapshot := by
  rw [asking_snapshot]
  split_ifs
  · exact .inr (.inl rfl)
  · exact .inl rfl

/-- A call that has fetched leaves keys which the last answer brought, if it installs any. -/
lemma Ends.broughtBy {call : Call} {attempt : Attempt (Except Error KeyDocument)}
    {r : Except Error (List PublishedKey) × Source} {way : List Exchange}
    (h : Ends s call (attempt.settle s.config) r) (hencrypted : EncryptedUnlessLedAway way)
    (hlast : ∀ document, attempt = .ended (.ok document) → ∃ earlier request answer,
      way = earlier ++ [(request, .response answer)]
        ∧ KeyDocument.ofResponse s.config answer = .ok document) :
    s.BroughtBy way r.2.snapshot := by
  cases h with
  | servedStale => exact broughtBy_asking s way
  | failed => exact .inr (.inl rfl)
  | @installed fresh took hr =>
      cases attempt with
      | waiting => simp [Attempt.settle, KeyDocument.timedOut, refreshed] at hr
      | ended fetched =>
          cases fetched with
          | error e => simp [Attempt.settle, refreshed] at hr
          | ok document =>
              obtain ⟨p, hp, heq⟩ := map_eq_ok_iff.mp hr
              obtain ⟨rfl, -⟩ := Prod.mk.inj heq
              obtain ⟨earlier, request, answer, rfl, hdoc⟩ := hlast document rfl
              refine .inr (.inr ⟨earlier, request, answer, document, rfl, hdoc,
                (snapshotOf_eq_ok hp).1, fun hkept => ?_⟩)
              exact hencrypted.all_iff.mpr hkept (request, .response answer)
                List.mem_concat_self

/-- **A call over a recorded transport** comes to the same. If encryption is required, the recorded
requests are encrypted unless an answer redirects to an address without it. Keys that are installed
came with the last answer. -/
theorem exists_way_of_keys (send : Transport σ) (call : Call) (net : σ)
    (h : s.config.requireHttps = true) :
    ∃ way, s.keys (recorded send) call (net, [])
        = ((s.keys send call net).1, (s.keys send call net).2.1, (s.keys send call net).2.2, way)
      ∧ EncryptedUnlessLedAway way
      ∧ s.BroughtBy way (s.keys send call net).2.1.snapshot := by
  cases hs : s.snapshot.isStale call.begun with
  | false =>
      -- nothing is sent, and the keys stay
      refine ⟨[], ?_, ⟨by simp, by simp⟩, .inl ?_⟩
      · rw [keys_of_not_isStale _ _ hs, keys_of_not_isStale _ _ hs]
      · rw [keys_of_not_isStale _ _ hs, observe_snapshot]
  | true =>
      obtain ⟨way, hway, hencrypted, hlast⟩ :=
        Http.exists_way_of_fetch send (call.client.getD s.client) net h
      refine ⟨way, ?_, hencrypted, ?_⟩
      · rw [keys_of_isStale _ _ hs, keys_of_isStale _ _ hs, hway]
        dsimp only
        split_ifs <;> rfl
      · rw [keys_of_isStale _ _ hs]
        dsimp only
        split_ifs
        -- a call that is cancelled has installed nothing
        · exact broughtBy_asking s way
        · exact (finish_ends s call _).broughtBy hencrypted hlast

/-- **Encryption that is required is kept unless an answer leads away from it.** Over any transport,
whatever it answers: the first request that fetching sends is encrypted, and all of them are exactly
if no answer that is followed redirects to an address without encryption. The same holds of a call
on a source. Keys that it installs came with the last answer, and the request for that one was
encrypted unless a redirect led away from encryption. -/
theorem encrypted_unless_led_away (h : s.config.requireHttps = true) :
    (∀ {σ : Type} (send : Transport σ) (client : Client) (net : σ),
      let fetched := KeyDocument.fetch send client s.config net
      ∃ way, KeyDocument.fetch (recorded send) client s.config (net, [])
          = (fetched.1, fetched.2, way)
        ∧ EncryptedUnlessLedAway way
        ∧ ∀ document, fetched.1 = .ended (.ok document) →
          ∃ earlier request r, way = earlier ++ [(request, .response r)]
            ∧ KeyDocument.ofResponse s.config r = .ok document)
    ∧ ∀ {σ : Type} (send : Transport σ) (call : Call) (net : σ),
      let r := s.keys send call net
      ∃ way, s.keys (recorded send) call (net, []) = (r.1, r.2.1, r.2.2, way)
        ∧ EncryptedUnlessLedAway way
        ∧ s.BroughtBy way r.2.1.snapshot :=
  ⟨fun send client net => Http.exists_way_of_fetch send client net h,
    fun send call net => exists_way_of_keys send call net h⟩

/-! ### Two redirects -/

/-- A transport over which one address answers with a redirect, and all others with keys. -/
def redirecting (location : String) : Transport Unit := fun _ request =>
  if request.url.render = "https://a/k" then
    (.response ⟨⟨302⟩, [⟨"location", location.toUTF8.toList⟩], none, ⟨[], false⟩,
      Duration.ofSeconds 1⟩, ())
  else (.response sampleResponse, ())

/-- A call at an instant. -/
def sampleCall : Call := .at (sampleInstant 0) none false

/-- The addresses at which a source that requires encryption asks if it is redirected, and its keys
afterwards. -/
def redirectedTo (location : String) : List String × List PublishedKey :=
  let r := sampleSource.keys (recorded (redirecting location)) sampleCall ((), [])
  (r.2.2.2.map fun e => e.1.url.render, r.2.1.snapshot.keys)

/-- Where a redirect leads to encryption, all requests have it. -/
theorem encrypted_unless_led_away_sample :
    sampleSource.config.requireHttps = true
      ∧ redirectedTo "/l" = (["https://a/k", "https://a/l"], [sampleKey])
      ∧ ∃ way, (sampleSource.keys (recorded (redirecting "/l")) sampleCall ((), [])).2.2.2 = way
        ∧ (∀ e ∈ way, e.1.url.isHttps = true) ∧ ∀ e ∈ way.dropLast, ¬ LeadsAway e := by
  obtain ⟨-, hkeys⟩ := encrypted_unless_led_away (s := sampleSource) rfl
  obtain ⟨way, hway, hencrypted, -⟩ := hkeys (redirecting "/l") sampleCall ()
  have hall : ∀ e ∈ (sampleSource.keys (recorded (redirecting "/l")) sampleCall ((), [])).2.2.2,
      e.1.url.isHttps = true := by decide +kernel
  rw [hway] at hall
  exact ⟨rfl, by decide +kernel, way, by rw [hway], hall, hencrypted.all_iff.mp hall⟩

/-- Where it leads away from encryption, the next request is sent without, and the keys in the
answer to it are installed. -/
theorem downgrade_installs_keys :
    ofConfig sampleSource.config Client.default = .ok sampleSource
      ∧ sampleSource.config.requireHttps = true
      ∧ redirectedTo "http://[::1]/k" = (["https://a/k", "http://[::1]/k"], [sampleKey]) := by
  refine ⟨?_, rfl, by decide +kernel⟩
  rw [ofConfig, show sampleSource.config.validate = .ok () from rfl]
  rfl

end Keyring.Source
