import Mathlib.Tactic
import Keyring.Proofs.Http.Fetching

/-!
The way that redirects lead.

* `recorded`: a transport that also keeps every request with what became of it.
* `Way`: requests along redirects; each goes where the answer before it says.
* `exists_way_of_follow`, `exists_way_of_fetch`: fetching over a recorded transport comes to the
  same, and what was recorded is such a way. A document is that of the answer at its end.
* `length_le_of_fetch`: fetching takes at most one request more than the client follows redirects.
* `LeadsAway`, `Way.isHttps_iff`: a way that begins with encryption has it throughout, unless an
  answer leads away from it.
-/

namespace Keyring.Http

variable {σ : Type} {c : Client} {config : Config} {url : Url}

/-! ### What is kept of requests -/

/-- A request and what became of it. -/
abbrev Exchange := Request × Reply

/-- A transport that keeps all exchanges, in their order. -/
def recorded (send : Transport σ) : Transport (σ × List Exchange) := fun net request =>
  let (reply, after) := send net.1 request
  (reply, after, net.2 ++ [(request, reply)])

/-! ### Ways -/

/-- **Requests along redirects** from an address on: each goes where the answer before it says. -/
inductive Way (c : Client) : Url → List Exchange → Prop where
  /-- The address cannot be named in a request. -/
  | unsendable {url : Url} : Way c url []
  /-- A last request. -/
  | last {url : Url} {reply : Reply} : Way c url [(c.request url, reply)]
  /-- An answer leads on. -/
  | on {url next : Url} {r : Response} {rest : List Exchange}
      (ht : c.target? r url = some next) (h : Way c next rest) :
      Way c url ((c.request url, .response r) :: rest)

/-- An answer leads a client where it says, if it leads it anywhere. -/
lemma target?_of_client {r : Response} {next : Url} (h : c.target? r url = some next) :
    r.target? url = some next := by
  rw [Client.target?] at h
  split_ifs at h
  exact h

/-- An answer says to ask without encryption. -/
def LeadsAway (e : Exchange) : Prop :=
  ∃ r next, e.2 = .response r ∧ r.target? e.1.url = some next ∧ next.isHttps = false

/-- **What becomes of encryption along redirects**: the first request has it, and all of them have
it exactly if no answer that is followed leads away from it. -/
structure EncryptedUnlessLedAway (way : List Exchange) : Prop where
  first : ∀ e ∈ way.head?, e.1.url.isHttps = true
  all_iff : (∀ e ∈ way, e.1.url.isHttps = true) ↔ ∀ e ∈ way.dropLast, ¬ LeadsAway e

namespace Way

variable {way : List Exchange}

/-- A way begins at its address. -/
lemma head (h : Way c url way) : ∀ e ∈ way.head?, e.1.url = url := by
  intro e he
  cases h with
  | unsendable => cases he
  | last =>
      obtain rfl := Option.some.inj he
      rfl
  | on ht h =>
      obtain rfl := Option.some.inj he
      rfl

/-- **A way that begins with encryption** has it throughout, unless an answer that is followed leads
away from it. -/
theorem isHttps_iff (h : Way c url way) (hurl : url.isHttps = true) :
    (∀ e ∈ way, e.1.url.isHttps = true) ↔ ∀ e ∈ way.dropLast, ¬ LeadsAway e := by
  induction h with
  | unsendable => simp
  | last => simpa [Client.request] using hurl
  | @on url next r rest ht h ih =>
      cases hrest : rest with
      | nil => simpa [Client.request] using hurl
      | cons e more =>
          have hnext : e.1.url = next := h.head e (by simp [hrest])
          have haway : LeadsAway (c.request url, .response r) ↔ next.isHttps = false := by
            constructor
            · rintro ⟨r', next', hr, ht', hno⟩
              obtain rfl := Reply.response.inj hr
              obtain rfl := Option.some.inj ((target?_of_client ht).symm.trans ht')
              exact hno
            · exact fun hno => ⟨r, next, rfl, target?_of_client ht, hno⟩
          have hdrop : ((c.request url, .response r) :: rest).dropLast
              = (c.request url, .response r) :: rest.dropLast := by
            rw [hrest, List.dropLast_cons_cons]
          rw [← hrest, hdrop, List.forall_mem_cons, List.forall_mem_cons, haway]
          cases hs : next.isHttps with
          | true =>
              rw [ih hs]
              simp [Client.request, hurl]
          | false =>
              -- the request after this answer is without encryption
              simp [hrest, hnext, hs]

/-- A way that begins with encryption is encrypted unless it is led away. -/
lemma encrypted (h : Way c url way) (hurl : url.isHttps = true) : EncryptedUnlessLedAway way :=
  ⟨fun e he => by rw [h.head e he, hurl], h.isHttps_iff hurl⟩

end Way

/-! ### Fetching -/

/-- **Following redirects over a recorded transport** comes to the same, and what was recorded is
the way. An answer that it comes to is the last one. -/
theorem exists_way_of_follow (send : Transport σ) (c : Client) (origin : Url) (left : ℕ) (url : Url)
    (net : σ) (before : List Exchange) :
    ∃ way, c.follow (recorded send) origin left url (net, before)
        = ((c.follow send origin left url net).1, (c.follow send origin left url net).2,
          before ++ way)
      ∧ Way c url way
      ∧ ∀ r, (c.follow send origin left url net).1 = .ended (.ok r) →
        ∃ earlier request, way = earlier ++ [(request, .response r)] := by
  have hrecorded : ∀ {url net reply net'}, send net (c.request url) = (reply, net') → ∀ before,
      recorded send (net, before) (c.request url)
        = (reply, net', before ++ [(c.request url, reply)]) := by
    intro url net reply net' h before
    rw [recorded, h]
  fun_induction Client.follow send c origin left url net generalizing before with
  -- nothing is sent
  | case1 left url net hno =>
      have hno : isRequestable url = false := by simpa using hno
      refine ⟨[], ?_, .unsendable, by simp⟩
      rw [follow_unsendable _ _ _ _ hno, List.append_nil]
  -- the request is the last one: it fails, is not answered, or its answer is not followed
  | case2 left url net hyes net' h =>
      have hyes : isRequestable url = true := by simpa using hyes
      refine ⟨[(c.request url, .failure)], ?_, .last, by simp⟩
      rw [follow_requestable _ _ _ _ hyes, hrecorded h before]
  | case3 left url net hyes net' h =>
      have hyes : isRequestable url = true := by simpa using hyes
      refine ⟨[(c.request url, .silence)], ?_, .last, by simp⟩
      rw [follow_requestable _ _ _ _ hyes, hrecorded h before]
  | case4 left url net hyes r net' h ht =>
      have hyes : isRequestable url = true := by simpa using hyes
      refine ⟨[(c.request url, .response r)], ?_, .last, ?_⟩
      · rw [follow_requestable _ _ _ _ hyes, hrecorded h before]
        simp [ht]
      · intro r' hr'
        obtain rfl : r = r' := by simpa using hr'
        exact ⟨[], c.request url, rfl⟩
  | case5 url net hyes r net' h next ht =>
      have hyes : isRequestable url = true := by simpa using hyes
      refine ⟨[(c.request url, .response r)], ?_, .last, by simp⟩
      rw [follow_requestable _ _ _ _ hyes, hrecorded h before]
      simp [ht]
  -- the answer is followed, and the rest of the way is that of the next request
  | case6 url net hyes r net' h next ht left ih =>
      have hyes : isRequestable url = true := by simpa using hyes
      obtain ⟨way, hway, hon, hlast⟩ := ih (before ++ [(c.request url, .response r)])
      refine ⟨(c.request url, .response r) :: way, ?_, .on ht hon, fun r' hr' => ?_⟩
      · rw [follow_requestable _ _ _ _ hyes, hrecorded h before]
        simp [ht, hway]
      · obtain ⟨earlier, request, rfl⟩ := hlast r' hr'
        exact ⟨(c.request url, .response r) :: earlier, request, rfl⟩

/-- The address of a request has the scheme of the address that was asked for. -/
lemma isHttps_destination (url : Url) : (destination url).isHttps = url.isHttps := by
  unfold destination
  split
  · split_ifs <;> rfl
  · rfl

/-- Where encryption is required, fetching is allowed at addresses that have it. -/
lemma isHttps_of_allowed {u : Unit} (h : config.requireHttps = true)
    (ha : Fetching.allowed config = .ok u) : config.keyUrl.isHttps = true := by
  cases hs : config.keyUrl.isHttps with
  | true => rfl
  | false => simp [Fetching.allowed, h, Url.enforceHttps, hs] at ha

/-- **Fetching over a recorded transport** comes to the same. If encryption is required, what was
recorded has it unless an answer leads away from it; and a document is that of the last answer. -/
theorem exists_way_of_fetch (send : Transport σ) (c : Client) (net : σ)
    (h : config.requireHttps = true) :
    ∃ way, KeyDocument.fetch (recorded send) c config (net, [])
        = ((KeyDocument.fetch send c config net).1, (KeyDocument.fetch send c config net).2, way)
      ∧ EncryptedUnlessLedAway way
      ∧ ∀ document, (KeyDocument.fetch send c config net).1 = .ended (.ok document) →
        ∃ earlier request r, way = earlier ++ [(request, .response r)]
          ∧ KeyDocument.ofResponse config r = .ok document := by
  rw [fetch_eq, fetch_eq]
  cases ha : Fetching.allowed config with
  | error e => exact ⟨[], rfl, ⟨by simp, by simp⟩, fun document hd => by cases hd⟩
  | ok u =>
      obtain ⟨way, hway, hon, hlast⟩ := exists_way_of_follow send c (destination config.keyUrl)
        c.limit (destination config.keyUrl) net []
      have hurl : (destination config.keyUrl).isHttps = true := by
        rw [isHttps_destination, isHttps_of_allowed h ha]
      refine ⟨way, by simp [hway], hon.encrypted hurl, fun document hd => ?_⟩
      dsimp only at hd
      cases hf : (c.follow send (destination config.keyUrl) c.limit
          (destination config.keyUrl) net).1 with
      | waiting => simp [hf, Attempt.document] at hd
      | ended result =>
          cases result with
          | error f => simp [hf, Attempt.document, KeyDocument.ofResult] at hd
          | ok r =>
              obtain ⟨earlier, request, rfl⟩ := hlast r hf
              exact ⟨earlier, request, r, rfl,
                by simpa [hf, Attempt.document, KeyDocument.ofResult] using hd⟩

/-! ### How many requests -/

/-- Along at most so many redirects there is at most one request more. -/
lemma length_le_of_follow (send : Transport σ) (c : Client) (origin : Url) (left : ℕ) (url : Url)
    (net : σ × List Exchange) :
    (c.follow (recorded send) origin left url net).2.2.length ≤ net.2.length + left + 1 := by
  have hlength : ∀ {request net reply net'}, recorded send net request = (reply, net') →
      net'.2.length = net.2.length + 1 := by
    intro request net reply net' h
    have hnet : net' = (recorded send net request).2 := by rw [h]
    rw [hnet, recorded, List.length_append, List.length_singleton]
  fun_induction Client.follow (recorded send) c origin left url net with
  | case1 left url net hno =>
      dsimp only
      omega
  | case2 left url net hyes net' h | case3 left url net hyes net' h =>
      have := hlength h
      dsimp only
      omega
  | case4 left url net hyes r net' h ht | case5 url net hyes r net' h next ht =>
      have := hlength h
      dsimp only
      omega
  | case6 url net hyes r net' h next ht left ih =>
      have := hlength h
      omega

/-- **Fetching takes at most one request more than the client follows redirects**; a client that
follows none makes one at most. -/
theorem length_le_of_fetch (send : Transport σ) (c : Client) (config : Config) (net : σ) :
    (KeyDocument.fetch (recorded send) c config (net, [])).2.2.length ≤ c.limit + 1 := by
  rw [fetch_eq]
  cases Fetching.allowed config with
  | error e => exact Nat.zero_le _
  | ok u =>
      simpa using length_le_of_follow send c (destination config.keyUrl) c.limit
        (destination config.keyUrl) (net, [])

end Keyring.Http
