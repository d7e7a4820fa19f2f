import Mathlib.Tactic
import Keyring.Http.KeyDocument

/-!
Fetching a key document, request after request.

`Http.KeyDocument.fetch` goes on until it ends or would wait for ever. Between a request and its
reply a client waits, and others may act meanwhile. Here fetching is cut at these points.

* `Playback`: a transport that gives recorded replies and then falls silent.
* `Fetching`: how far fetching has come; `Fetching.start`, `Fetching.ask` and `Fetching.reply` are
  its steps.
* `Fetching.Reached`: what `fetch` comes to with the replies so far. It holds at the beginning and
  along both steps (`Reached.start`, `Reached.ask`, `Reached.reply`), so the steps together are
  `fetch`.
* `exists_response_of_played`: a document comes from a reply that was played back.
-/

namespace Keyring.Http

/-! ### Recorded replies -/

/-- Recorded replies and the requests that came for them. -/
structure Playback where
  /-- what becomes of the next requests -/
  replies : List Reply
  /-- the requests so far, in their order -/
  asked : List Request
  deriving Repr, DecidableEq

namespace Playback

/-- Recorded replies before any request. -/
def ofReplies (replies : List Reply) : Playback := ⟨replies, []⟩

/-- The next reply; none comes when all have been given. -/
def send : Transport Playback := fun net request =>
  (net.replies.head?.getD .silence, ⟨net.replies.tail, net.asked ++ [request]⟩)

@[simp] lemma send_nil (asked : List Request) (request : Request) :
    send ⟨[], asked⟩ request = (.silence, ⟨[], asked ++ [request]⟩) := rfl

@[simp] lemma send_cons (reply : Reply) (more : List Reply) (asked : List Request)
    (request : Request) :
    send ⟨reply :: more, asked⟩ request = (reply, ⟨more, asked ++ [request]⟩) := rfl

/-- An answer is one of the recorded replies, and those that are left were recorded too. -/
lemma mem_of_send {net net' : Playback} {request : Request} {r : Response}
    (h : send net request = (.response r, net')) :
    .response r ∈ net.replies ∧ ∀ reply ∈ net'.replies, reply ∈ net.replies := by
  obtain ⟨replies, asked⟩ := net
  cases replies with
  | nil => simp at h
  | cons reply more =>
      obtain ⟨rfl, rfl⟩ := by simpa using h
      exact ⟨List.mem_cons_self, fun _ => List.mem_cons_of_mem _⟩

end Playback

/-! ### The steps of fetching -/

/-- How far fetching has come. -/
inductive Fetching where
  /-- A request is due, and so many redirects may still be followed. -/
  | asking (left : ℕ) (url : Url)
  /-- A request has been sent. -/
  | waiting (left : ℕ) (url : Url)
  /-- Fetching has ended. -/
  | ended (fetched : Except Error KeyDocument)
  deriving Repr

namespace Fetching

/-- Whether encryption is given where the configuration asks for it. -/
def allowed (config : Config) : Except Error Unit :=
  if config.requireHttps then config.keyUrl.enforceHttps else .ok ()

/-- The beginning of fetching. -/
def start (config : Config) (client : Client) : Fetching :=
  match allowed config with
  | .error e => .ended (.error e)
  | .ok () => .asking client.limit (destination config.keyUrl)

/-- The request that is due is sent, if requests can name its address. -/
def ask (config : Config) (client : Client) (left : ℕ) (url : Url) : Fetching × List Request :=
  if isRequestable url then (.waiting left url, [client.request url])
  else (.ended (KeyDocument.ofResult config (.error (.unsendable url))), [])

/-- A reply comes, or the time for it is over. -/
def reply (config : Config) (client : Client) (left : ℕ) (url : Url) : Reply → Fetching
  | .failure =>
    .ended (KeyDocument.ofResult config (.error (.unanswered (destination config.keyUrl))))
  | .silence => .ended (KeyDocument.timedOut config)
  | .response r =>
    match client.target? r url with
    | none => .ended (KeyDocument.ofResult config (.ok r))
    | some next =>
      match left with
      | 0 => .ended (KeyDocument.ofResult config (.error (.redirects url)))
      | left + 1 => .asking left next

end Fetching

/-! ### The steps together -/

/-- What an attempt comes to that is not cancelled: waiting for too long is a failure. -/
def Attempt.settle (config : Config) :
    Attempt (Except Error KeyDocument) → Except Error KeyDocument
  | .ended fetched => fetched
  | .waiting => KeyDocument.timedOut config

/-- Whether an attempt would wait for ever. -/
def Attempt.isWaiting {α : Type} : Attempt α → Bool
  | .ended _ => false
  | .waiting => true

/-- An attempt to get an answer, as one to get its document. -/
def Attempt.document (config : Config) :
    Attempt (Except TransportFault Response) → Attempt (Except Error KeyDocument)
  | .ended r => .ended (KeyDocument.ofResult config r)
  | .waiting => .waiting

variable {config : Config} {client : Client}

/-- Fetching is following redirects, if it is allowed. -/
lemma fetch_eq {σ : Type} (send : Transport σ) (client : Client) (config : Config) (net : σ) :
    KeyDocument.fetch send client config net
      = match Fetching.allowed config with
        | .error e => (.ended (.error e), net)
        | .ok () =>
          let url := destination config.keyUrl
          let r := client.follow send url client.limit url net
          (r.1.document config, r.2) := by
  rw [KeyDocument.fetch]
  dsimp only
  rw [show (if config.requireHttps then config.keyUrl.enforceHttps else .ok ())
    = Fetching.allowed config from rfl]
  cases Fetching.allowed config with
  | error e => rfl
  | ok u =>
      dsimp only
      cases client.follow send (destination config.keyUrl) client.limit
        (destination config.keyUrl) net with
      | mk attempt net => cases attempt <;> rfl

/-- An address that requests cannot name ends the way at once. -/
lemma follow_unsendable {σ : Type} (send : Transport σ) (origin : Url) (left : ℕ) {url : Url}
    (net : σ) (h : isRequestable url = false) :
    client.follow send origin left url net = (.ended (.error (.unsendable url)), net) := by
  unfold Client.follow
  simp [h]

/-- What a reply makes of the way that is followed, over any transport. -/
lemma follow_requestable {σ : Type} (send : Transport σ) (origin : Url) (left : ℕ) {url : Url}
    (net : σ) (h : isRequestable url = true) :
    client.follow send origin left url net
      = let net' := (send net (client.request url)).2
        match (send net (client.request url)).1 with
        | .failure => (.ended (.error (.unanswered origin)), net')
        | .silence => (.waiting, net')
        | .response r =>
          match client.target? r url with
          | none => (.ended (.ok r), net')
          | some next =>
            match left with
            | 0 => (.ended (.error (.redirects url)), net')
            | left + 1 => client.follow send origin left next net' := by
  rw [Client.follow.eq_def]
  simp only [h, Bool.not_true, Bool.false_eq_true, if_false]
  obtain ⟨reply, net'⟩ := send net (client.request url)
  cases reply with
  | response r => cases client.target? r url <;> cases left <;> rfl
  | failure => rfl
  | silence => rfl

/-- What a recorded reply makes of it. -/
lemma follow_reply (origin : Url) (left : ℕ) {url : Url} (reply : Reply) (more : List Reply)
    (asked : List Request) (h : isRequestable url = true) :
    client.follow Playback.send origin left url ⟨reply :: more, asked⟩
      = let net : Playback := ⟨more, asked ++ [client.request url]⟩
        match reply with
        | .failure => (.ended (.error (.unanswered origin)), net)
        | .silence => (.waiting, net)
        | .response r =>
          match client.target? r url with
          | none => (.ended (.ok r), net)
          | some next =>
            match left with
            | 0 => (.ended (.error (.redirects url)), net)
            | left + 1 => client.follow Playback.send origin left next net := by
  rw [follow_requestable _ _ _ _ h]
  rfl

/-- Without a reply the way ends in waiting. -/
lemma follow_nil (origin : Url) (left : ℕ) {url : Url} (asked : List Request)
    (h : isRequestable url = true) :
    client.follow Playback.send origin left url ⟨[], asked⟩
      = (.waiting, ⟨[], asked ++ [client.request url]⟩) := by
  rw [follow_requestable _ _ _ _ h]
  rfl

namespace Fetching

/-- Fetching with recorded replies. -/
def played (config : Config) (client : Client) (replies : List Reply) :
    Attempt (Except Error KeyDocument) × Playback :=
  KeyDocument.fetch Playback.send client config (.ofReplies replies)

/-- The rest of the way from an address on. -/
def goOn (config : Config) (client : Client) (left : ℕ) (url : Url) (net : Playback) :
    Attempt (Except Error KeyDocument) × Playback :=
  let r := client.follow Playback.send (destination config.keyUrl) left url net
  (r.1.document config, r.2)

/-- How far fetching has come after some replies and with these requests: what is still to be done
makes `KeyDocument.fetch` of it, whatever replies follow. -/
def Reached (config : Config) (client : Client) (replies : List Reply) (f : Fetching)
    (asked : List Request) : Prop :=
  match f with
  | .asking left url =>
    ∀ more, played config client (replies ++ more) = goOn config client left url ⟨more, asked⟩
  | .waiting left url =>
    isRequestable url = true ∧ ∃ before, asked = before ++ [client.request url] ∧
      ∀ more, played config client (replies ++ more) = goOn config client left url ⟨more, before⟩
  | .ended fetched =>
    (played config client replies).1.settle config = fetched
      ∧ (played config client replies).2.asked = asked

namespace Reached

variable {replies : List Reply} {asked : List Request} {left : ℕ} {url : Url}

/-- Fetching begins where it begins. -/
lemma start : Reached config client [] (Fetching.start config client) [] := by
  have h := fetch_eq Playback.send client config
  rw [Fetching.start]
  cases ha : allowed config with
  | error e => simp [Reached, played, Playback.ofReplies, h, ha, Attempt.settle]
  | ok u => simp [Reached, played, goOn, Playback.ofReplies, h, ha]

/-- The request that is due is the one that `KeyDocument.fetch` makes. -/
lemma ask (h : Reached config client replies (.asking left url) asked) :
    Reached config client replies (Fetching.ask config client left url).1
      (asked ++ (Fetching.ask config client left url).2) := by
  rw [Fetching.ask]
  cases hr : isRequestable url with
  | true => exact ⟨hr, asked, rfl, h⟩
  | false =>
      have h0 := h []
      rw [List.append_nil, goOn, follow_unsendable _ _ _ _ hr] at h0
      simp [Reached, h0, Attempt.settle, Attempt.document]

/-- A reply has the consequences that it has for `KeyDocument.fetch`. -/
lemma reply (h : Reached config client replies (.waiting left url) asked) (r : Reply) :
    Reached config client (replies ++ [r]) (Fetching.reply config client left url r) asked := by
  obtain ⟨hr, before, rfl, h⟩ := h
  have hmore := fun more => h (r :: more)
  simp only [goOn, follow_reply _ _ _ _ _ hr] at hmore
  unfold Fetching.reply
  cases r with
  | failure => simp [Reached, hmore, Attempt.settle, Attempt.document]
  | silence => simp [Reached, hmore, Attempt.settle, Attempt.document]
  | response r =>
      cases ht : client.target? r url with
      | none => simp [Reached, hmore, ht, Attempt.settle, Attempt.document]
      | some next =>
          cases left with
          | zero => simp [Reached, hmore, ht, Attempt.settle, Attempt.document]
          | succ left => simp [Reached, goOn, hmore, ht]

/-- As long as the reply is missing, `KeyDocument.fetch` waits for it. -/
lemma played_waiting (h : Reached config client replies (.waiting left url) asked) :
    played config client replies = (.waiting, ⟨[], asked⟩) := by
  obtain ⟨hr, before, rfl, h⟩ := h
  simpa [goOn, follow_nil _ _ _ hr, Attempt.document] using h []

end Reached

end Fetching

/-! ### Where a document comes from -/

/-- An answer at the end of the way was played back. -/
lemma response_mem_of_follow {origin : Url} {left : ℕ} {url : Url} {net : Playback} {r : Response}
    (h : (client.follow Playback.send origin left url net).1 = .ended (.ok r)) :
    .response r ∈ net.replies := by
  fun_induction Client.follow Playback.send client origin left url net with
  | case1 => simp at h
  | case2 => simp at h
  | case3 => simp at h
  | case4 left url net _ r' net' hsend ht =>
      obtain rfl : r' = r := by simpa using h
      exact (Playback.mem_of_send hsend).1
  | case5 => simp at h
  | case6 url net _ r' net' hsend next ht left ih =>
      exact (Playback.mem_of_send hsend).2 _ (ih h)

/-- **A document comes from an answer** that was played back. -/
lemma exists_response_of_played {replies : List Reply} {document : KeyDocument}
    (h : (Fetching.played config client replies).1 = .ended (.ok document)) :
    ∃ r : Response, .response r ∈ replies ∧ KeyDocument.ofResponse config r = .ok document := by
  rw [Fetching.played, fetch_eq] at h
  cases ha : Fetching.allowed config with
  | error e => simp [ha] at h
  | ok u =>
      cases hf : (client.follow Playback.send (destination config.keyUrl) client.limit
        (destination config.keyUrl) (.ofReplies replies)).1 with
      | waiting => simp [ha, hf, Attempt.document] at h
      | ended result =>
          cases result with
          | error f => simp [ha, hf, Attempt.document, KeyDocument.ofResult] at h
          | ok r =>
              exact ⟨r, response_mem_of_follow hf,
                by simpa [ha, hf, Attempt.document, KeyDocument.ofResult] using h⟩

end Keyring.Http
