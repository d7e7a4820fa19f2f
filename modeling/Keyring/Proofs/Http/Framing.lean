import Mathlib.Tactic
import Keyring.Proofs.Http.Body
import Keyring.Proofs.Http.Redirects

/-!
The pieces that a body arrives in do not matter.

* `KeyDocument.Reads`: what is read of an answer, told by its status, the length it announces, the
  octets that came, and whether they broke off.
* `KeyDocument.Reads.ofResponse_eq`, `KeyDocument.exists_reads`: this is what the answer comes to,
  and there is always something that it comes to.
* `Reply.Alike`, `AnswerAlike`: replies, and transports, that differ in pieces of bodies only.
* `follow_document_eq`: following redirects over such transports comes to the same.
* `fetch_regardless_of_pieces`: so does fetching, and it comes to what is read of the last answer.
-/

namespace Keyring.Http

variable {σ σ' : Type} {send : Transport σ} {send' : Transport σ'} {Related : σ → σ' → Prop}
  {config : Config} {net : σ} {net' : σ'} {r r' : Response}

/-! ### What is read -/

namespace KeyDocument

/-- Neither what was announced nor what came is more than is allowed. -/
def Fits (config : Config) (announced : Option ℕ) (octets : List UInt8) : Prop :=
  (∀ length, announced = some length → length ≤ config.maxResponseBytes.toNat)
    ∧ octets.length ≤ config.maxResponseBytes.toNat

/-- **What is read of an answer** with this status that announces a length or does not, if these
octets come of its body and it then ends or breaks off. -/
inductive Reads (config : Config) (status : Status) (announced : Option ℕ) (octets : List UInt8)
    (broken : Bool) : Except Error (List UInt8) → Prop where
  /-- More is announced, or comes, than is allowed. -/
  | oversized (hs : status.isSuccess = true) (hf : ¬ Fits config announced octets) :
      Reads config status announced octets broken
        (.error (.config (.oversized config.maxResponseBytes)))
  /-- The body breaks off. -/
  | brokenOff (hs : status.isSuccess = true) (hf : Fits config announced octets)
      (hb : broken = true) :
      Reads config status announced octets broken (.error (.transport .brokenBody))
  /-- The body is read as a whole. -/
  | whole (hs : status.isSuccess = true) (hf : Fits config announced octets)
      (hb : broken = false) : Reads config status announced octets broken (.ok octets)
  /-- The request is refused; the error reports the beginning of a long body. -/
  | refusedAtLength (hs : status.isSuccess = false) (hl : 4096 < octets.length) :
      Reads config status announced octets broken (.error (.status status config.keyUrl
        (some (String.ofList (Utf8.decodeLossy (octets.take 4096))))))
  /-- The request is refused; the error reports the body. -/
  | refused (hs : status.isSuccess = false) (hl : octets.length ≤ 4096) (hb : broken = false) :
      Reads config status announced octets broken (.error (.status status config.keyUrl
        (some (String.ofList (Utf8.decodeLossy octets)))))
  /-- The request is refused, and the body breaks off before it is long enough to be reported. -/
  | refusedBrokenOff (hs : status.isSuccess = false) (hl : octets.length ≤ 4096)
      (hb : broken = true) :
      Reads config status announced octets broken (.error (.status status config.keyUrl none))

/-- There is always something that is read. -/
lemma exists_reads (config : Config) (status : Status) (announced : Option ℕ)
    (octets : List UInt8) (broken : Bool) :
    ∃ read, Reads config status announced octets broken read := by
  cases hs : status.isSuccess with
  | true =>
      by_cases hf : Fits config announced octets
      · cases hb : broken with
        | true => exact ⟨_, .brokenOff hs hf rfl⟩
        | false => exact ⟨_, .whole hs hf rfl⟩
      · exact ⟨_, .oversized hs hf⟩
  | false =>
      by_cases hl : 4096 < octets.length
      · exact ⟨_, .refusedAtLength hs hl⟩
      · cases hb : broken with
        | true => exact ⟨_, .refusedBrokenOff hs (not_lt.mp hl) rfl⟩
        | false => exact ⟨_, .refused hs (not_lt.mp hl) rfl⟩

lemma ofResponse_of_not_isSuccess (hs : r.status.isSuccess = false) :
    ofResponse config r = .error (.status r.status config.keyUrl r.body.excerpt?) := by
  rw [ofResponse, hs, refusal_eq]
  rfl

/-- What comes of an answer of success that fits. -/
lemma ofResponse_of_fits (hs : r.status.isSuccess = true)
    (hf : Fits config r.announced r.body.octets) :
    ofResponse config r
      = if r.body.broken then .error (.transport .brokenBody)
        else .ok ⟨r.headers, r.body.octets, r.elapsed⟩ := by
  have hannounced : r.announced.any (config.maxResponseBytes.toNat < ·) = false := by
    cases ha : r.announced with
    | none => rfl
    | some length => simpa using hf.1 length ha
  rw [ofResponse, hs, hannounced, ofBody, Body.take_eq, if_neg (not_lt.mpr hf.2)]
  cases r.body.broken <;> rfl

/-- What comes of an answer of success that does not fit. -/
lemma ofResponse_of_not_fits (hs : r.status.isSuccess = true)
    (hf : ¬ Fits config r.announced r.body.octets) :
    ofResponse config r = .error (.config (.oversized config.maxResponseBytes)) := by
  rw [ofResponse, hs, ofBody, Body.take_eq]
  by_cases ha : r.announced.any (config.maxResponseBytes.toNat < ·) = true
  · simp [ha]
  · have hall : ∀ length, r.announced = some length →
        length ≤ config.maxResponseBytes.toNat := fun length hl => by
      simpa [hl] using ha
    have hlong : config.maxResponseBytes.toNat < r.body.octets.length :=
      not_le.mp fun hl => hf ⟨hall, hl⟩
    simp [ha, hlong]

/-- **An answer comes to what is read of it**, with its headers. -/
theorem Reads.ofResponse_eq {read : Except Error (List UInt8)}
    (h : Reads config r.status r.announced r.body.octets r.body.broken read) :
    ofResponse config r = read.map fun body => ⟨r.headers, body, r.elapsed⟩ := by
  cases h with
  | oversized hs hf => exact ofResponse_of_not_fits hs hf
  | brokenOff hs hf hb => rw [ofResponse_of_fits hs hf, hb]; rfl
  | whole hs hf hb => rw [ofResponse_of_fits hs hf, hb]; rfl
  | refusedAtLength hs hl =>
      rw [ofResponse_of_not_isSuccess hs, Body.excerpt?, errorBodyLimit, if_pos hl]
      rfl
  | refused hs hl hb =>
      rw [ofResponse_of_not_isSuccess hs, Body.excerpt?, errorBodyLimit, if_neg (not_lt.mpr hl), hb]
      rfl
  | refusedBrokenOff hs hl hb =>
      rw [ofResponse_of_not_isSuccess hs, Body.excerpt?, errorBodyLimit, if_neg (not_lt.mpr hl), hb]
      rfl

/-- What an answer comes to is what is read of it, and nothing else is. -/
lemma ofResponse_eq_iff {fetched : Except Error KeyDocument} :
    ofResponse config r = fetched ↔ ∃ read,
      Reads config r.status r.announced r.body.octets r.body.broken read
        ∧ fetched = read.map fun body => ⟨r.headers, body, r.elapsed⟩ := by
  constructor
  · rintro rfl
    obtain ⟨read, hread⟩ :=
      exists_reads config r.status r.announced r.body.octets r.body.broken
    exact ⟨read, hread, hread.ofResponse_eq⟩
  · rintro ⟨read, hread, rfl⟩
    exact hread.ofResponse_eq

end KeyDocument

/-! ### Answers that differ in pieces only -/

/-- Two answers differ in the pieces of their bodies only. -/
structure Response.Alike (r r' : Response) : Prop where
  status : r.status = r'.status
  headers : r.headers = r'.headers
  announced : r.announced = r'.announced
  octets : r.body.octets = r'.body.octets
  broken : r.body.broken = r'.body.broken
  elapsed : r.elapsed = r'.elapsed

/-- Two replies differ in the pieces of bodies only. -/
inductive Reply.Alike : Reply → Reply → Prop where
  | response {r r' : Response} (h : r.Alike r') : Alike (.response r) (.response r')
  | failure : Alike .failure .failure
  | silence : Alike .silence .silence

/-- **Two transports answer alike** where their states are related: so are their replies to a
request, and their states stay related. -/
def AnswerAlike (send : Transport σ) (send' : Transport σ') (Related : σ → σ' → Prop) : Prop :=
  ∀ net net' request, Related net net' →
    (send net request).1.Alike (send' net' request).1
      ∧ Related (send net request).2 (send' net' request).2

/-- Answers that are alike lead a client to the same address. -/
lemma Response.Alike.target?_eq (h : r.Alike r') (c : Client) (url : Url) :
    c.target? r url = c.target? r' url := by
  rw [Client.target?, Client.target?, Response.target?, Response.target?, h.status, h.headers]

/-- Answers that are alike come to the same. -/
lemma Response.Alike.ofResponse_eq (h : r.Alike r') (config : Config) :
    KeyDocument.ofResponse config r = KeyDocument.ofResponse config r' := by
  rw [KeyDocument.ofResponse_eq_iff]
  obtain ⟨read, hread⟩ := KeyDocument.exists_reads config r'.status r'.announced r'.body.octets
    r'.body.broken
  refine ⟨read, ?_, ?_⟩
  · rwa [h.status, h.announced, h.octets, h.broken]
  · rw [hread.ofResponse_eq, h.headers, h.elapsed]

/-- To a request both transports reply, and the replies are alike. -/
lemma AnswerAlike.exists_replies (h : AnswerAlike send send' Related) (hnet : Related net net')
    (request : Request) :
    ∃ reply after reply' after', send net request = (reply, after)
      ∧ send' net' request = (reply', after') ∧ reply.Alike reply' ∧ Related after after' :=
  ⟨_, _, _, _, rfl, rfl, (h net net' request hnet).1, (h net net' request hnet).2⟩

/-! ### Fetching -/

/-- **Following redirects** over transports that answer alike comes to the same document or error,
and leaves their states related. -/
theorem follow_document_eq (h : AnswerAlike send send' Related) (c : Client) (config : Config)
    (origin : Url) (left : ℕ) (url : Url) {net : σ} {net' : σ'} (hnet : Related net net') :
    (c.follow send origin left url net).1.document config
        = (c.follow send' origin left url net').1.document config
      ∧ Related (c.follow send origin left url net).2 (c.follow send' origin left url net').2 := by
  cases hreq : isRequestable url with
  | false =>
      rw [follow_unsendable _ _ _ _ hreq, follow_unsendable _ _ _ _ hreq]
      exact ⟨rfl, hnet⟩
  | true =>
      obtain ⟨reply, after, reply', after', hsend, hsend', halike, hafter⟩ :=
        h.exists_replies hnet (c.request url)
      rw [follow_requestable _ _ _ _ hreq, follow_requestable _ _ _ _ hreq, hsend, hsend']
      cases halike with
      | failure => exact ⟨rfl, hafter⟩
      | silence => exact ⟨rfl, hafter⟩
      | @response r r' hr =>
          dsimp only
          rw [← hr.target?_eq c url]
          cases c.target? r url with
          | none => exact ⟨congrArg Attempt.ended (hr.ofResponse_eq config), hafter⟩
          | some next =>
              -- both are led to the same address, and one redirect less is left
              cases left with
              | zero => exact ⟨rfl, hafter⟩
              | succ left => exact follow_document_eq h c config origin left next hafter

/-- **The pieces that a body arrives in do not matter.** Over transports that answer alike, fetching
comes to the same document or error and leaves their states related. And if the answer that fetching
ends with is `r`, then it comes to what is read of `r`: this is told by the status, the length that
is announced, the octets joined, and whether they broke off. -/
theorem fetch_regardless_of_pieces (h : AnswerAlike send send' Related) (c : Client)
    (config : Config) (hnet : Related net net') :
    (KeyDocument.fetch send c config net).1 = (KeyDocument.fetch send' c config net').1
      ∧ Related (KeyDocument.fetch send c config net).2 (KeyDocument.fetch send' c config net').2
      ∧ ∀ r, Fetching.allowed config = .ok () →
        (c.follow send (destination config.keyUrl) c.limit (destination config.keyUrl) net).1
          = .ended (.ok r) →
        ∀ fetched, (KeyDocument.fetch send c config net).1 = .ended fetched ↔ ∃ read,
          KeyDocument.Reads config r.status r.announced r.body.octets r.body.broken read
            ∧ fetched = read.map fun body => ⟨r.headers, body, r.elapsed⟩ := by
  simp only [fetch_eq]
  cases ha : Fetching.allowed config with
  | error e => exact ⟨rfl, hnet, fun r hok => by cases hok⟩
  | ok u =>
      obtain ⟨hdocument, hafter⟩ := follow_document_eq h c config (destination config.keyUrl)
        c.limit (destination config.keyUrl) hnet
      refine ⟨hdocument, hafter, fun r _ hr fetched => ?_⟩
      simp only [hr, Attempt.document, KeyDocument.ofResult, Attempt.ended.injEq]
      exact KeyDocument.ofResponse_eq_iff

/-! ### A body at its limit -/

/-- A configuration that allows three octets. -/
def narrowConfig : Config :=
  { Config.forUrl ⟨"https", some ⟨"", none, some (.name "a"), none⟩, .steps ["k"], none, none⟩ with
    maxResponseBytes := 3 }

/-- An answer whose body arrives in these pieces. -/
def arriving (chunks : List (List UInt8)) : Response :=
  ⟨⟨200⟩, [], none, ⟨chunks, false⟩, Duration.ofSeconds 1⟩

/-- A transport over which all requests are answered in these pieces. -/
def inPieces (chunks : List (List UInt8)) : Transport Unit := fun _ _ =>
  (.response (arriving chunks), ())

/-- Three octets in one piece, and in three of which one is empty. -/
theorem fetch_regardless_of_pieces_sample :
    AnswerAlike (inPieces [[1, 2, 3]]) (inPieces [[1], [], [2, 3]]) (· = ·)
      ∧ (KeyDocument.fetch (inPieces [[1, 2, 3]]) .default narrowConfig ()).1
        = .ended (.ok ⟨[], [1, 2, 3], Duration.ofSeconds 1⟩)
      ∧ (KeyDocument.fetch (inPieces [[1], [], [2, 3]]) .default narrowConfig ()).1
        = .ended (.ok ⟨[], [1, 2, 3], Duration.ofSeconds 1⟩) := by
  have h : AnswerAlike (inPieces [[1, 2, 3]]) (inPieces [[1], [], [2, 3]]) (· = ·) :=
    fun _ _ _ _ => ⟨.response ⟨rfl, rfl, rfl, rfl, rfl, rfl⟩, rfl⟩
  obtain ⟨heq, -, hread⟩ := fetch_regardless_of_pieces h .default narrowConfig (rfl : () = ())
  have hfollow : (Client.default.follow (inPieces [[1, 2, 3]]) (destination narrowConfig.keyUrl)
      Client.default.limit (destination narrowConfig.keyUrl) ()).1
        = .ended (.ok (arriving [[1, 2, 3]])) := by decide +kernel
  have hfits : KeyDocument.Fits narrowConfig none [1, 2, 3] :=
    ⟨nofun, by decide⟩
  have hwhole : (KeyDocument.fetch (inPieces [[1, 2, 3]]) .default narrowConfig ()).1
      = .ended (.ok ⟨[], [1, 2, 3], Duration.ofSeconds 1⟩) :=
    (hread _ rfl hfollow _).mpr ⟨.ok [1, 2, 3], .whole rfl hfits rfl, rfl⟩
  exact ⟨h, hwhole, heq ▸ hwhole⟩

end Keyring.Http
