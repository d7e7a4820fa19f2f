import Keyring.Config
import Keyring.Http.Exchange

/-!
Fetching the document that keys are published in.

* `Http.Body.take`: the body up to a limit.
* `Http.KeyDocument.ofResponse`: the document in an answer.
* `Http.KeyDocument.fetch`: the document at the address of a configuration.
-/

namespace Keyring.Http

/-- The octets of pieces up to a limit, and whether there were more. `taken` have been read already.
-/
def takeChunks (limit : Nat) (broken : Bool) (taken : List UInt8) :
    List (List UInt8) → Option (List UInt8 × Bool)
  | [] => if broken then none else some (taken, false)
  | chunk :: more =>
    let left := limit - taken.length
    if left < chunk.length then some (taken ++ chunk.take left, true)
    else takeChunks limit broken (taken ++ chunk) more

/-- The octets of a body up to a limit, and whether there were more; none if the body breaks off
before. -/
def Body.take (b : Body) (limit : Nat) : Option (List UInt8 × Bool) :=
  takeChunks limit b.broken [] b.chunks

/-- The octets of a body that is reported in an error. -/
def errorBodyLimit : Nat := 4096

/-- A document that keys are published in. -/
structure KeyDocument where
  /-- the headers that came with it -/
  headers : Headers
  /-- its octets -/
  body : List UInt8
  /-- how long it took to fetch it -/
  elapsed : Duration
  deriving Repr, DecidableEq

namespace KeyDocument

/-- The error of an answer without a document. -/
def refusal (config : Config) (r : Response) : Error :=
  .status r.status config.keyUrl
    ((r.body.take errorBodyLimit).map fun p => String.ofList (Utf8.decodeLossy p.1))

/-- The document in an answer that announces no more than is allowed. -/
def ofBody (config : Config) (r : Response) : Except Error KeyDocument :=
  match r.body.take config.maxResponseBytes.toNat with
  | none => .error (.transport .brokenBody)
  | some (_, true) => .error (.config (.oversized config.maxResponseBytes))
  | some (body, false) => .ok ⟨r.headers, body, r.elapsed⟩

/-- The document in an answer. -/
def ofResponse (config : Config) (r : Response) : Except Error KeyDocument :=
  if !r.status.isSuccess then .error (refusal config r)
  else if r.announced.any (config.maxResponseBytes.toNat < ·) then
    .error (.config (.oversized config.maxResponseBytes))
  else ofBody config r

/-- The document in what became of asking for it. -/
def ofResult (config : Config) : Except TransportFault Response → Except Error KeyDocument
  | .error f => .error (.transport f)
  | .ok r => ofResponse config r

/-- What fetching comes to if it has waited for too long. -/
def timedOut (config : Config) : Except Error KeyDocument :=
  .error (.transport (.unanswered (destination config.keyUrl)))

/-- Fetches the document at the address of a configuration. Where encryption is required this
address has to have it; redirects that the client follows may lead anywhere. -/
def fetch {σ : Type} (send : Transport σ) (c : Client) (config : Config) (net : σ) :
    Attempt (Except Error KeyDocument) × σ :=
  let allowed : Except Error Unit :=
    if config.requireHttps then config.keyUrl.enforceHttps else .ok ()
  match allowed with
  | .error e => (.ended (.error e), net)
  | .ok () =>
    let url := destination config.keyUrl
    match c.follow send url c.limit url net with
    | (.waiting, net) => (.waiting, net)
    | (.ended r, net) => (.ended (ofResult config r), net)

end KeyDocument

end Keyring.Http
