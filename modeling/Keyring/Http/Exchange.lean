import Keyring.Http.Headers

/-!
Requests, the answers to them, and a client that follows redirects.

What carries requests is a parameter: a `Transport` with a state of its own.

* `Http.Request`, `Http.Response`, `Http.Reply`: what is exchanged.
* `Http.Client`: a client, and how many redirects it follows.
* `Http.Client.follow`: asks, and asks elsewhere as long as the answers say so.
-/

namespace Keyring.Http

/-! ### What is exchanged -/

/-- A request for the resource at an address. -/
structure Request where
  /-- the address -/
  url : Url
  /-- the kind of document that is asked for -/
  accept : String
  /-- the name of the client, if it gives one -/
  userAgent : Option String
  /-- whether the client was given for this one call -/
  byOverride : Bool
  deriving Repr, DecidableEq

/-- A body as it arrives. -/
structure Body where
  /-- the pieces, one after the other -/
  chunks : List (List UInt8)
  /-- whether the body ended before its end -/
  broken : Bool
  deriving Repr, DecidableEq

/-- An answer. -/
structure Response where
  /-- the status -/
  status : Status
  /-- the headers -/
  headers : Headers
  /-- the length of the body, if it was announced -/
  announced : Option Nat
  /-- the body -/
  body : Body
  /-- how long it took until the body was read -/
  elapsed : Duration
  deriving Repr, DecidableEq

/-- What becomes of a request. -/
inductive Reply where
  /-- The request is answered. -/
  | response (r : Response)
  /-- The request cannot be sent, or is not answered. -/
  | failure
  /-- No answer comes as long as one waits. -/
  | silence
  deriving Repr, DecidableEq

/-- What carries requests. -/
abbrev Transport (σ : Type) := σ → Request → Reply × σ

/-! ### Clients -/

/-- A client that sends requests. -/
structure Client where
  /-- its name, if it gives one -/
  userAgent : Option String
  /-- whether it was given for one call in place of the usual one -/
  isOverride : Bool
  /-- how many redirects it follows at most; none if an answer that redirects is like any other -/
  redirects : Option Nat
  deriving Repr, DecidableEq

/-- The number of redirects that a client follows unless it is told otherwise. -/
def redirectLimit : Nat := 10

/-- The client that is used where no other is given. -/
def Client.default : Client := ⟨some "rsa-keysource/0.1.0", false, some redirectLimit⟩

/-- A client without a name. -/
def Client.nameless : Client := ⟨none, false, some redirectLimit⟩

/-- The kind of document that keys are published in. -/
def keyDocumentType : String := "application/json"

/-- The request of a client for a key document. -/
def Client.request (c : Client) (url : Url) : Request :=
  ⟨url, keyDocumentType, c.userAgent, c.isOverride⟩

/-- Whether an encoded text stands for characters. -/
def isReadable (text : String) : Bool := (Utf8.decode (Percent.decode text.toUTF8.toList)).isOk

/-- The address that a request names. The name and the password of a user go into a header if they
can be read there, and stay in the address otherwise. -/
def destination (url : Url) : Url :=
  match url.authority with
  | some a =>
    if isReadable a.user && (!a.user.isEmpty || a.password.any isReadable) then
      { url with authority := some { a with user := "", password := none } }
    else url
  | none => url

/-- The longest address that a request can name, in octets. -/
def longestAddress : Nat := 65534

/-- Whether a character may stand in the host of a request. -/
def isHostCharacter (c : Char) : Bool := ['"', '\x60', '\x7b', '\x7d'].all (c ≠ ·)

/-- Whether requests can name an address: by its scheme, the characters of its host and its
length. -/
def isRequestable (url : Url) : Bool :=
  (url.scheme = "http" || url.scheme = "https")
    && (url.host?.map (·.render)).all (·.toList.all isHostCharacter)
    && url.render.utf8ByteSize ≤ longestAddress

/-- Where an answer says to ask instead. -/
def Response.target? (r : Response) (url : Url) : Option Url :=
  if r.status.isRedirect then do
    let value ← r.headers.get? "location"
    let text ← (Utf8.decode value).toOption
    (Url.join url (String.ofList text)).toOption
  else none

/-- Where an answer leads a client. -/
def Client.target? (c : Client) (r : Response) (url : Url) : Option Url :=
  if c.redirects.isSome then r.target? url else none

/-- The greatest number of redirects that a client follows. -/
def Client.limit (c : Client) : Nat := c.redirects.getD 0

/-- What becomes of an attempt to fetch a resource. -/
inductive Attempt (α : Type) where
  /-- The attempt comes to an end. -/
  | ended (result : α)
  /-- The attempt would wait for ever. -/
  | waiting
  deriving Repr, DecidableEq

/-- Asks at an address and follows at most `left` redirects, if the client follows any. All failures
to get an answer are reported for `origin`, the address that was asked for first. -/
def Client.follow {σ : Type} (send : Transport σ) (c : Client) (origin : Url) :
    (left : Nat) → Url → σ → Attempt (Except TransportFault Response) × σ
  | left, url, net =>
    if !isRequestable url then (.ended (.error (.unsendable url)), net)
    else
      match send net (c.request url) with
      | (.failure, net) => (.ended (.error (.unanswered origin)), net)
      | (.silence, net) => (.waiting, net)
      | (.response r, net) =>
        match c.target? r url with
        | none => (.ended (.ok r), net)
        | some next =>
          match left with
          | 0 => (.ended (.error (.redirects url)), net)
          | left + 1 => follow send c origin left next net

end Keyring.Http
