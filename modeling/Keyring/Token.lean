import Keyring.PublishedKey

/-!
Signed tokens: three segments of base64 with points between them.

* `Token`, `Token.parse`: the segments.
* `Token.header`: what the first segment says about the signature.
* `Token.verifySignature`: whether the last segment signs the first two.
* `Token.claim`: the key id that a token claims to be signed with.
* `Token.verify`: the key id that a token is signed with.
-/

namespace Keyring

/-- A token as its segments. -/
structure Token where
  /-- what the signature is -/
  headerSegment : String
  /-- what is signed -/
  payloadSegment : String
  /-- the signature -/
  signatureSegment : String
  deriving Repr, DecidableEq

namespace Token

/-- The octets of a text. -/
def octets (s : String) : List UInt8 := Utf8.encode s.toList

/-- The segments of a token. -/
def parse (text : String) : Except Error Token :=
  match text.toList.splitOn '.' with
  | [h, p, s] => .ok ⟨String.ofList h, String.ofList p, String.ofList s⟩
  | _ => .error (.format .segments)

/-- What is signed. -/
def signingInput (t : Token) : String := t.headerSegment ++ "." ++ t.payloadSegment

/-! ### The header -/

/-- What a header says; each part may be missing. -/
structure Header where
  /-- the algorithm -/
  alg : Option String
  /-- the key id -/
  kid : Option String
  /-- the kind of token -/
  typ : Option String
  deriving Repr, DecidableEq

namespace Header

/-- The parts of a header that have been read so far. -/
structure Parts where
  /-- the algorithm, if its member has been read -/
  alg : Option (Option String)
  /-- the key id, if its member has been read -/
  kid : Option (Option String)
  /-- the kind, if its member has been read -/
  typ : Option (Option String)
  deriving Repr, DecidableEq

/-- Nothing has been read. -/
def Parts.empty : Parts := ⟨none, none, none⟩

/-- What has been read, and nothing for the rest. -/
def Parts.toHeader (p : Parts) : Header := ⟨p.alg.join, p.kid.join, p.typ.join⟩

/-- A text or null. -/
def readText (s : List UInt8) : Json.Reading (Option String) := Json.readOptional Json.readString s

/-- One member; one with another name is passed over. -/
def readMember (p : Parts) (name : String) (s : List UInt8) : Json.Reading Parts :=
  if name = "alg" then
    (Json.readField name p.alg.isSome readText s).map fun v => ({ p with alg := some v.1 }, v.2)
  else if name = "kid" then
    (Json.readField name p.kid.isSome readText s).map fun v => ({ p with kid := some v.1 }, v.2)
  else if name = "typ" then
    (Json.readField name p.typ.isSome readText s).map fun v => ({ p with typ := some v.1 }, v.2)
  else (Json.skipMember s).map fun r => (p, r)

/-- The parts of a header that is written as a list. -/
def readElements (s : List UInt8) : Except Json.Fault (Header × List UInt8) := do
  let (alg, s) ← Json.readElement true readText s
  let (kid, s) ← Json.readElement false readText s
  let (typ, s) ← Json.readElement false readText s
  return (⟨alg.join, kid.join, typ.join⟩, s)

/-- A header. -/
def read (s : List UInt8) : Json.Reading Header :=
  Json.readRecord "struct TokenHeader"
    (Json.readObject readMember Parts.empty fun p => .ok p.toHeader)
    (Json.readList readElements) s

end Header

/-- The octets of a segment. -/
def decodeSegment (s : String) : Except Base64.Fault (List UInt8) :=
  Base64.decode .segment (octets s)

/-- What the first segment says. -/
def header (t : Token) : Except Error Header :=
  match decodeSegment t.headerSegment with
  | .error f => .error (.format (.header f))
  | .ok document => (Json.readDocument Header.read document).mapError .json

/-! ### The signature -/

/-- The one algorithm that is accepted. -/
def rs256 : String := "RS256"

/-- Whether the last segment signs the first two with a key. -/
def verifySignature (t : Token) (key : PublishedKey) : Except Error Unit :=
  match decodeSegment t.signatureSegment with
  | .error f => .error (.signature (.encoding f))
  | .ok signature =>
    if key.key.verifies (octets t.signingInput) signature then .ok ()
    else .error (.signature (.mismatch key.kid))

/-- The key id that a header names, if the algorithm is the accepted one. -/
def Header.claim (h : Header) : Except Error String :=
  if h.alg ≠ some rs256 then .error (.format (.algorithm h.alg))
  else
    match h.kid with
    | some kid => .ok kid
    | none => .error (.format .noKeyId)

/-- A token and the key id that it claims to be signed with. No key is needed to tell. -/
def claim (text : String) : Except Error (Token × String) :=
  match parse text with
  | .error e => .error e
  | .ok t =>
    match t.header with
    | .error e => .error e
    | .ok h => h.claim.map fun kid => (t, kid)

/-- Whether one of several keys, the first under the id that a token claims, signed it. -/
def checkClaim (t : Token) (kid : String) (keys : List PublishedKey) : Except Error String :=
  match PublishedKey.select keys kid with
  | .error e => .error e
  | .ok key => (t.verifySignature key).map fun _ => kid

/-- The key id that a token is signed with. -/
def verify (keys : List PublishedKey) (text : String) : Except Error String :=
  match claim text with
  | .error e => .error e
  | .ok (t, kid) => checkClaim t kid keys

end Token

end Keyring
