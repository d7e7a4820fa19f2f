import Keyring.PublishedKey

/-!
Signing on behalf of a service account.

* `Rsa.PrivateKey.ofPem`: the private key in an armoured block, in either of two encodings.
* `Signer`: an identity and perhaps a key.
* `Signer.ofPem`, `Signer.ofDocument`: the signer of a key, or of a document of credentials.
* `Signer.identity`, `Signer.sign`: what a signer does.
-/

namespace Keyring

/-- The algorithm of a private key that is not RSA. -/
def otherAlgorithm? (der : List UInt8) : Option (List UInt8) :=
  match Rsa.KeyInfo.read? der with
  | some info =>
    if info.algorithm.oid ≠ Asn1.ObjectId.rsaEncryption then some info.algorithm.oid else none
  | none => none

/-- The private key of an encoding: with the identifier of its algorithm, or its numbers alone. -/
def Rsa.PrivateKey.ofDer (der : List UInt8) : Except Error Rsa.PrivateKey :=
  match Rsa.PrivateKey.ofInfo? der with
  | some key => .ok key
  | none =>
    match Rsa.PrivateKey.ofNumbers? der with
    | some key => .ok key
    | none =>
      match otherAlgorithm? der with
      | some oid => .error (.keyType (.privateKey (Asn1.ObjectId.renderNarrow oid)))
      | none => .error (.format .privateKey)

/-- The private key in an armoured block. -/
def Rsa.PrivateKey.ofPem (text : String) : Except Error Rsa.PrivateKey :=
  match Pem.contents (Utf8.encode text.toList) with
  | .error f => .error (.format (.noPrivateKey f))
  | .ok der => Rsa.PrivateKey.ofDer der

/-- An identity and perhaps a key. -/
structure Signer where
  /-- the address of the account, empty if it is not known -/
  email : String
  /-- the key -/
  key : Option Rsa.PrivateKey
  deriving Repr, DecidableEq

namespace Signer

/-- The signer of an armoured key. -/
def ofPem (email pem : String) : Except Error Signer :=
  (Rsa.PrivateKey.ofPem pem).map fun key => ⟨email, some key⟩

/-! ### Credentials -/

/-- The members of a document that matter. -/
structure Credentials where
  /-- the address of the account -/
  email : String
  /-- the armoured key -/
  key : Option String
  deriving Repr, DecidableEq

namespace Credentials

/-- The members that have been read so far. -/
structure Parts where
  /-- the address, if its member has been read -/
  email : Option String
  /-- the key, if its member has been read -/
  key : Option (Option String)
  deriving Repr, DecidableEq

/-- Nothing has been read. -/
def Parts.empty : Parts := ⟨none, none⟩

/-- What has been read, and nothing for the rest. -/
def Parts.toCredentials (p : Parts) : Credentials := ⟨p.email.getD "", p.key.join⟩

/-- A text or null. -/
def readText (s : List UInt8) : Json.Reading (Option String) := Json.readOptional Json.readString s

/-- One member; one with another name is passed over. -/
def readMember (p : Parts) (name : String) (s : List UInt8) : Json.Reading Parts :=
  if name = "client_email" then
    (Json.readField name p.email.isSome Json.readString s).map
      fun v => ({ p with email := some v.1 }, v.2)
  else if name = "private_key" then
    (Json.readField name p.key.isSome readText s).map fun v => ({ p with key := some v.1 }, v.2)
  else (Json.skipMember s).map fun r => (p, r)

/-- Credentials that are written as a list. -/
def readElements (s : List UInt8) : Except Json.Fault (Credentials × List UInt8) := do
  let (email, s) ← Json.readElement true Json.readString s
  let (key, s) ← Json.readElement false readText s
  return (⟨email.getD "", key.join⟩, s)

/-- Credentials. -/
def read (s : List UInt8) : Json.Reading Credentials :=
  Json.readRecord "struct ServiceAccountCredentials"
    (Json.readObject readMember Parts.empty fun p => .ok p.toCredentials)
    (Json.readList readElements) s

end Credentials

/-- The signer of a document of credentials. Without a key it has none. -/
def ofDocument (document : List UInt8) : Except Error Signer :=
  match Json.readDocument Credentials.read document with
  | .error f => .error (.json f)
  | .ok c =>
    match c.key with
    | none => .ok ⟨c.email, none⟩
    | some pem => ofPem c.email pem

/-! ### Signing -/

/-- The address of the account, which has to be known. -/
def identity (s : Signer) : Except Error String :=
  if s.email.isEmpty then .error (.config .noEmail) else .ok s.email

/-- Whether there is a key. -/
def hasKey (s : Signer) : Bool := s.key.isSome

/-- The signature of some octets. The blinding factor does not show in it. -/
def sign (s : Signer) (blinding : Nat) (content : List UInt8) : Except Error (List UInt8) :=
  match s.key with
  | none => .error (.config .noPrivateKey)
  | some key => (key.sign blinding content).mapError fun f => .signature (.signing f)

/-- A description that does not tell the key. -/
def describe (s : Signer) : String :=
  "ServiceAccountSigner \x7b email: " ++ quoted s.email ++ ", has_private_key: "
    ++ (if s.hasKey then "true" else "false") ++ " \x7d"

end Signer

end Keyring
