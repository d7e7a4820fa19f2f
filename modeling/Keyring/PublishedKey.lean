import Keyring.Asn1.ObjectId
import Keyring.Certificate
import Keyring.Error
import Keyring.Json.Decode
import Keyring.Rsa.Encoding

/-!
Public keys as they are published: certificates under key ids.

* `PublishedKey`: a key under its id.
* `PublishedKey.ofPem`: the key of the subject of an armoured certificate.
* `PublishedKey.ofDocument`: the keys of a document, which maps ids to armoured certificates; all of
  them or none, in the order of their ids.
* `PublishedKey.find?`, `PublishedKey.select`: the first key under an id.
-/

namespace Keyring

/-- A key under its id. -/
structure PublishedKey where
  /-- the id -/
  kid : String
  /-- the key -/
  key : Rsa.PublicKey
  deriving Repr, DecidableEq

namespace PublishedKey

/-! ### Certificates -/

/-- The key in the subject's key of a certificate. The identifier of the algorithm is compared by
its numbers, however they are written. -/
def ofSubjectKey (kid : String) (s : Certificate.SubjectKey) : Except Error PublishedKey :=
  if Asn1.ObjectId.render s.algorithm ≠ Asn1.ObjectId.rsaName then
    .error (.keyType (.certificate kid (Asn1.ObjectId.render s.algorithm)))
  else
    match Rsa.PublicKey.ofInfo? s.encoded with
    | some key => .ok ⟨kid, key⟩
    | none => .error (.format (.subjectKey kid))

/-- The key of the subject of a certificate. -/
def ofCertificate (kid : String) (der : List UInt8) : Except Error PublishedKey :=
  match Certificate.subjectKey? der with
  | some s => ofSubjectKey kid s
  | none => .error (.format (.certificate kid))

/-- The key of the subject of an armoured certificate. -/
def ofPem (kid : String) (armoured : List UInt8) : Except Error PublishedKey :=
  match Pem.contents armoured with
  | .error f => .error (.pem f)
  | .ok der => ofCertificate kid der

/-! ### Documents -/

/-- The entries with one more, in the order of their names; it replaces an entry of its name. -/
def insertEntry (name value : String) : List (String × String) → List (String × String)
  | [] => [(name, value)]
  | (n, v) :: r =>
    if name < n then (name, value) :: (n, v) :: r
    else if name = n then (name, value) :: r
    else (n, v) :: insertEntry name value r

/-- The entries of a document: each name once with its last value, in the order of the names. -/
def entries (members : List (String × String)) : List (String × String) :=
  members.foldl (fun es m => insertEntry m.1 m.2 es) []

/-- The keys of the entries of a document, or the error of the first that has none. -/
def ofEntries (es : List (String × String)) : Except Error (List PublishedKey) :=
  es.mapM fun e => ofPem e.1 (Utf8.encode e.2.toList)

/-- The keys of a document. -/
def ofDocument (document : List UInt8) : Except Error (List PublishedKey) :=
  match Json.readDocument Json.readTextMap document with
  | .error f => .error (.json f)
  | .ok members => ofEntries (entries members)

/-! ### Finding a key -/

/-- The first key under an id. -/
def find? (keys : List PublishedKey) (kid : String) : Option PublishedKey :=
  keys.find? (·.kid = kid)

/-- The first key under an id, which there has to be. -/
def select (keys : List PublishedKey) (kid : String) : Except Error PublishedKey :=
  match find? keys kid with
  | some k => .ok k
  | none => .error (.unknownKeyId kid)

end PublishedKey

end Keyring
