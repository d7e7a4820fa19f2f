import Keyring.Asn1.Element
import Keyring.Asn1.Time

/-!
Certificates (X.509), as far as their subject's key is concerned.

A certificate has to be well formed throughout, but nothing in it is judged: neither its dates nor
its signature, nor who issued it to whom. What follows the parts that are known is passed over.

* `Certificate.SubjectKey`: the key of the subject, as it is written.
* `Certificate.subjectKey?`: the key of the subject of a certificate.
-/

namespace Keyring.Certificate

open Asn1

/-- The key of a subject. -/
structure SubjectKey where
  /-- the identifier of its algorithm -/
  algorithm : List UInt8
  /-- the whole element up to the end of the key's bits -/
  encoded : List UInt8
  deriving Repr, DecidableEq

/-- The identifier of an algorithm; its parameters are any one element. -/
def readAlgorithm? (s : List UInt8) : Option (List UInt8 × List UInt8) := do
  let (content, r) ← readSequence? s
  let (oid, parameters) ← readObjectId? content
  if parameters.isEmpty || (Element.read? parameters).isSome then some (oid, r) else none

/-- A version: a whole number of 32 bits. -/
def isVersion (s : List UInt8) : Bool :=
  match readPrimitive? Tag.integer s with
  | some (content, _) =>
    isShortest content && content.head?.all (· < 0x80) && Number.ofOctets content < UInt32.size
  | none => false

/-- What follows the version, which may be missing. -/
def skipVersion? (s : List UInt8) : Option (List UInt8) :=
  if s.isEmpty then some s
  else do
    let (e, r) ← Element.read? s
    if e.tag ≠ 0 then some s
    else if e.tagClass = .context && isVersion e.content then some r
    else none

/-- One of the times between which a certificate is valid. -/
def skipTime? (s : List UInt8) : Option (List UInt8) := do
  let (e, r) ← Element.read? s
  if (e.tag = Tag.shortTime && isShortTime e.content)
    || (e.tag = Tag.longTime && isLongTime e.content) then some r
  else none

/-- The times between which a certificate is valid. -/
def skipValidity? (s : List UInt8) : Option (List UInt8) := do
  let (content, r) ← readSequence? s
  let rest ← skipTime? content
  let _ ← skipTime? rest
  return r

/-- The key of the subject, and what follows it. -/
def readSubjectKey? (s : List UInt8) : Option (SubjectKey × List UInt8) := do
  let (content, r) ← readSequence? s
  let (algorithm, bits) ← readAlgorithm? content
  let (_, rest) ← readBitString? bits
  return (⟨algorithm, s.take (s.length - r.length - rest.length)⟩, r)

/-- What follows an identifier of the issuer or the subject, which may be missing. Of its bits only
the octet in front of them is asked for. -/
def skipUniqueId? (tag : Nat) (s : List UInt8) : Option (List UInt8) :=
  match Element.read? s with
  | some (e, r) =>
    if e.tag = tag && e.tagClass = .context then
      if e.content.isEmpty then none else some r
    else some s
  | none => some s

/-- The octets of a string of octets. -/
def readOctetString? (s : List UInt8) : Option (List UInt8 × List UInt8) :=
  readPrimitive? Tag.octetString s

/-- What follows a flag, which may be missing. -/
def skipFlag (s : List UInt8) : List UInt8 :=
  match readTagged? Tag.boolean s with
  | some (e, r) => if e.content.length = 1 then r else s
  | none => s

/-- An extension: an identifier, whether it is critical, and a value. -/
def skipExtension? (s : List UInt8) : Option (List UInt8) := do
  let (content, r) ← readSequence? s
  let (_, rest) ← readObjectId? content
  let _ ← readOctetString? (skipFlag rest)
  return r

/-- Whether octets are extensions one after the other. Each takes octets, so `fuel` need not exceed
their number. -/
def areExtensions : (fuel : Nat) → List UInt8 → Bool
  | 0, s => s.isEmpty
  | fuel + 1, s => s.isEmpty || (skipExtension? s).any (areExtensions fuel)

/-- Whether octets are nothing, or a header with the tag of extensions and the sequence of them. -/
def isExtensionPart (s : List UInt8) : Bool :=
  s.isEmpty ||
    match readHeader? s with
    | some (_, _, tag, _, r) =>
      tag = 3 &&
        match readSequence? r with
        | some (content, rest) => rest.isEmpty && areExtensions content.length content
        | none => false
    | none => false

/-- The key in the part of a certificate that is signed. -/
def readSigned? (s : List UInt8) : Option SubjectKey := do
  let s ← skipVersion? s
  let s ← skipTagged? Tag.integer s
  let (_, s) ← readAlgorithm? s
  let (_, s) ← readSequence? s
  let s ← skipValidity? s
  let (_, s) ← readSequence? s
  let (key, s) ← readSubjectKey? s
  let s ← skipUniqueId? 1 s
  let s ← skipUniqueId? 2 s
  if isExtensionPart s then some key else none

/-- The key of the subject of a certificate. -/
def subjectKey? (s : List UInt8) : Option SubjectKey := do
  let (content, _) ← readSequence? s
  let (signed, s) ← readSequence? content
  let key ← readSigned? signed
  let (_, s) ← readAlgorithm? s
  let _ ← readBitString? s
  return key

end Keyring.Certificate
