import Mathlib.Tactic
import Keyring.Certificate
import Keyring.Proofs.Asn1.Element
import Keyring.Proofs.Rsa.PublicInfo

/-!
The element of a certificate that holds the key of its subject, and what is handed on of it.

* `place?`, `info?`: where that element stands, and its octets.
* `exists_place`: it is read there.
* `readSubjectKey?_toInfo`: the encoding of an RSA key is handed on as it is.
* `encoded_eq_toInfo_iff`: and what is handed on is such an encoding only if that element is.
-/

namespace Keyring.Certificate

open Asn1

variable {s r der : List UInt8} {k : SubjectKey} {key : Rsa.PublicKey}

/-- What stands in a certificate from the key of its subject on: after the version, the number, the
algorithm, the issuer, the times and the subject. -/
def place? (der : List UInt8) : Option (List UInt8) := do
  let (content, _) ← readSequence? der
  let (signed, _) ← readSequence? content
  let s ← skipVersion? signed
  let s ← skipTagged? Tag.integer s
  let (_, s) ← readAlgorithm? s
  let (_, s) ← readSequence? s
  let s ← skipValidity? s
  let (_, s) ← readSequence? s
  return s

/-- The octets of the first element. -/
def firstOctets? (s : List UInt8) : Option (List UInt8) := do
  let (_, r) ← Element.read? s
  return s.take (s.length - r.length)

/-- **The octets of the element that holds the key of the subject.** -/
def info? (der : List UInt8) : Option (List UInt8) := (place? der).bind firstOctets?

/-! ### Where the key stands -/

/-- **The key of the subject is read where it stands.** -/
lemma exists_place (h : subjectKey? der = some k) :
    ∃ s r, place? der = some s ∧ readSubjectKey? s = some (k, r) := by
  obtain ⟨⟨content, _⟩, hall, h⟩ := Option.bind_eq_some_iff.mp h
  obtain ⟨⟨signed, _⟩, hsigned, h⟩ := Option.bind_eq_some_iff.mp h
  obtain ⟨found, hfound, h⟩ := Option.bind_eq_some_iff.mp h
  obtain ⟨_, -, h⟩ := Option.bind_eq_some_iff.mp h
  obtain ⟨_, -, h⟩ := Option.bind_eq_some_iff.mp h
  rw [Option.some.inj h] at hfound
  obtain ⟨s, hversion, h⟩ := Option.bind_eq_some_iff.mp hfound
  obtain ⟨s, hnumber, h⟩ := Option.bind_eq_some_iff.mp h
  obtain ⟨⟨_, s⟩, halgorithm, h⟩ := Option.bind_eq_some_iff.mp h
  obtain ⟨⟨_, s⟩, hissuer, h⟩ := Option.bind_eq_some_iff.mp h
  obtain ⟨s, htimes, h⟩ := Option.bind_eq_some_iff.mp h
  obtain ⟨⟨_, s⟩, hsubject, h⟩ := Option.bind_eq_some_iff.mp h
  obtain ⟨⟨found, r⟩, hread, h⟩ := Option.bind_eq_some_iff.mp h
  obtain ⟨_, -, h⟩ := Option.bind_eq_some_iff.mp h
  obtain ⟨_, -, h⟩ := Option.bind_eq_some_iff.mp h
  split_ifs at h
  rw [Option.some.inj h] at hread
  refine ⟨s, r, ?_, hread⟩
  simp [place?, hall, hsigned, hversion, hnumber, halgorithm, hissuer, htimes, hsubject]

/-- What is handed on stands at the front. -/
lemma encoded_prefix (h : readSubjectKey? s = some (k, r)) : k.encoded <+: s := by
  obtain ⟨_, -, h⟩ := Option.bind_eq_some_iff.mp h
  obtain ⟨_, -, h⟩ := Option.bind_eq_some_iff.mp h
  obtain ⟨_, -, h⟩ := Option.bind_eq_some_iff.mp h
  obtain ⟨rfl, -⟩ := Prod.mk.inj (Option.some.inj h)
  exact List.take_prefix _ _

lemma firstOctets_prefix {x : List UInt8} (h : firstOctets? s = some x) : x <+: s := by
  obtain ⟨_, -, h⟩ := Option.bind_eq_some_iff.mp h
  rw [← Option.some.inj h]
  exact List.take_prefix _ _

/-! ### The encoding of a key -/

/-- An element is found as it was written. -/
lemma firstOctets?_write {tag : UInt8} {content : List UInt8} (htag : Der.isTag tag = true)
    (hle : content.length ≤ Der.lengthLimit) (r : List UInt8) :
    firstOctets? (Der.write tag content ++ r) = some (Der.write tag content) := by
  rw [firstOctets?, Element.read?_write tag htag hle]
  simp

/-- The identifier of RSA is read before the key. -/
lemma readAlgorithm?_rsa (r : List UInt8) :
    readAlgorithm? (Rsa.Algorithm.rsa.write ++ r) = some (ObjectId.rsaEncryption, r) := by
  have hsequence : readSequence? (Rsa.Algorithm.rsa.write ++ r)
      = some (Der.write Der.objectIdTag ObjectId.rsaEncryption ++ Der.write Der.nullTag [], r) :=
    readSequence?_write (by decide) r
  have hoid : readObjectId? (Der.write Der.objectIdTag ObjectId.rsaEncryption
      ++ Der.write Der.nullTag []) = some (ObjectId.rsaEncryption, Der.write Der.nullTag []) :=
    readObjectId?_write (by decide) _
  have hnull : (Element.read? (Der.write Der.nullTag [])).isSome = true := by decide
  rw [readAlgorithm?, hsequence]
  simp only [Option.bind_eq_bind, Option.bind_some, hoid, hnull, Bool.or_true, if_true]

/-- **The encoding of an RSA key is handed on as it is.** -/
lemma readSubjectKey?_toInfo (hle : key.toInfo.length ≤ Der.lengthLimit) (r : List UInt8) :
    readSubjectKey? (key.toInfo ++ r) = some (⟨ObjectId.rsaEncryption, key.toInfo⟩, r) := by
  have hcontent := Der.length_lt_length_write Der.sequenceTag
    (Rsa.Algorithm.rsa.write ++ Der.write Der.bitStringTag (0x00 :: key.toNumbers))
  rw [← Rsa.PublicKey.toInfo_eq] at hcontent
  have hbits := Der.length_lt_length_write Der.bitStringTag (0x00 :: key.toNumbers)
  have hsequence : readSequence? (key.toInfo ++ r) = some (Rsa.Algorithm.rsa.write
      ++ Der.write Der.bitStringTag (0x00 :: key.toNumbers), r) := by
    rw [Rsa.PublicKey.toInfo_eq]
    exact readSequence?_write (by omega) r
  rw [List.length_append] at hcontent
  have hstring : readBitString? (Der.write Der.bitStringTag (0x00 :: key.toNumbers))
      = some (key.toNumbers, []) := by
    rw [← List.append_nil (Der.write Der.bitStringTag _)]
    exact readBitString?_write (by omega) []
  rw [readSubjectKey?, hsequence]
  simp only [Option.bind_eq_bind, Option.bind_some, readAlgorithm?_rsa, hstring]
  simp

/-- **What is handed on is the encoding of an RSA key exactly if the whole element is**: nothing in
it is passed over. -/
theorem encoded_eq_toInfo_iff (h : subjectKey? der = some k)
    (hle : key.toInfo.length ≤ Der.lengthLimit) :
    k.encoded = key.toInfo ↔ info? der = some key.toInfo := by
  obtain ⟨s, r, hplace, hread⟩ := exists_place h
  rw [info?, hplace, Option.bind_some]
  constructor
  · intro hk
    obtain ⟨t, rfl⟩ := encoded_prefix hread
    have hcontent := Der.length_lt_length_write Der.sequenceTag
      (Rsa.Algorithm.rsa.write ++ Der.write Der.bitStringTag (0x00 :: key.toNumbers))
    rw [← Rsa.PublicKey.toInfo_eq] at hcontent
    rw [hk, Rsa.PublicKey.toInfo_eq]
    exact firstOctets?_write (by decide) (by omega) t
  · intro hinfo
    obtain ⟨t, rfl⟩ := firstOctets_prefix hinfo
    rw [readSubjectKey?_toInfo hle] at hread
    rw [← (Prod.mk.inj (Option.some.inj hread)).1]

/-- If the encoding of an RSA key is handed on, its identifier is that of RSA. -/
lemma algorithm_eq_rsaEncryption (h : subjectKey? der = some k)
    (hle : key.toInfo.length ≤ Der.lengthLimit) (hk : k.encoded = key.toInfo) :
    k.algorithm = ObjectId.rsaEncryption := by
  obtain ⟨s, r, -, hread⟩ := exists_place h
  obtain ⟨t, rfl⟩ := encoded_prefix hread
  rw [hk, readSubjectKey?_toInfo hle] at hread
  rw [← (Prod.mk.inj (Option.some.inj hread)).1]

end Keyring.Certificate
