import Mathlib.Tactic
import Keyring.Proofs.Certificate.SubjectKey

/-!
Certificates as they are written, and where the key of their subject stands in them.

* `Front`, `Front.certificate`: what precedes the key, and the whole certificate.
* `skipVersion?_write`, `skipTagged?_write`, `readAlgorithm?_write`, `skipValidity?_write`: its
  parts are passed over.
* `Front.info?_certificate`: so the element after all of them is the one that holds the key.
-/

namespace Keyring.Certificate

open Asn1

/-! ### What precedes the key -/

/-- What stands in a certificate before the key of its subject. -/
structure Front where
  /-- the version, if it is given -/
  version : Option ℕ
  /-- the octets of its number -/
  number : List UInt8
  /-- the octets of the identifier of the algorithm that it is signed with -/
  oid : List UInt8
  /-- the element of the parameters of this algorithm, or nothing -/
  parameters : List UInt8
  /-- the name of the issuer -/
  issuer : List UInt8
  /-- between which times it is valid -/
  times : List UInt8
  /-- to whom -/
  subject : List UInt8

namespace Front

/-- The tag of a version. -/
def versionTag : UInt8 := 0xA0

/-- The element of a version, if it is given. -/
def writeVersion : Option ℕ → List UInt8
  | none => []
  | some v => Der.write versionTag (Der.writeUnsigned v)

/-- The elements one after the other. -/
def write (f : Front) : List UInt8 :=
  writeVersion f.version ++ (Der.write Der.integerTag f.number
    ++ (Der.write Der.sequenceTag (Der.write Der.objectIdTag f.oid ++ f.parameters)
      ++ (Der.write Der.sequenceTag f.issuer ++ (Der.write Der.sequenceTag f.times
        ++ Der.write Der.sequenceTag f.subject))))

/-- The version has 32 bits, the parameters are one element, and the times are two. -/
structure IsValid (f : Front) : Prop where
  version : ∀ v ∈ f.version, v < UInt32.size
  parameters : f.parameters = [] ∨ (Element.read? f.parameters).isSome
  times : ((skipTime? f.times).bind skipTime?).isSome

end Front

/-! ### Passing over it -/

/-- A number that is written is a version, if it has 32 bits. -/
lemma isVersion_writeUnsigned {v : ℕ} (hv : v < UInt32.size) :
    isVersion (Der.writeUnsigned v) = true := by
  obtain ⟨hunsigned, hvalue⟩ := Der.eq_unsignedOctets_iff.mp (rfl : Der.unsignedOctets v = _)
  have hshort : ∀ x, Der.isUnsigned x = true →
      isShortest x = true ∧ x.head?.all (· < 0x80) = true := by
    intro x hx
    match x with
    | [] => cases hx
    | [b] => simpa [Der.isUnsigned, isShortest] using hx
    | a :: b :: r =>
        simp only [Der.isUnsigned, Bool.and_eq_true, decide_eq_true_eq] at hx
        have hne : a ≠ 0xFF := by
          rintro rfl
          exact absurd hx.1 (by decide)
        simp [isShortest, hne, hx.1, hx.2]
  have hle : (Der.unsignedOctets v).length ≤ Der.lengthLimit := by
    have hbits : Number.bitSize v ≤ 32 := Number.bitSize_le_iff.mpr hv
    have hlimit : Der.lengthLimit = 268435455 := rfl
    rw [Der.unsignedOctets, Number.toOctets_length]
    omega
  have hread : readPrimitive? Tag.integer (Der.writeUnsigned v)
      = some (Der.unsignedOctets v, []) := by
    rw [← List.append_nil (Der.writeUnsigned v), Der.writeUnsigned, readPrimitive?, readTagged?,
      Element.read?_write _ (by decide) hle]
    rfl
  obtain ⟨hshortest, hhead⟩ := hshort _ hunsigned
  rw [isVersion, hread]
  simp [hshortest, hhead, hvalue, hv]

/-- A length that is written is not left open. -/
lemma head_writeLength {n : ℕ} (h : n ≤ Der.lengthLimit) (r : List UInt8) :
    (Der.writeLength n ++ r).head? ≠ some 0x80 := by
  intro hhead
  have hread := Der.readLength?_writeLength h r
  obtain ⟨t, ht⟩ := List.head?_eq_some_iff.mp hhead
  have hopen : Der.readLength? (0x80 :: t) = none := by
    rw [Der.readLength?, if_neg (by decide)]
    simp
  rw [ht, hopen] at hread
  cases hread

/-- What follows a number that is written is left. -/
lemma skipTagged?_write {content : List UInt8} (hle : content.length ≤ Der.lengthLimit)
    (r : List UInt8) :
    skipTagged? Tag.integer (Der.write Der.integerTag content ++ r) = some r := by
  have hread := Element.read?_write Der.integerTag (by decide) hle r
  have hclosed := head_writeLength hle (content ++ r)
  rw [Der.write, List.cons_append, List.append_assoc] at hread ⊢
  rw [skipTagged?, readTag?_of_isTag (by decide)]
  simp only [Option.bind_eq_bind, Option.bind_some, if_neg hclosed, hread]
  rfl

/-- What follows the version is left, whether it is given or not. -/
lemma skipVersion?_write {version : Option ℕ} (hversion : ∀ v ∈ version, v < UInt32.size)
    {content : List UInt8} (hle : content.length ≤ Der.lengthLimit)
    (hle' : (Front.writeVersion version).length ≤ Der.lengthLimit) (r : List UInt8) :
    skipVersion? (Front.writeVersion version ++ (Der.write Der.integerTag content ++ r))
      = some (Der.write Der.integerTag content ++ r) := by
  cases version with
  | none =>
      have hread := Element.read?_write Der.integerTag (by decide) hle r
      rw [Front.writeVersion, List.nil_append, skipVersion?, if_neg (by simp [Der.write])]
      simp only [Option.bind_eq_bind, hread, Option.bind_some]
      rfl
  | some v =>
      have hcontent : (Der.writeUnsigned v).length ≤ Der.lengthLimit :=
        (Der.length_lt_length_write _ _).le.trans hle'
      have hread := Element.read?_write Front.versionTag (by decide) hcontent
        (Der.write Der.integerTag content ++ r)
      have hvalid := isVersion_writeUnsigned (hversion v rfl)
      rw [Front.writeVersion, skipVersion?, if_neg (by simp [Der.write])]
      have htag : Element.ofTag Front.versionTag (Der.writeUnsigned v)
        = ⟨.context, true, 0, Der.writeUnsigned v⟩ := rfl
      simp [hread, htag, hvalid]

/-- What follows an algorithm that is written is left. -/
lemma readAlgorithm?_write {oid parameters : List UInt8}
    (hparameters : parameters = [] ∨ (Element.read? parameters).isSome)
    (hle : (Der.write Der.objectIdTag oid ++ parameters).length ≤ Der.lengthLimit)
    (r : List UInt8) : readAlgorithm? (Der.write Der.sequenceTag
      (Der.write Der.objectIdTag oid ++ parameters) ++ r) = some (oid, r) := by
  have hoid := Der.length_lt_length_write Der.objectIdTag oid
  have hsequence := readSequence?_write hle r
  rw [List.length_append] at hle
  have hread : readObjectId? (Der.write Der.objectIdTag oid ++ parameters)
      = some (oid, parameters) := readObjectId?_write (by omega) parameters
  have hfine : (parameters.isEmpty || (Element.read? parameters).isSome) = true := by
    rcases hparameters with rfl | hsome
    · rfl
    · simp [hsome]
  rw [readAlgorithm?, hsequence]
  simp only [Option.bind_eq_bind, Option.bind_some, hread, hfine, if_true]

/-- What follows the times is left. -/
lemma skipValidity?_write {times : List UInt8} (htimes : ((skipTime? times).bind skipTime?).isSome)
    (hle : times.length ≤ Der.lengthLimit) (r : List UInt8) :
    skipValidity? (Der.write Der.sequenceTag times ++ r) = some r := by
  obtain ⟨_, hboth⟩ := Option.isSome_iff_exists.mp htimes
  obtain ⟨rest, hfirst, hsecond⟩ := Option.bind_eq_some_iff.mp hboth
  rw [skipValidity?, readSequence?_write hle]
  simp only [Option.bind_eq_bind, Option.bind_some, hfirst, hsecond]
  rfl

/-! ### The whole certificate -/

namespace Front

variable {f : Front}

/-- A certificate that is written of what precedes the key of its subject, of what stands from there
on in the part that is signed, and of what follows that part. -/
def certificate (f : Front) (key rest : List UInt8) : List UInt8 :=
  Der.write Der.sequenceTag (Der.write Der.sequenceTag (f.write ++ key) ++ rest)

/-- **The key of a certificate stands where it is written.** -/
lemma place?_certificate (hf : f.IsValid) {key rest : List UInt8}
    (hle : (f.certificate key rest).length ≤ Der.lengthLimit) :
    place? (f.certificate key rest) = some key := by
  have hall := Der.length_lt_length_write Der.sequenceTag
    (Der.write Der.sequenceTag (f.write ++ key) ++ rest)
  have hsigned := Der.length_lt_length_write Der.sequenceTag (f.write ++ key)
  have hnumber := Der.length_lt_length_write Der.integerTag f.number
  have halgorithm := Der.length_lt_length_write Der.sequenceTag
    (Der.write Der.objectIdTag f.oid ++ f.parameters)
  have hissuer := Der.length_lt_length_write Der.sequenceTag f.issuer
  have htimes := Der.length_lt_length_write Der.sequenceTag f.times
  have hsubject := Der.length_lt_length_write Der.sequenceTag f.subject
  rw [← certificate, List.length_append] at hall
  have hcertificate : readSequence? (f.certificate key rest)
      = some (Der.write Der.sequenceTag (f.write ++ key) ++ rest, []) := by
    rw [← List.append_nil (f.certificate key rest)]
    exact readSequence?_write (by rw [List.length_append]; omega) []
  have hinside : readSequence? (Der.write Der.sequenceTag (f.write ++ key) ++ rest)
      = some (f.write ++ key, rest) := readSequence?_write (by omega) rest
  have hfront : f.write ++ key = writeVersion f.version ++ (Der.write Der.integerTag f.number
      ++ (Der.write Der.sequenceTag (Der.write Der.objectIdTag f.oid ++ f.parameters)
        ++ (Der.write Der.sequenceTag f.issuer ++ (Der.write Der.sequenceTag f.times
          ++ (Der.write Der.sequenceTag f.subject ++ key))))) := by
    simp only [write, List.append_assoc]
  -- every part is shorter than the certificate, so that its length can be read
  have hlength := congrArg List.length hfront
  simp only [List.length_append] at hlength hsigned halgorithm
  rw [place?, hcertificate]
  simp only [Option.bind_eq_bind, Option.bind_some, hinside]
  rw [hfront, skipVersion?_write hf.version (by omega) (by omega), Option.bind_some,
    skipTagged?_write (by omega), Option.bind_some,
    readAlgorithm?_write hf.parameters (by rw [List.length_append]; omega), Option.bind_some,
    readSequence?_write (by omega), Option.bind_some, skipValidity?_write hf.times (by omega),
    Option.bind_some, readSequence?_write (by omega)]
  rfl

/-- **The key info of a certificate is the element after the fields that precede it.** -/
theorem info?_certificate (hf : f.IsValid) {info after rest : List UInt8}
    (hle : (f.certificate (Der.write Der.sequenceTag info ++ after) rest).length
      ≤ Der.lengthLimit) :
    info? (f.certificate (Der.write Der.sequenceTag info ++ after) rest)
      = some (Der.write Der.sequenceTag info) := by
  have hall := Der.length_lt_length_write Der.sequenceTag (Der.write Der.sequenceTag
    (f.write ++ (Der.write Der.sequenceTag info ++ after)) ++ rest)
  have hsigned := Der.length_lt_length_write Der.sequenceTag
    (f.write ++ (Der.write Der.sequenceTag info ++ after))
  have hinfo := Der.length_lt_length_write Der.sequenceTag info
  rw [← certificate, List.length_append] at hall
  simp only [List.length_append] at hsigned
  rw [info?, place?_certificate hf hle, Option.bind_some]
  exact firstOctets?_write (by decide) (by omega) after

end Front

end Keyring.Certificate
