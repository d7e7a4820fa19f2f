import Mathlib.Tactic
import Keyring.PublishedKey
import Keyring.Proofs.Asn1.ObjectId
import Keyring.Proofs.Certificate.Writing
import Keyring.Proofs.Pem.Armour
import Keyring.Proofs.Result

/-!
The keys of certificates: which certificates have one, and that it is the one they show.

* `ofCertificate_eq_ok_iff`: a certificate has a key exactly if the element of its subject's key is
  the encoding of one that can be used.
* `ofCertificate_eq_keyType`: the keys of other algorithms are refused as such.
* `certificate_read_exactly`: both for armoured certificates.
-/

namespace Keyring.PublishedKey

open Asn1 Certificate

variable {kid : String} {der armoured : List UInt8} {k : SubjectKey} {key : PublishedKey}

/-! ### Certificates -/

/-- The key after the identifier of RSA is read. -/
lemma ofSubjectKey_eq_ok {rsa : Rsa.PublicKey} (h : k.algorithm = ObjectId.rsaEncryption)
    (hread : Rsa.PublicKey.ofInfo? k.encoded = some rsa) : ofSubjectKey kid k = .ok ⟨kid, rsa⟩ := by
  have hname : ¬ ObjectId.render k.algorithm ≠ ObjectId.rsaName := by
    rw [h, not_ne_iff]
    exact ObjectId.render_rsaEncryption
  rw [ofSubjectKey, if_neg hname, hread]

/-- **A certificate has a key exactly if it shows one**: the element of its subject's key is the
encoding of a key that can be used. -/
theorem ofCertificate_eq_ok_iff (h : subjectKey? der = some k) : ofCertificate kid der = .ok key
    ↔ key.kid = kid ∧ key.key.isUsable = true ∧ info? der = some key.key.toInfo := by
  rw [ofCertificate, h]
  constructor
  · intro hok
    dsimp only at hok
    rw [ofSubjectKey] at hok
    split_ifs at hok
    split at hok
    · rename_i found hfound
      obtain rfl := Except.ok.inj hok
      obtain ⟨hencoded, husable⟩ := Rsa.PublicKey.ofInfo?_eq_some_iff.mp hfound
      have hle := Rsa.PublicKey.length_toInfo_le husable
      exact ⟨rfl, husable, (encoded_eq_toInfo_iff h hle).mp hencoded⟩
    · cases hok
  · rintro ⟨rfl, husable, hinfo⟩
    have hle := Rsa.PublicKey.length_toInfo_le husable
    have hencoded := (encoded_eq_toInfo_iff h hle).mpr hinfo
    have hread := Rsa.PublicKey.ofInfo?_eq_some_iff.mpr ⟨hencoded, husable⟩
    exact ofSubjectKey_eq_ok (algorithm_eq_rsaEncryption h hle hencoded) hread

/-- **A key of another algorithm is refused** with the numbers of the identifier. -/
theorem ofCertificate_eq_keyType (h : subjectKey? der = some k)
    (hother : ObjectId.arcs k.algorithm ≠ ObjectId.arcs ObjectId.rsaEncryption) :
    ofCertificate kid der
      = .error (.keyType (.certificate kid (ObjectId.render k.algorithm))) := by
  have hname : ObjectId.render k.algorithm ≠ ObjectId.rsaName := fun heq =>
    hother (ObjectId.arcs_of_render_eq heq)
  rw [ofCertificate, h]
  dsimp only
  rw [ofSubjectKey, if_pos hname]

/-! ### Armoured certificates -/

lemma ofPem_of_contents (h : Pem.contents armoured = .ok der) :
    ofPem kid armoured = ofCertificate kid der := by
  rw [ofPem, h]

/-- Only well-formed certificates have keys. -/
lemma exists_subjectKey (h : ofCertificate kid der = .ok key) : ∃ k, subjectKey? der = some k := by
  rw [ofCertificate] at h
  cases hk : subjectKey? der with
  | some k => exact ⟨k, rfl⟩
  | none =>
      rw [hk] at h
      cases h

/-- **The key of an armoured certificate is the one of its subject, exactly.** A certificate is held
by its armour, whatever the label and the lines, and the element of its subject's key stands where
it was written. If that is the encoding of an RSA key, this key is read, under the id that was asked
for, whatever else the certificate says. Only the encoding of the very key is read as that key, and
only keys whose numbers are not too large. A key of another algorithm is refused as such;
identifiers are compared by their numbers, which tell them apart if they are as short as can be. -/
theorem certificate_read_exactly :
    (∀ der armoured, Pem.Armoured der armoured → Pem.contents armoured = .ok der)
    ∧ (∀ (f : Front) (info after rest : List UInt8), f.IsValid →
      (f.certificate (Der.write Der.sequenceTag info ++ after) rest).length ≤ Der.lengthLimit →
        info? (f.certificate (Der.write Der.sequenceTag info ++ after) rest)
          = some (Der.write Der.sequenceTag info))
    ∧ (∀ (kid : String) (der armoured : List UInt8) (n e : ℕ),
      Pem.contents armoured = .ok der → (subjectKey? der).isSome →
      info? der = some (Rsa.PublicKey.toInfo ⟨n, e⟩) →
      n % 2 = 1 → Number.bitSize n ≤ 4096 → e % 2 = 1 → 3 ≤ e → e ≤ 2 ^ 33 - 1 → e < n →
        ofPem kid armoured = .ok ⟨kid, ⟨n, e⟩⟩)
    ∧ (∀ (kid : String) (armoured : List UInt8) (key : PublishedKey),
      ofPem kid armoured = .ok key →
        key.kid = kid ∧ ∃ der, Pem.contents armoured = .ok der ∧ (subjectKey? der).isSome
          ∧ info? der = some key.key.toInfo ∧ Number.bitSize key.key.modulus ≤ 4096
          ∧ 2 ≤ key.key.exponent ∧ key.key.exponent ≤ 2 ^ 33 - 1)
    ∧ (∀ (kid : String) (der armoured : List UInt8) (k : SubjectKey),
      Pem.contents armoured = .ok der → subjectKey? der = some k →
      ObjectId.arcs k.algorithm ≠ ObjectId.arcs ObjectId.rsaEncryption →
        ofPem kid armoured = .error (.keyType (.certificate kid (ObjectId.render k.algorithm))))
    ∧ ∀ oid, ObjectId.IsShortest oid →
      (ObjectId.arcs oid = ObjectId.arcs ObjectId.rsaEncryption
        ↔ oid = ObjectId.rsaEncryption) := by
  refine ⟨fun _ _ h => h.contents_eq, fun _ _ _ _ hf hle => Front.info?_certificate hf hle,
    fun kid der armoured n e hcontents haccepted hinfo hodd hbits hodd' hlow hgreatest hlt => ?_,
    fun kid armoured key hok => ?_, fun kid der armoured k hcontents hk hother => ?_,
    fun oid hoid => ?_⟩
  · obtain ⟨k, hk⟩ := Option.isSome_iff_exists.mp haccepted
    have husable : Rsa.PublicKey.isUsable ⟨n, e⟩ = true :=
      Rsa.PublicKey.isUsable_iff.mpr ⟨hbits, hlt, hodd, hodd', le_trans (by decide) hlow, hgreatest⟩
    rw [ofPem_of_contents hcontents]
    exact (ofCertificate_eq_ok_iff hk).mpr ⟨rfl, husable, hinfo⟩
  · obtain ⟨der, hcontents⟩ : ∃ der, Pem.contents armoured = .ok der := by
      rw [ofPem] at hok
      split at hok
      · cases hok
      · exact ⟨_, ‹_›⟩
    rw [ofPem_of_contents hcontents] at hok
    obtain ⟨k, hk⟩ := exists_subjectKey hok
    obtain ⟨hkid, husable, hinfo⟩ := (ofCertificate_eq_ok_iff hk).mp hok
    obtain ⟨hbits, -, -, -, hlow, hgreatest⟩ := Rsa.PublicKey.isUsable_iff.mp husable
    exact ⟨hkid, der, hcontents, hk ▸ rfl, hinfo, hbits, hlow, hgreatest⟩
  · rw [ofPem_of_contents hcontents]
    exact ofCertificate_eq_keyType hk hother
  · exact ObjectId.arcs_inj hoid ObjectId.isShortest_rsaEncryption

/-! ### Short certificates -/

/-- A time. -/
def shortTime : List UInt8 := Der.write 0x17 (Json.ascii "200101000000Z")

/-- As little as can precede the key of a subject. -/
def shortFront : Front where
  version := none
  number := [0x01]
  oid := [0x2A]
  parameters := []
  issuer := []
  times := shortTime ++ shortTime
  subject := []

/-- A signature without any bits, with its algorithm. -/
def shortSignature : List UInt8 :=
  Der.write Der.sequenceTag (Der.write Der.objectIdTag [0x2A]) ++ Der.write Der.bitStringTag [0x00]

/-- A certificate of these with an element for the key. -/
def shortCertificate (info : List UInt8) : List UInt8 := shortFront.certificate info shortSignature

/-- The element of a key of another algorithm. -/
def otherInfo : List UInt8 :=
  Der.write Der.sequenceTag (Der.write Der.sequenceTag (Der.write Der.objectIdTag [0x2A])
    ++ Der.write Der.bitStringTag [0x00])

/-- A block of some octets in one line, with the label `A`. -/
def shortBlock (octets : List UInt8) : List UInt8 :=
  [] ++ (Pem.beginMarker ++ (Utf8.encode ['A'] ++ (Pem.hyphens ++ ([0x0A]
    ++ ([Base64.fill .standard octets].flatMap (· ++ [0x0A]) ++ (Pem.endMarker
      ++ (Utf8.encode ['A'] ++ (Pem.hyphens ++ []))))))))

lemma armoured_shortBlock (hne : der ≠ []) : Pem.Armoured der (shortBlock der) :=
  .block List.not_mem_nil (Pem.isLabel_of_not_mem (by simp) (by decide)) .newline
    (by simpa using Base64.fill_ne_nil hne) (by simp)

/-- A key of 1024 bits, the top one set. -/
def longKey : Rsa.PublicKey := ⟨2 ^ 1024 - 1, 65537⟩

/-- An RSA key is read and keeps to the limits; a key of another algorithm is refused. -/
theorem certificate_read_exactly_sample :
    ofPem "k" (shortBlock (shortCertificate longKey.toInfo)) = .ok ⟨"k", longKey⟩
    ∧ Number.bitSize longKey.modulus ≤ 4096
    ∧ ofPem "k" (shortBlock (shortCertificate otherInfo))
      = .error (.keyType (.certificate "k" "1.2"))
    ∧ ObjectId.arcs [0x2A] ≠ ObjectId.arcs ObjectId.rsaEncryption := by
  obtain ⟨hblock, hstands, hread, honly, hother, htold⟩ := certificate_read_exactly
  have hrsa : Pem.contents (shortBlock (shortCertificate longKey.toInfo))
      = .ok (shortCertificate longKey.toInfo) :=
    hblock _ _ (armoured_shortBlock (by simp [shortCertificate, Front.certificate, Der.write]))
  have hcurve : Pem.contents (shortBlock (shortCertificate otherInfo))
      = .ok (shortCertificate otherInfo) :=
    hblock _ _ (armoured_shortBlock (by simp [shortCertificate, Front.certificate, Der.write]))
  have hne : ObjectId.arcs [0x2A] ≠ ObjectId.arcs ObjectId.rsaEncryption := fun heq =>
    absurd ((htold [0x2A] ⟨by decide, by simp, by decide⟩).mp heq) (by decide)
  have hinfo : info? (shortCertificate longKey.toInfo) = some longKey.toInfo := by
    have hvalid : shortFront.IsValid := ⟨by simp [shortFront], .inl rfl, by decide +kernel⟩
    have hwritten := hstands shortFront (Rsa.Algorithm.rsa.write
      ++ Der.write Der.bitStringTag (0x00 :: longKey.toNumbers)) [] shortSignature hvalid
      (by decide +kernel)
    rw [List.append_nil, ← Rsa.PublicKey.toInfo_eq] at hwritten
    exact hwritten
  have hok : ofPem "k" (shortBlock (shortCertificate longKey.toInfo)) = .ok ⟨"k", longKey⟩ :=
    hread "k" _ _ (2 ^ 1024 - 1) 65537 hrsa (by decide +kernel) hinfo (by decide +kernel)
      (by decide +kernel) (by decide) (by decide) (by decide) (by decide +kernel)
  obtain ⟨-, -, -, -, -, hbits, -⟩ := honly _ _ _ hok
  refine ⟨hok, hbits, ?_, hne⟩
  obtain ⟨k, hk, halgorithm⟩ : ∃ k, subjectKey? (shortCertificate otherInfo) = some k
      ∧ k.algorithm = [0x2A] := ⟨⟨[0x2A], otherInfo⟩, by decide +kernel, rfl⟩
  have hrefused := hother "k" _ _ k hcurve hk (halgorithm ▸ hne)
  rw [halgorithm] at hrefused
  exact hrefused

end Keyring.PublishedKey
