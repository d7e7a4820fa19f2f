import Mathlib.Tactic
import Keyring.Proofs.Pem.Armour
import Keyring.Proofs.Result
import Keyring.Proofs.Rsa.Factors
import Keyring.Proofs.Rsa.Wrapping
import Keyring.Proofs.Text.Utf8
import Keyring.Signer

/-!
Private keys in their two encodings: with the identifier of the algorithm, and without it.

* `KeyInfo.ofNumbers?_eq_none`: no octets are both.
* `PrivateKey.ofInfo?_write`: a key reads the same in both.
* `PrivateKey.ofDer_eq_keyType`, `PrivateKey.ofDer_eq_format`: what is wrong with octets that are no
  key.
* `PrivateKey.encodings_agree`: all of this for armoured keys.
-/

namespace Keyring

/-- The first armoured block of a text holds these octets. -/
def Pem.Holds (text : String) (x : List UInt8) : Prop :=
  Pem.contents (Utf8.encode text.toList) = .ok x

namespace Rsa

open Asn1

variable {s x : List UInt8} {key : PrivateKey}

/-! ### No octets are both -/

/-- **Octets with the identifier of an algorithm are not the numbers of a key**: where the one has a
sequence, the other has a number. -/
lemma KeyInfo.ofNumbers?_eq_none {info : KeyInfo} (h : KeyInfo.read? s = some info) :
    PrivateKey.ofNumbers? s = none := by
  rw [Option.eq_none_iff_forall_ne_some]
  intro key hkey
  obtain ⟨content, honly, h⟩ := Option.bind_eq_some_iff.mp h
  obtain ⟨content', honly', hkey⟩ := Option.bind_eq_some_iff.mp hkey
  obtain rfl := Option.some.inj (honly.symm.trans honly')
  obtain ⟨⟨_, rest⟩, hversion, h⟩ := Option.bind_eq_some_iff.mp h
  obtain ⟨⟨_, rest'⟩, hversion', hkey⟩ := Option.bind_eq_some_iff.mp hkey
  obtain ⟨rfl, rfl⟩ := Prod.mk.inj (Option.some.inj (hversion.symm.trans hversion'))
  obtain ⟨⟨_, _⟩, halgorithm, -⟩ := Option.bind_eq_some_iff.mp h
  obtain ⟨⟨_, _⟩, hsequence, -⟩ := Option.bind_eq_some_iff.mp halgorithm
  obtain ⟨⟨_, _⟩, hmodulus, -⟩ := Option.bind_eq_some_iff.mp hkey
  obtain ⟨hmodulus, -⟩ := Der.readUnsigned?_eq_some_iff.mp hmodulus
  obtain ⟨hsequence, -⟩ := Der.readAs?_eq_some_iff.mp hsequence
  have htag := (List.cons.inj (hsequence.symm.trans hmodulus)).1
  exact absurd htag (by decide)

/-- No octets are read as a key in both ways. -/
lemma PrivateKey.not_both {key' : PrivateKey} (h : ofInfo? s = some key)
    (h' : ofNumbers? s = some key') : False := by
  obtain ⟨info, hinfo, -⟩ := Option.bind_eq_some_iff.mp h
  rw [KeyInfo.ofNumbers?_eq_none hinfo] at h'
  cases h'

/-! ### Keys with the identifier of RSA -/

/-- The wrapping of a key is the octets of that key with the identifier of RSA. -/
lemma KeyInfo.encodes_write (hle : (KeyInfo.write ObjectId.rsaEncryption x).length
    ≤ Der.lengthLimit) :
    Encodes (KeyInfo.write ObjectId.rsaEncryption x) ⟨Algorithm.rsa, x⟩ := by
  refine ⟨0, [], ?_, hle, Algorithm.isValid_rsa, .plain .nil .nil (by simp)⟩
  rw [KeyInfo.write, List.append_nil, List.append_assoc]
  rfl

/-- **Wrapped in the identifier of RSA a key reads as it does alone.** -/
lemma PrivateKey.ofInfo?_write (hle : (KeyInfo.write ObjectId.rsaEncryption x).length
    ≤ Der.lengthLimit) :
    ofInfo? (KeyInfo.write ObjectId.rsaEncryption x) = ofNumbers? x := by
  rw [ofInfo?, KeyInfo.read?_eq_some_iff.mpr (KeyInfo.encodes_write hle)]
  rfl

namespace PrivateKey

/-! ### Either way -/

lemma ofDer_of_ofInfo? (h : ofInfo? x = some key) : ofDer x = .ok key := by
  rw [ofDer, h]

lemma ofDer_of_ofNumbers? (h : ofNumbers? x = some key) : ofDer x = .ok key := by
  have hno : ofInfo? x = none := Option.eq_none_iff_forall_ne_some.mpr fun _ hinfo =>
    not_both hinfo h
  rw [ofDer, hno, h]

/-- The private key of an encoding, where its numbers alone are tried first. -/
def ofDerNumbersFirst (der : List UInt8) : Except Error PrivateKey :=
  match ofNumbers? der with
  | some key => .ok key
  | none =>
    match ofInfo? der with
    | some key => .ok key
    | none =>
      match otherAlgorithm? der with
      | some oid => .error (.keyType (.privateKey (ObjectId.renderNarrow oid)))
      | none => .error (.format .privateKey)

/-- **The order in which they are tried does not matter.** -/
lemma ofDerNumbersFirst_eq (x : List UInt8) : ofDerNumbersFirst x = ofDer x := by
  cases hn : ofNumbers? x with
  | some key => rw [ofDer_of_ofNumbers? hn, ofDerNumbersFirst, hn]
  | none =>
      cases hi : ofInfo? x <;> cases ho : otherAlgorithm? x <;>
        simp [ofDerNumbersFirst, ofDer, hn, hi, ho]

/-! ### Octets that are no key -/

/-- Octets that are a key of another algorithm are no key of RSA, and this is what is wrong. -/
lemma ofDer_eq_keyType {info : KeyInfo} (h : KeyInfo.Encodes x info)
    (hother : info.algorithm.oid ≠ ObjectId.rsaEncryption) :
    ofDer x = .error (.keyType (.privateKey (ObjectId.renderNarrow info.algorithm.oid))) := by
  have hread := KeyInfo.read?_eq_some_iff.mpr h
  have hrsa : info.algorithm ≠ .rsa := fun heq => hother (congrArg Algorithm.oid heq)
  have hinfo : ofInfo? x = none := by
    rw [ofInfo?, hread]
    exact if_neg hrsa
  rw [ofDer, hinfo, KeyInfo.ofNumbers?_eq_none hread, otherAlgorithm?, hread]
  dsimp only
  rw [if_pos hother]

/-- Octets that are no key in either way, nor one of another algorithm, have the wrong form. -/
lemma ofDer_eq_format (hinfo : ofInfo? x = none) (hnumbers : ofNumbers? x = none)
    (hno : ∀ info, KeyInfo.Encodes x info → info.algorithm.oid = ObjectId.rsaEncryption) :
    ofDer x = .error (.format .privateKey) := by
  have hother : otherAlgorithm? x = none := by
    rw [otherAlgorithm?]
    cases hread : KeyInfo.read? x with
    | none => rfl
    | some info => simp [hno info (KeyInfo.read?_eq_some_iff.mp hread)]
  rw [ofDer, hinfo, hnumbers, hother]

/-! ### Armoured keys -/

variable {text text' : String} {f : Pem.Frame} {label : List Char}

lemma ofPem_of_holds (h : Pem.Holds text x) : ofPem text = ofDer x := by
  rw [ofPem, h]

/-- Another label makes no other key. -/
lemma ofPem_congr_label (h : Pem.Holds text x)
    (hf : Pem.frame? (Utf8.encode text.toList) = some f) (hne : label ≠ [])
    (hf' : Pem.frame? (Utf8.encode text'.toList)
      = some ⟨Utf8.encode label, f.body, Utf8.encode label⟩) : ofPem text' = ofPem text := by
  have hcontents : f.contents = .ok x := by
    rw [Pem.Holds, Pem.contents, hf] at h
    exact h
  obtain ⟨_, hlabelled⟩ := Pem.Frame.exists_labelled hcontents
  have hlabelled' : Pem.Frame.Labelled ⟨Utf8.encode label, f.body, Utf8.encode label⟩ label :=
    ⟨hne, rfl, rfl⟩
  have h' : Pem.Holds text' x := by
    rw [Pem.Holds, Pem.contents, hf']
    exact (Pem.Frame.contents_congr hlabelled' hlabelled rfl).trans hcontents
  rw [ofPem_of_holds h, ofPem_of_holds h']

/-- **A private key reads the same in both encodings, and they are never confused.** The octets that
are read as the numbers of a key are those of its modulus, exponents and factors, with three numbers
that do not matter. An armoured block of them gives that key, and so does a block that holds them
with the identifier of RSA. No octets are read both ways, so that it does not matter which way is
tried first; and another label changes nothing. Octets that are read in neither way are of a wrong
key type if they are a key with the identifier of another algorithm, and of a wrong form if not. -/
theorem encodings_agree :
    (∀ x key, ofNumbers? x = some key ↔ ∃ a b c, x = key.toNumbers [a, b, c]
      ∧ x.length ≤ Der.lengthLimit ∧ key.isSound = true)
    ∧ (∀ text text' x key, Pem.Holds text x → ofNumbers? x = some key →
      Pem.Holds text' (KeyInfo.write ObjectId.rsaEncryption x) →
      (KeyInfo.write ObjectId.rsaEncryption x).length ≤ Der.lengthLimit →
        ofPem text = .ok key ∧ ofPem text' = .ok key)
    ∧ (∀ x, ¬ ∃ key key', ofInfo? x = some key ∧ ofNumbers? x = some key')
    ∧ (∀ x, ofDerNumbersFirst x = ofDer x)
    ∧ (∀ (text text' : String) (x : List UInt8) (f : Pem.Frame) (label : List Char),
      Pem.Holds text x → Pem.frame? (Utf8.encode text.toList) = some f → label ≠ [] →
      Pem.frame? (Utf8.encode text'.toList)
        = some ⟨Utf8.encode label, f.body, Utf8.encode label⟩ → ofPem text' = ofPem text)
    ∧ ∀ text x, Pem.Holds text x → ofInfo? x = none → ofNumbers? x = none →
      ((∃ fault, ofPem text = .error (.keyType fault))
        ↔ ∃ info, KeyInfo.Encodes x info ∧ info.algorithm.oid ≠ ObjectId.rsaEncryption)
      ∧ ((¬ ∃ info, KeyInfo.Encodes x info ∧ info.algorithm.oid ≠ ObjectId.rsaEncryption) →
        ofPem text = .error (.format .privateKey)) := by
  refine ⟨fun x key => ofNumbers?_eq_some_iff, fun text text' x key htext hkey htext' hle => ?_,
    fun x ⟨_, _, hinfo, hnumbers⟩ => not_both hinfo hnumbers, ofDerNumbersFirst_eq,
    fun text text' x f label htext hf hne hf' => ofPem_congr_label htext hf hne hf',
    fun text x htext hinfo hnumbers => ?_⟩
  · rw [ofPem_of_holds htext, ofPem_of_holds htext', ofDer_of_ofNumbers? hkey]
    exact ⟨rfl, ofDer_of_ofInfo? ((ofInfo?_write hle).trans hkey)⟩
  · have hformat : (¬ ∃ info, KeyInfo.Encodes x info
        ∧ info.algorithm.oid ≠ ObjectId.rsaEncryption) →
        ofPem text = .error (.format .privateKey) := fun hno =>
      (ofPem_of_holds htext).trans (ofDer_eq_format hinfo hnumbers fun info hencodes =>
        not_not.mp fun hother => hno ⟨info, hencodes, hother⟩)
    refine ⟨⟨fun ⟨fault, hfault⟩ => ?_, fun ⟨info, hencodes, hother⟩ => ?_⟩, hformat⟩
    · by_contra hno
      cases (hformat hno).symm.trans hfault
    · exact ⟨_, (ofPem_of_holds htext).trans (ofDer_eq_keyType hencodes hother)⟩

/-! ### A short key, and one of another algorithm -/

/-- The numbers of a short key. -/
def shortNumbers : List UInt8 := Signer.shortKey.toNumbers [0, 0, 0]

/-- The short key, armoured with the label `A`. -/
def shortBlock : String :=
  "-----BEGIN A-----\nMBsCAQACAQ8CAQMCAQMCAQMCAQUCAQACAQACAQA=\n-----END A-----"

/-- The short key, armoured with the label `Z`. -/
def relabelledBlock : String :=
  "-----BEGIN Z-----\nMBsCAQACAQ8CAQMCAQMCAQMCAQUCAQACAQACAQA=\n-----END Z-----"

/-- The short key with the identifier of RSA, armoured with the label `A`. -/
def wrappedBlock : String :=
  "-----BEGIN A-----\nMDECAQAwDQYJKoZIhvcNAQEBBQAEHTAbAgEAAgEPAgEDAgEDAgEDAgEFAgEAAgEAAgEA\n"
    ++ "-----END A-----"

/-- A key without octets that has the identifier of elliptic curves. -/
def curveInfo : KeyInfo := ⟨⟨[0x2A, 0x86, 0x48, 0xCE, 0x3D, 0x02, 0x01], none⟩, []⟩

/-- The encoding of the key with the identifier of elliptic curves. -/
def curveOctets : List UInt8 :=
  Der.write Der.sequenceTag (Der.writeUnsigned 0
    ++ (curveInfo.algorithm.write ++ (Der.write Der.octetStringTag [] ++ [])))

/-- The short key is the same with either label and in either encoding; the key with the identifier
of elliptic curves is refused. -/
theorem encodings_agree_sample :
    Pem.Holds shortBlock shortNumbers ∧ ofNumbers? shortNumbers = some Signer.shortKey
      ∧ Pem.Holds wrappedBlock (KeyInfo.write ObjectId.rsaEncryption shortNumbers)
      ∧ (KeyInfo.write ObjectId.rsaEncryption shortNumbers).length ≤ Der.lengthLimit
      ∧ ofPem shortBlock = .ok Signer.shortKey ∧ ofPem wrappedBlock = .ok Signer.shortKey
      ∧ ofPem relabelledBlock = ofPem shortBlock
      ∧ Pem.Holds (armoured curveOctets) curveOctets
      ∧ ∃ fault, ofPem (armoured curveOctets) = .error (.keyType fault) := by
  obtain ⟨hnumbers, hagree, -, -, hlabel, hwrong⟩ := encodings_agree
  have hblock : Pem.Holds shortBlock shortNumbers := eq_ok_iff_toOption.mpr (by decide +kernel)
  have hwrapped : Pem.Holds wrappedBlock (KeyInfo.write ObjectId.rsaEncryption shortNumbers) :=
    eq_ok_iff_toOption.mpr (by decide +kernel)
  have hkey : ofNumbers? shortNumbers = some Signer.shortKey :=
    (hnumbers _ _).mpr ⟨0, 0, 0, rfl, by decide, by decide⟩
  have hle : (KeyInfo.write ObjectId.rsaEncryption shortNumbers).length ≤ Der.lengthLimit := by
    decide +kernel
  obtain ⟨hshort, hsame⟩ := hagree _ _ _ _ hblock hkey hwrapped hle
  -- the same block but for the label
  have hframes : (Pem.frame? (Utf8.encode shortBlock.toList)).isSome = true
      ∧ Pem.frame? (Utf8.encode relabelledBlock.toList)
        = (Pem.frame? (Utf8.encode shortBlock.toList)).map fun f =>
          ⟨Utf8.encode ['Z'], f.body, Utf8.encode ['Z']⟩ := by decide +kernel
  obtain ⟨f, hf⟩ := Option.isSome_iff_exists.mp hframes.1
  have hrelabelled := hlabel shortBlock relabelledBlock _ f ['Z'] hblock hf (by simp)
    (by rw [hframes.2, hf]; rfl)
  have hcurve : Pem.Holds (armoured curveOctets) curveOctets := by
    rw [Pem.Holds, armoured, String.toList_ofList]
    exact eq_ok_iff_toOption.mpr (by decide +kernel)
  have hencodes : KeyInfo.Encodes curveOctets curveInfo :=
    ⟨0, [], rfl, by decide +kernel, ⟨by decide, by simp [curveInfo]⟩, .plain .nil .nil (by simp)⟩
  have hneither : ofInfo? curveOctets = none ∧ ofNumbers? curveOctets = none := by decide +kernel
  exact ⟨hblock, hkey, hwrapped, hle, hshort, hsame, hrelabelled, hcurve,
    (hwrong _ _ hcurve hneither.1 hneither.2).1.mpr ⟨curveInfo, hencodes, by decide⟩⟩

end PrivateKey

end Rsa

end Keyring
