import Mathlib.Tactic
import Keyring.Proofs.Result
import Keyring.Proofs.Rsa.Factors
import Keyring.Proofs.Token.Header
import Keyring.Proofs.Token.Verdict

/-!
A token that was signed with a key is accepted with its public half.

* `encodeSegment`: the text of a segment; `octets_encodeSegment`, `point_not_mem_of_octets`: it
  has the octets in base64, and no point.
* `Header.Declares.claims`: a token with such a header claims its key id.
* `verify_sign`: what a signer signs is accepted under the key id of its key.
-/

namespace Keyring.Token

/-! ### Segments -/

/-- The text of a segment with this content. -/
def encodeSegment (content : List UInt8) : String :=
  String.ofList ((Base64.encode .urlSafe content).map fun b => Char.ofNat b.toNat)

/-- The symbols are ASCII characters other than the point. -/
lemma toNat_symbol (n : ℕ) :
    (Base64.Alphabet.urlSafe.symbol n).toNat < 0x80
      ∧ (Base64.Alphabet.urlSafe.symbol n).toNat ≠ 0x2E := by
  rw [Base64.Alphabet.symbol]
  split_ifs with h₁ h₂ h₃ h₄
  · rw [Utf8.toNat_octet (by omega)]
    omega
  · rw [Utf8.toNat_octet (by omega)]
    omega
  · rw [Utf8.toNat_octet (by omega)]
    omega
  · decide
  · decide

/-- **The octets of a segment's text** are its content in base64. -/
lemma octets_encodeSegment (content : List UInt8) :
    octets (encodeSegment content) = Base64.encode .urlSafe content := by
  have hsymbols : ∀ b ∈ Base64.encode .urlSafe content,
      Utf8.encodeChar (Char.ofNat b.toNat) = [b] := by
    intro b hb
    obtain ⟨n, rfl⟩ := Base64.exists_symbol_of_mem_encode hb
    exact Utf8.encodeChar_ascii (toNat_symbol n).1
  rw [octets, encodeSegment, String.toList_ofList, Utf8.encode, List.flatMap_map]
  calc (Base64.encode .urlSafe content).flatMap (fun b => Utf8.encodeChar (Char.ofNat b.toNat))
      = (Base64.encode .urlSafe content).flatMap (fun b => [b]) := List.flatMap_congr hsymbols
    _ = Base64.encode .urlSafe content := List.flatMap_singleton' _

/-- A text in base64 has no points. -/
lemma point_not_mem_of_octets {segment : String} {content : List UInt8}
    (h : octets segment = Base64.encode .urlSafe content) : '.' ∉ segment.toList := by
  intro hpoint
  have hmem : 0x2E ∈ octets segment := List.mem_flatMap.mpr ⟨'.', hpoint, by decide⟩
  rw [h] at hmem
  obtain ⟨n, hn⟩ := Base64.exists_symbol_of_mem_encode hmem
  exact (toNat_symbol n).2 (hn ▸ rfl)

/-! ### Signing and verifying -/

variable {document signature : List UInt8} {members : List (String × List UInt8)}
  {kid h p : String} {keys : List PublishedKey}

/-- A token with a header that names a key claims to be signed with it. -/
lemma Header.Declares.claims (hd : Header.Declares document members kid)
    (hh : octets h = Base64.encode .urlSafe document) (hp : '.' ∉ p.toList)
    (signature : List UInt8) :
    Claims (h ++ "." ++ p ++ "." ++ encodeSegment signature) ⟨h, p, encodeSegment signature⟩
      kid := by
  obtain ⟨header, hread, halg, hkid⟩ := hd.exists_read
  refine ⟨⟨rfl, point_not_mem_of_octets hh, hp, ?_⟩, document, header, hh, hread, halg, hkid⟩
  exact point_not_mem_of_octets (octets_encodeSegment signature)

/-- **What a signer signs is accepted.** Take a private key that was read, whatever its factors are;
a first segment that is the text of a document which names the accepted algorithm and a key id; a
second one without points; and keys of which the first one under this id is the public half. If the
signer of the key signs the two segments, then the signature has as many octets as the modulus, and
the token of the three segments is accepted under the key id. -/
theorem verify_sign {pem : String} {key : Rsa.PrivateKey} {signer : Signer} {blinding : ℕ}
    (hkey : Rsa.PrivateKey.ofPem pem = .ok key) (hsigner : signer.key = some key)
    (hh : octets h = Base64.encode .urlSafe document)
    (hdocument : Header.Declares document members kid) (hp : '.' ∉ p.toList)
    (hkeys : FirstUnder keys kid ⟨kid, key.publicKey⟩)
    (hsign : signer.sign blinding (octets (h ++ "." ++ p)) = .ok signature) :
    signature.length = key.publicKey.size
      ∧ verify keys (h ++ "." ++ p ++ "." ++ encodeSegment signature) = .ok kid := by
  have hsigned : key.sign blinding (octets (h ++ "." ++ p)) = .ok signature := by
    rw [Signer.sign, hsigner] at hsign
    cases hs : key.sign blinding (octets (h ++ "." ++ p)) with
    | error f => simp [hs, Except.mapError] at hsign
    | ok s => simpa [hs, Except.mapError] using hsign
  have hsigns := Rsa.PrivateKey.signs_of_sign (Rsa.PrivateKey.isSound_of_ofPem hkey) hsigned
  have hverified : verifySignature ⟨h, p, encodeSegment signature⟩ ⟨kid, key.publicKey⟩ = .ok () :=
    verifySignature_eq_ok_iff.mpr ⟨signature, octets_encodeSegment signature, hsigns⟩
  refine ⟨hsigns.length, ?_⟩
  rw [verify, (hdocument.claims hh hp signature).claim_eq]
  dsimp only
  rw [checkClaim, hkeys.select_eq]
  dsimp only
  rw [hverified]
  rfl

/-! ### A small key -/

/-- A key with two factors of 247 bits. Its modulus has as many octets as are needed for a
signature. -/
def samplePrivateKey : Rsa.PrivateKey where
  publicKey := ⟨(2 ^ 246 + 337) * (2 ^ 246 + 1285), 3⟩
  secret := (1 + 2 * ((2 ^ 246 + 336) * (2 ^ 246 + 1284))) / 3
  first := 2 ^ 246 + 337
  second := 2 ^ 246 + 1285

/-- The armoured text of this key. -/
def samplePem : String := Rsa.armoured (samplePrivateKey.toNumbers [0, 0, 0])

/-- A document that names the algorithm and a key id, and nothing else. -/
def sampleHeader : List UInt8 := Json.ascii "\x7b\"alg\":\"RS256\",\"kid\":\"k\"\x7d"

/-- The members of this document. -/
def sampleMembers : List (String × List UInt8) :=
  [("alg", Json.ascii "\"RS256\""), ("kid", Json.ascii "\"k\"")]

/-- The sample document declares the key id `k`. -/
lemma declares_sampleHeader : Header.Declares sampleHeader sampleMembers "k" := by
  have hblanks : Json.Blanks [] := fun _ hb => absurd hb List.not_mem_nil
  have hstring : ∀ text ∈ ["alg", "kid", "RS256", "k"],
      Json.IsString (Json.ascii ("\"" ++ text ++ "\"")) text := by
    intro text htext
    have hplain : ∀ text ∈ ["alg", "kid", "RS256", "k"],
        text.toList.all (fun x => 0x20 ≤ x.toNat && x != '"' && x != '\\') = true := by decide
    refine ⟨Utf8.encode text.toList, ?_, Json.spells_encode fun x hx => ?_⟩
    · revert text
      decide
    · simpa [and_assoc] using List.all_eq_true.mp (hplain text htext) x hx
  have halg := hstring "RS256" (by decide)
  have hkid := hstring "k" (by decide)
  have hlabel : ∀ name ∈ ["alg", "kid"], Json.Label name
      ([] ++ (Json.ascii ("\"" ++ name ++ "\"") ++ ([] ++ [Json.colon]))) := fun name hname =>
    ⟨[], _, [], rfl, hblanks, hstring name (by revert name; decide), hblanks⟩
  have hmembers := Json.Members.more (hlabel "alg" (by decide)) hblanks halg.written hblanks
    (.last (hlabel "kid" (by decide)) hblanks hkid.written hblanks)
  refine ⟨⟨[], _, [], by decide, hblanks, hblanks, .inr hmembers⟩, ⟨_, .head _, halg⟩,
    ⟨_, .tail _ (.head _), hkid⟩, ?_, by decide⟩
  intro v hv
  have hname : "typ" ∈ sampleMembers.map Prod.fst := List.mem_map.mpr ⟨_, hv, rfl⟩
  exact absurd hname (by decide)

/-- What this key signs is accepted. -/
theorem verify_sign_sample :
    ∃ signature, (⟨"a", some samplePrivateKey⟩ : Signer).sign 1
        (octets (encodeSegment sampleHeader ++ "." ++ "e30")) = .ok signature
      ∧ Rsa.PrivateKey.ofPem samplePem = .ok samplePrivateKey
      ∧ signature.length = 62
      ∧ verify [⟨"k", samplePrivateKey.publicKey⟩]
        (encodeSegment sampleHeader ++ "." ++ "e30" ++ "." ++ encodeSegment signature)
        = .ok "k" := by
  have hkey : Rsa.PrivateKey.ofPem samplePem = .ok samplePrivateKey := by
    rw [Rsa.PrivateKey.ofPem, samplePem, Rsa.armoured, String.toList_ofList]
    exact eq_ok_iff_toOption.mpr (by decide +kernel)
  have hsigned : ((⟨"a", some samplePrivateKey⟩ : Signer).sign 1
      (octets (encodeSegment sampleHeader ++ "." ++ "e30"))).toOption.isSome = true := by
    decide +kernel
  obtain ⟨signature, hsignature⟩ := Option.isSome_iff_exists.mp hsigned
  have hsign := eq_ok_iff_toOption.mpr hsignature
  have hfirst : FirstUnder [⟨"k", samplePrivateKey.publicKey⟩] "k"
      ⟨"k", samplePrivateKey.publicKey⟩ := ⟨[], [], rfl, rfl, by simp⟩
  obtain ⟨hlength, hverify⟩ := verify_sign hkey rfl (octets_encodeSegment sampleHeader)
    declares_sampleHeader (by decide) hfirst hsign
  refine ⟨signature, hsign, hkey, hlength.trans ?_, hverify⟩
  decide +kernel

end Keyring.Token
