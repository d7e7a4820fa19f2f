import Mathlib.Tactic
import Keyring.Proofs.Rsa.Factors
import Keyring.Proofs.Rsa.Uniqueness
import Keyring.Proofs.Token.RoundTrip

/-!
What the segments of an accepted token determine.

* `octets_inj`, `signingInput_inj`: a text is told by its octets, and the two segments of a parsed
  token by what is signed.
* `Sha256.Collide`: two messages with one digest.
* `signature_binds`: another header or payload under the same signature is refused, unless the two
  messages collide.
* `signature_unique`: with a key that has distinct primes as factors, a header and a payload have
  one signature segment at most.
-/

namespace Keyring

/-- Two different messages have the same digest. -/
structure Sha256.Collide (m m' : List UInt8) : Prop where
  ne : m ≠ m'
  digest_eq : Sha256.digest m = Sha256.digest m'

namespace Token

variable {t t' : Token} {key : PublishedKey} {a b : String}

/-! ### Texts and their octets -/

lemma octets_inj : octets a = octets b ↔ a = b := Utf8.encode_inj.trans String.toList_inj

/-- Three texts without points are the segments of the token that is put together from them. -/
lemma parse_segments {h p s : String} (hh : '.' ∉ h.toList) (hp : '.' ∉ p.toList)
    (hs : '.' ∉ s.toList) : parse (h ++ "." ++ p ++ "." ++ s) = .ok ⟨h, p, s⟩ :=
  parse_eq_ok_iff.mpr ⟨rfl, hh, hp, hs⟩

/-- Neither segment of a parsed token has a point, so the point in what is signed stands between
them. -/
lemma signingInput_inj (hh : '.' ∉ t.headerSegment.toList) (hp : '.' ∉ t.payloadSegment.toList) :
    t.signingInput = t'.signingInput
      ↔ t.headerSegment = t'.headerSegment ∧ t.payloadSegment = t'.payloadSegment := by
  have hlist : ∀ s : Token, s.signingInput.toList
      = s.headerSegment.toList ++ '.' :: s.payloadSegment.toList := fun s => by
    simp [signingInput, String.toList_append]
  rw [← String.toList_inj, hlist, hlist, List.append_cons_inj_of_notMem hh hp]
  simp [String.toList_inj]

/-! ### One digest -/

/-- What comes of a segment that was decoded. -/
lemma verifySignature_of_encode {signature : List UInt8}
    (h : octets t.signatureSegment = Base64.encode .urlSafe signature) :
    t.verifySignature key
      = if key.key.verifies (octets t.signingInput) signature then .ok ()
        else .error (.signature (.mismatch key.kid)) := by
  rw [verifySignature, decodeSegment_eq_ok_iff.mpr h]

/-- Under the signature segment of an accepted token exactly the tokens with its digest are
accepted. -/
lemma verifySignature_iff_digest_eq (hs : t.signatureSegment = t'.signatureSegment)
    (h : t.verifySignature key = .ok ()) :
    t'.verifySignature key = .ok ()
      ↔ Sha256.digest (octets t.signingInput) = Sha256.digest (octets t'.signingInput) := by
  obtain ⟨signature, hencode, hsigns⟩ := verifySignature_eq_ok_iff.mp h
  rw [hs] at hencode
  rw [verifySignature_eq_ok_iff]
  constructor
  · rintro ⟨signature', hencode', hsigns'⟩
    obtain rfl := Base64.encode_inj.mp (hencode.symm.trans hencode')
    exact hsigns.digest_eq hsigns'
  · intro hdigest
    exact ⟨signature, hencode, hsigns.of_digest_eq hdigest⟩

/-- A token with another digest and the same signature gets the error of a signature that does not
belong to the key. -/
lemma verifySignature_of_digest_ne (hs : t.signatureSegment = t'.signatureSegment)
    (h : t.verifySignature key = .ok ())
    (hne : Sha256.digest (octets t.signingInput) ≠ Sha256.digest (octets t'.signingInput)) :
    t'.verifySignature key = .error (.signature (.mismatch key.kid)) := by
  obtain ⟨signature, hencode, -⟩ := verifySignature_eq_ok_iff.mp h
  have hno := mt (verifySignature_iff_digest_eq hs h).mp hne
  rw [hs] at hencode
  rw [verifySignature_of_encode hencode] at hno ⊢
  split_ifs at hno ⊢ with hv
  · exact absurd rfl hno
  · rfl

/-- With a key that has distinct primes as factors every header and payload can be signed. -/
lemma exists_verifySignature {k : Rsa.PrivateKey} (hk : k.IsProper)
    (hroom : Rsa.leastSize ≤ k.publicKey.size) (kid header payload : String) :
    ∃ signature, verifySignature ⟨header, payload, encodeSegment signature⟩ ⟨kid, k.publicKey⟩
      = .ok () := by
  obtain ⟨signature, -, -, hsigned⟩ :=
    hk.exists_signature hroom (octets (header ++ "." ++ payload))
  have hsigns := Rsa.PrivateKey.signs_of_sign hk.sound (hsigned 1 (Nat.coprime_one_left _))
  exact ⟨signature, verifySignature_eq_ok_iff.mpr ⟨signature, octets_encodeSegment _, hsigns⟩⟩

/-- **A signature binds a digest, and through it the header and the payload.** Tokens that are
accepted under one signature segment have one digest. What is signed tells the two segments of a
parsed token. So, under the signature segment of an accepted token, another header or payload is
accepted exactly if the two messages collide, and gets an error of the signature otherwise. -/
theorem signature_binds :
    (∀ {key : PublishedKey} {t t' : Token}, t.signatureSegment = t'.signatureSegment →
        t.verifySignature key = .ok () → t'.verifySignature key = .ok () →
        Sha256.digest (octets t.signingInput) = Sha256.digest (octets t'.signingInput))
      ∧ (∀ {text text' : String} {t t' : Token}, parse text = .ok t → parse text' = .ok t' →
        t.signingInput = t'.signingInput →
        t.headerSegment = t'.headerSegment ∧ t.payloadSegment = t'.payloadSegment)
      ∧ ∀ {key : PublishedKey} {text text' : String} {t t' : Token}, parse text = .ok t →
        parse text' = .ok t' → t.signatureSegment = t'.signatureSegment →
        t.headerSegment ≠ t'.headerSegment ∨ t.payloadSegment ≠ t'.payloadSegment →
        t.verifySignature key = .ok () →
        let collide := Sha256.Collide (octets t.signingInput) (octets t'.signingInput)
        (t'.verifySignature key = .ok () ∧ collide)
          ∨ (t'.verifySignature key = .error (.signature (.mismatch key.kid)) ∧ ¬ collide) := by
  refine ⟨fun hs h h' => (verifySignature_iff_digest_eq hs h).mp h', ?_, ?_⟩
  · intro text text' t t' hparse _ hinput
    have hsplits := parse_eq_ok_iff.mp hparse
    exact (signingInput_inj hsplits.header hsplits.payload).mp hinput
  · intro key text text' t t' hparse _ hs hother h
    have hsplits := parse_eq_ok_iff.mp hparse
    have hinput : octets t.signingInput ≠ octets t'.signingInput := by
      intro heq
      obtain ⟨hheader, hpayload⟩ :=
        (signingInput_inj hsplits.header hsplits.payload).mp (octets_inj.mp heq)
      exact hother.elim (absurd hheader) (absurd hpayload)
    by_cases hdigest :
        Sha256.digest (octets t.signingInput) = Sha256.digest (octets t'.signingInput)
    · exact .inl ⟨(verifySignature_iff_digest_eq hs h).mpr hdigest, hinput, hdigest⟩
    · exact .inr ⟨verifySignature_of_digest_ne hs h hdigest, fun hc => hdigest hc.digest_eq⟩

/-- The public half of the key with two Mersenne primes, under an id. -/
def mersennePublished : PublishedKey := ⟨"k", Rsa.mersenneKey.publicKey⟩

lemma exists_mersenneSignature (header payload : String) :
    ∃ signature, verifySignature ⟨header, payload, encodeSegment signature⟩ mersennePublished
      = .ok () :=
  exists_verifySignature Rsa.mersenneKey_isProper (by decide +kernel) "k" header payload

/-- A signature of `a.b.c` signs it however it is divided; the segments of a parsed token are told
by what is signed; and under a signature of `a.b` the token of `a.c` is refused. -/
theorem signature_binds_sample :
    (∃ s, verifySignature ⟨"a.b", "c", s⟩ mersennePublished = .ok ()
        ∧ verifySignature ⟨"a", "b.c", s⟩ mersennePublished = .ok ()
        ∧ Sha256.digest (octets (signingInput ⟨"a.b", "c", s⟩))
          = Sha256.digest (octets (signingInput ⟨"a", "b.c", s⟩)))
      ∧ (headerSegment ⟨"a", "b", "x"⟩ = headerSegment ⟨"a", "b", "y"⟩
        ∧ payloadSegment ⟨"a", "b", "x"⟩ = payloadSegment ⟨"a", "b", "y"⟩)
      ∧ ∃ s, parse ("a" ++ "." ++ "b" ++ "." ++ s) = .ok ⟨"a", "b", s⟩
        ∧ parse ("a" ++ "." ++ "c" ++ "." ++ s) = .ok ⟨"a", "c", s⟩
        ∧ verifySignature ⟨"a", "b", s⟩ mersennePublished = .ok ()
        ∧ verifySignature ⟨"a", "c", s⟩ mersennePublished
          = .error (.signature (.mismatch "k")) := by
  obtain ⟨hdigest, hsegments, hrefused⟩ := signature_binds
  have ha : '.' ∉ "a".toList := by decide
  have hb : '.' ∉ "b".toList := by decide
  have hc : '.' ∉ "c".toList := by decide
  refine ⟨?_, ?_, ?_⟩
  · obtain ⟨signature, h⟩ := exists_mersenneSignature "a.b" "c"
    have h' : verifySignature ⟨"a", "b.c", encodeSegment signature⟩ mersennePublished = .ok () :=
      (verifySignature_iff_digest_eq rfl h).mpr rfl
    exact ⟨_, h, h', hdigest rfl h h'⟩
  · have hx : '.' ∉ "x".toList := by decide
    have hy : '.' ∉ "y".toList := by decide
    exact hsegments (parse_segments ha hb hx) (parse_segments ha hb hy) rfl
  · obtain ⟨signature, h⟩ := exists_mersenneSignature "a" "b"
    have hpoint := point_not_mem_of_octets (octets_encodeSegment signature)
    have hne : Sha256.digest (octets "a.b") ≠ Sha256.digest (octets "a.c") := by decide +kernel
    have hother : "b" ≠ "c" := by decide
    refine ⟨_, parse_segments ha hb hpoint, parse_segments ha hc hpoint, h, ?_⟩
    rcases hrefused (parse_segments ha hb hpoint) (parse_segments ha hc hpoint) rfl (.inr hother) h
      with ⟨-, hcollide⟩ | ⟨herror, -⟩
    · exact absurd hcollide.digest_eq hne
    · exact herror

/-! ### One signature -/

/-- **There is one signature segment at most.** If the modulus of a key is a product of distinct
primes, and the exponent has no common divisor with any of them less one, then for each header and
payload one text at most is accepted as the signature segment. -/
theorem signature_unique {primes : Finset ℕ} {header payload s s' : String}
    (hk : key.key.IsProper primes) (h : verifySignature ⟨header, payload, s⟩ key = .ok ())
    (h' : verifySignature ⟨header, payload, s'⟩ key = .ok ()) : s = s' := by
  obtain ⟨signature, hencode, hsigns⟩ := verifySignature_eq_ok_iff.mp h
  obtain ⟨signature', hencode', hsigns'⟩ := verifySignature_eq_ok_iff.mp h'
  obtain rfl := Rsa.PublicKey.Signs.eq hk hsigns hsigns'
  exact octets_inj.mp (hencode.trans hencode'.symm)

/-- With the two Mersenne primes there is one signature segment for `a.b`. -/
theorem signature_unique_sample :
    mersennePublished.key.IsProper {2 ^ 521 - 1, 2 ^ 127 - 1}
      ∧ ∃ s, verifySignature ⟨"a", "b", s⟩ mersennePublished = .ok ()
        ∧ ∀ s', verifySignature ⟨"a", "b", s'⟩ mersennePublished = .ok () → s' = s := by
  have hproper : mersennePublished.key.IsProper {2 ^ 521 - 1, 2 ^ 127 - 1} :=
    Rsa.mersenneKey_isProper.publicKey
  obtain ⟨signature, h⟩ := exists_mersenneSignature "a" "b"
  exact ⟨hproper, _, h, fun s' h' => signature_unique hproper h' h⟩

end Token

end Keyring
