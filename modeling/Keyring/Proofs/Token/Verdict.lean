import Mathlib.Tactic
import Keyring.Proofs.Rsa.Verification
import Keyring.Proofs.Text.Base64
import Keyring.Source

/-!
Which tokens are accepted, and what is wrong with the others.

* `verifySignature_reference`: a segment signs the two before it exactly if it is the text of a
  signature in the sense of `Rsa.PublicKey.Signs`.
* `Splits`: a text as three segments without points, with points between them.
* `FirstUnder`: the first key under an id.
* `Verdict`: acceptance under a key id, or the error of the first stage that fails.
* `Verdict.ok_iff`: what acceptance takes.
* `verify_verdict`: each token gets the one verdict on it.
-/

namespace Keyring.Token

variable {t : Token} {key : PublishedKey} {keys : List PublishedKey} {text kid : String}

/-! ### The signature -/

/-- A segment is read as the octets that it is written for. -/
lemma decodeSegment_eq_ok_iff {segment : String} {content : List UInt8} :
    decodeSegment segment = .ok content ↔ octets segment = Base64.encode .urlSafe content :=
  Base64.decode_eq_ok_iff

/-- **A token is accepted with a key** exactly if its last segment is the text of a signature of the
first two. -/
lemma verifySignature_eq_ok_iff :
    t.verifySignature key = .ok () ↔ ∃ signature,
      octets t.signatureSegment = Base64.encode .urlSafe signature
        ∧ key.key.Signs (octets t.signingInput) signature := by
  rw [verifySignature]
  cases hd : decodeSegment t.signatureSegment with
  | error f =>
      refine ⟨fun h => by simp at h, ?_⟩
      rintro ⟨signature, hs, -⟩
      rw [decodeSegment_eq_ok_iff.mpr hs] at hd
      simp at hd
  | ok signature =>
      have hs := decodeSegment_eq_ok_iff.mp hd
      simp only [← Rsa.PublicKey.verifies_iff]
      constructor
      · intro h
        refine ⟨signature, hs, ?_⟩
        by_contra hno
        simp [hno] at h
      · rintro ⟨signature', hs', hv⟩
        obtain rfl : signature = signature' := by
          simpa [hd] using decodeSegment_eq_ok_iff.mpr hs'
        simp [hv]

/-- What is wrong with a token that is not accepted with a key is its signature. -/
lemma verifySignature_cases (t : Token) (key : PublishedKey) :
    t.verifySignature key = .ok () ∨ ∃ f, t.verifySignature key = .error (.signature f) := by
  rw [verifySignature]
  cases decodeSegment t.signatureSegment with
  | error f => exact .inr ⟨_, rfl⟩
  | ok signature =>
      simp only
      split_ifs
      · exact .inl rfl
      · exact .inr ⟨_, rfl⟩

/-- **The test of a signature is the reference**, for all segments and all numbers of a key: it
accepts exactly if the last segment is the text of octets that are a signature of the first two, and
answers with an error of the signature otherwise. -/
theorem verifySignature_reference (t : Token) (key : PublishedKey) :
    (t.verifySignature key = .ok () ↔ ∃ signature,
        octets t.signatureSegment = Base64.encode .urlSafe signature
          ∧ key.key.Signs (octets t.signingInput) signature)
      ∧ (t.verifySignature key = .ok () ∨ ∃ f, t.verifySignature key = .error (.signature f)) :=
  ⟨verifySignature_eq_ok_iff, verifySignature_cases t key⟩

/-! ### Segments -/

/-- A text is three segments without points, with points between them. -/
structure Splits (text : String) (t : Token) : Prop where
  text_eq : text = t.headerSegment ++ "." ++ t.payloadSegment ++ "." ++ t.signatureSegment
  header : '.' ∉ t.headerSegment.toList
  payload : '.' ∉ t.payloadSegment.toList
  signature : '.' ∉ t.signatureSegment.toList

/-- There is one part more than separators. -/
lemma length_splitOn {α : Type} [DecidableEq α] (a : α) (l : List α) :
    (l.splitOn a).length = l.count a + 1 := by
  induction l with
  | nil => simp
  | cons b l ih =>
      by_cases hb : b = a
      · simp [List.splitOn_cons_eq_if_modifyHead, hb, ih]
      · simp [List.splitOn_cons_eq_if_modifyHead, hb, ih]

/-- Parts have no separator in them. -/
lemma not_mem_of_mem_splitOn {α : Type} [DecidableEq α] {a : α} {l part : List α}
    (h : part ∈ l.splitOn a) : a ∉ part := by
  induction l generalizing part with
  | nil =>
      rw [List.splitOn_nil, List.mem_singleton] at h
      simp [h]
  | cons b l ih =>
      obtain ⟨first, rest, hl⟩ := List.exists_cons_of_ne_nil (List.splitOn_ne_nil a l)
      rw [hl] at ih
      rw [List.splitOn_cons_eq_if_modifyHead, hl] at h
      by_cases hb : b = a
      · rw [if_pos (by simp [hb])] at h
        rcases List.mem_cons.mp h with rfl | hp
        · exact List.not_mem_nil
        · exact ih hp
      · rw [if_neg (by simp [hb])] at h
        rcases List.mem_cons.mp h with rfl | hp
        · have hfirst : a ∉ first := ih List.mem_cons_self
          simp [hfirst, Ne.symm hb]
        · exact ih (List.mem_cons_of_mem _ hp)

lemma toList_segments (h p s : String) :
    (h ++ "." ++ p ++ "." ++ s).toList = h.toList ++ '.' :: (p.toList ++ '.' :: s.toList) := by
  simp [String.toList_append]

/-- **Parsing yields the segments.** -/
lemma parse_eq_ok_iff : parse text = .ok t ↔ Splits text t := by
  rw [parse]
  constructor
  · intro h
    split at h
    · rename_i header payload signature hparts
      cases h
      have hmem : ∀ part ∈ [header, payload, signature], '.' ∉ part := fun part hp =>
        not_mem_of_mem_splitOn (hparts ▸ hp)
      have hlist : ['.'].intercalate (text.toList.splitOn '.') = text.toList :=
        List.intercalate_splitOn '.'
      refine ⟨?_, ?_, ?_, ?_⟩
      · rw [← String.toList_inj, toList_segments]
        simpa [hparts, List.intercalate] using hlist.symm
      · simpa using hmem header (by simp)
      · simpa using hmem payload (by simp)
      · simpa using hmem signature (by simp)
    · simp at h
  · rintro ⟨rfl, hh, hp, hs⟩
    rw [toList_segments, List.splitOn_append_cons_self_of_not_mem hh,
      List.splitOn_append_cons_self_of_not_mem hp, List.splitOn_eq_singleton hs]
    simp

/-- Parsing fails exactly if there are not two points. -/
lemma parse_eq_error_iff {e : Error} :
    parse text = .error e ↔ text.toList.count '.' ≠ 2 ∧ e = .format .segments := by
  have hlength := length_splitOn '.' text.toList
  rw [parse]
  split
  · rename_i hparts
    rw [hparts] at hlength
    have : text.toList.count '.' = 2 := by simpa using hlength.symm
    simp [this]
  · rename_i hparts
    have : text.toList.count '.' ≠ 2 := by
      intro htwo
      rw [htwo] at hlength
      obtain ⟨a, b, c, habc⟩ := List.length_eq_three.mp hlength
      exact hparts _ _ _ habc
    simp [this, eq_comm]

/-! ### Stages -/

/-- A text claims to be signed with the key under an id: its first segment is the text of a document
that reads as a header with the accepted algorithm and this id. -/
structure Claims (text : String) (t : Token) (kid : String) : Prop where
  splits : Splits text t
  header : ∃ document header, octets t.headerSegment = Base64.encode .urlSafe document
    ∧ Json.readDocument Header.read document = .ok header
    ∧ header.alg = some "RS256" ∧ header.kid = some kid

/-- A key is the first one under an id. -/
def FirstUnder (keys : List PublishedKey) (kid : String) (key : PublishedKey) : Prop :=
  ∃ before after, keys = before ++ key :: after ∧ key.kid = kid ∧ ∀ k ∈ before, k.kid ≠ kid

/-- **The verdict on a text**, if the source of keys answers so: it is accepted under a key id, or
gets the error of the first stage that fails. There is no verdict if the call is cancelled. -/
inductive Verdict (answer : Option (Except Error (List PublishedKey))) (text : String) :
    Option (Except Error String) → Prop where
  /-- There are not two points. -/
  | segments (h : text.toList.count '.' ≠ 2) :
      Verdict answer text (some (.error (.format .segments)))
  /-- The first segment cannot be decoded. -/
  | encoding {t : Token} {f : Base64.Fault} (hs : Splits text t)
      (hf : Base64.decode .segment (octets t.headerSegment) = .error f) :
      Verdict answer text (some (.error (.format (.header f))))
  /-- The first segment is the text of a document that does not read as a header. -/
  | header {t : Token} {document : List UInt8} {f : Json.Failure} (hs : Splits text t)
      (hd : octets t.headerSegment = Base64.encode .urlSafe document)
      (hf : Json.readDocument Header.read document = .error f) :
      Verdict answer text (some (.error (.json f)))
  /-- The header names another algorithm, or none. -/
  | algorithm {t : Token} {document : List UInt8} {header : Header} (hs : Splits text t)
      (hd : octets t.headerSegment = Base64.encode .urlSafe document)
      (hh : Json.readDocument Header.read document = .ok header)
      (ha : header.alg ≠ some "RS256") :
      Verdict answer text (some (.error (.format (.algorithm header.alg))))
  /-- The header names the algorithm, but no key id. -/
  | noKeyId {t : Token} {document : List UInt8} {header : Header} (hs : Splits text t)
      (hd : octets t.headerSegment = Base64.encode .urlSafe document)
      (hh : Json.readDocument Header.read document = .ok header)
      (ha : header.alg = some "RS256") (hk : header.kid = none) :
      Verdict answer text (some (.error (.format .noKeyId)))
  /-- The call to the source is cancelled. -/
  | abandoned {t : Token} {kid : String} (hc : Claims text t kid) (ha : answer = none) :
      Verdict answer text none
  /-- The source answers with an error. -/
  | source {t : Token} {kid : String} {e : Error} (hc : Claims text t kid)
      (ha : answer = some (.error e)) : Verdict answer text (some (.error e))
  /-- No key has the id. -/
  | unknown {t : Token} {kid : String} {keys : List PublishedKey} (hc : Claims text t kid)
      (ha : answer = some (.ok keys)) (hn : ∀ key ∈ keys, key.kid ≠ kid) :
      Verdict answer text (some (.error (.unknownKeyId kid)))
  /-- The first key under the id does not accept the signature. -/
  | signature {t : Token} {kid : String} {keys : List PublishedKey} {key : PublishedKey}
      {f : SignatureFault} (hc : Claims text t kid) (ha : answer = some (.ok keys))
      (hk : FirstUnder keys kid key) (hf : t.verifySignature key = .error (.signature f)) :
      Verdict answer text (some (.error (.signature f)))
  /-- The first key under the id accepts the signature. -/
  | accepted {t : Token} {kid : String} {keys : List PublishedKey} {key : PublishedKey}
      (hc : Claims text t kid) (ha : answer = some (.ok keys)) (hk : FirstUnder keys kid key)
      (hv : t.verifySignature key = .ok ()) : Verdict answer text (some (.ok kid))

/-- **A text is accepted under a key id** exactly if it claims this id, the source answers with
keys, and the first one under the id accepts the signature. -/
theorem Verdict.ok_iff {answer : Option (Except Error (List PublishedKey))} :
    Verdict answer text (some (.ok kid)) ↔ ∃ t keys key, Claims text t kid
      ∧ answer = some (.ok keys) ∧ FirstUnder keys kid key ∧ t.verifySignature key = .ok () := by
  constructor
  · rintro (_ | _ | _ | _ | _ | _ | _ | _ | _ | ⟨hc, ha, hk, hv⟩)
    exact ⟨_, _, _, hc, ha, hk, hv⟩
  · rintro ⟨t, keys, key, hc, ha, hk, hv⟩
    exact .accepted hc ha hk hv

/-! ### What comes of the stages -/

/-- What comes of a text, if the source of keys answers so. -/
def judge (answer : Option (Except Error (List PublishedKey))) (text : String) :
    Option (Except Error String) :=
  match claim text with
  | .error e => some (.error e)
  | .ok (t, kid) => answer.map fun r => r.bind fun keys => checkClaim t kid keys

lemma header_of_encode {document : List UInt8}
    (hd : octets t.headerSegment = Base64.encode .urlSafe document) :
    t.header = (Json.readDocument Header.read document).mapError .json := by
  rw [header, decodeSegment_eq_ok_iff.mpr hd]

lemma Claims.claim_eq (h : Claims text t kid) : claim text = .ok (t, kid) := by
  obtain ⟨document, header, hd, hh, ha, hk⟩ := h.header
  simp [claim, parse_eq_ok_iff.mpr h.splits, header_of_encode hd, hh, Header.claim, ha, hk, rs256,
    Except.mapError, Except.map]

/-- The first key under an id is selected. -/
lemma FirstUnder.select_eq (h : FirstUnder keys kid key) :
    PublishedKey.select keys kid = .ok key := by
  obtain ⟨before, after, hkeys, hkid, hbefore⟩ := h
  have hfind : PublishedKey.find? keys kid = some key :=
    List.find?_eq_some_iff_append.mpr
      ⟨by simpa using hkid, before, after, hkeys, by simpa using hbefore⟩
  rw [PublishedKey.select, hfind]

/-- Selecting a key fails if none has the id. -/
lemma select_of_forall_ne (h : ∀ key ∈ keys, key.kid ≠ kid) :
    PublishedKey.select keys kid = .error (.unknownKeyId kid) := by
  have hfind : PublishedKey.find? keys kid = none := by
    simpa [PublishedKey.find?] using h
  rw [PublishedKey.select, hfind]

/-- Some key is the first one under an id, or none has it. -/
lemma exists_firstUnder_or_forall_ne (keys : List PublishedKey) (kid : String) :
    (∃ key, FirstUnder keys kid key) ∨ ∀ key ∈ keys, key.kid ≠ kid := by
  cases hfind : PublishedKey.find? keys kid with
  | none => exact .inr (by simpa [PublishedKey.find?] using hfind)
  | some key =>
      obtain ⟨hkid, before, after, hkeys, hbefore⟩ := List.find?_eq_some_iff_append.mp hfind
      exact .inl ⟨key, before, after, hkeys, by simpa using hkid, by simpa using hbefore⟩

/-- There is a verdict on a text that claims a key id. -/
lemma Claims.verdict_judge {answer : Option (Except Error (List PublishedKey))}
    (h : Claims text t kid) : Verdict answer text (judge answer text) := by
  rw [judge, h.claim_eq]
  match answer with
  | none => exact .abandoned h rfl
  | some (.error e) => exact .source h rfl
  | some (.ok keys) =>
      show Verdict _ _ (some (checkClaim t kid keys))
      rcases exists_firstUnder_or_forall_ne keys kid with ⟨key, hkey⟩ | hnone
      · rw [checkClaim, hkey.select_eq]
        rcases verifySignature_cases t key with hv | ⟨f, hv⟩
        · simp only [hv]
          exact .accepted h rfl hkey hv
        · simp only [hv]
          exact .signature h rfl hkey hv
      · rw [checkClaim, select_of_forall_ne hnone]
        exact .unknown h rfl hnone

/-- **There is a verdict on every text**: what comes of the stages. -/
lemma verdict_judge (answer : Option (Except Error (List PublishedKey))) (text : String) :
    Verdict answer text (judge answer text) := by
  cases hparse : parse text with
  | error e =>
      obtain ⟨hcount, rfl⟩ := parse_eq_error_iff.mp hparse
      simp only [judge, claim, hparse]
      exact .segments hcount
  | ok t =>
      have hs := parse_eq_ok_iff.mp hparse
      cases hdecode : decodeSegment t.headerSegment with
      | error f =>
          simp only [judge, claim, hparse, header, hdecode]
          exact .encoding hs hdecode
      | ok document =>
          have hd := decodeSegment_eq_ok_iff.mp hdecode
          cases hread : Json.readDocument Header.read document with
          | error f =>
              simp only [judge, claim, hparse, header_of_encode hd, hread, Except.mapError]
              exact .header hs hd hread
          | ok header =>
              by_cases ha : header.alg = some "RS256"
              · cases hk : header.kid with
                | none =>
                    simp only [judge, claim, hparse, header_of_encode hd, hread, Except.mapError,
                      Header.claim, rs256, ha, hk, Except.map, ne_eq, not_true_eq_false, if_false]
                    exact .noKeyId hs hd hread ha hk
                | some kid => exact Claims.verdict_judge ⟨hs, document, header, hd, hread, ha, hk⟩
              · simp only [judge, claim, hparse, header_of_encode hd, hread, Except.mapError,
                  Header.claim, rs256, ha, Except.map, ne_eq, not_false_eq_true, if_true]
                exact .algorithm hs hd hread ha

/-- A text is refused before any key is asked for, exactly if it claims no key id. -/
lemma exists_claim_eq_error_iff :
    (∃ e, claim text = .error e) ↔ ¬ ∃ t kid, Claims text t kid := by
  constructor
  · rintro ⟨e, he⟩ ⟨t, kid, hc⟩
    rw [hc.claim_eq] at he
    cases he
  · intro hno
    cases hc : claim text with
    | error e => exact ⟨e, rfl⟩
    | ok c =>
        have hverdict := verdict_judge none text
        rw [judge, hc] at hverdict
        cases hverdict with
        | abandoned hclaims => exact absurd ⟨_, _, hclaims⟩ hno

/-- **There is no other verdict.** -/
lemma Verdict.judge_eq {answer : Option (Except Error (List PublishedKey))}
    {r : Option (Except Error String)} (h : Verdict answer text r) : judge answer text = r := by
  cases h with
  | segments h => simp [judge, claim, parse_eq_error_iff.mpr ⟨h, rfl⟩]
  | encoding hs hf =>
      have hdecode : decodeSegment _ = .error _ := hf
      simp [judge, claim, parse_eq_ok_iff.mpr hs, Token.header, hdecode]
  | header hs hd hf =>
      simp [judge, claim, parse_eq_ok_iff.mpr hs, header_of_encode hd, hf, Except.mapError]
  | algorithm hs hd hh ha =>
      simp [judge, claim, parse_eq_ok_iff.mpr hs, header_of_encode hd, hh, Except.mapError,
        Header.claim, rs256, ha, Except.map]
  | noKeyId hs hd hh ha hk =>
      simp [judge, claim, parse_eq_ok_iff.mpr hs, header_of_encode hd, hh, Except.mapError,
        Header.claim, rs256, ha, hk, Except.map]
  | abandoned hc ha => simp [judge, hc.claim_eq, ha]
  | source hc ha => simp [judge, hc.claim_eq, ha, Except.bind]
  | unknown hc ha hn =>
      simp [judge, hc.claim_eq, ha, Except.bind, checkClaim, select_of_forall_ne hn]
  | signature hc ha hk hf =>
      simp [judge, hc.claim_eq, ha, Except.bind, checkClaim, hk.select_eq, hf, Except.map]
  | accepted hc ha hk hv =>
      simp [judge, hc.claim_eq, ha, Except.bind, checkClaim, hk.select_eq, hv, Except.map]

/-- What comes of a text is the verdict on it. -/
lemma judge_eq_iff {answer : Option (Except Error (List PublishedKey))}
    {r : Option (Except Error String)} : judge answer text = r ↔ Verdict answer text r := by
  constructor
  · rintro rfl
    exact verdict_judge answer text
  · exact Verdict.judge_eq

/-- **Verifying a text gives the verdict on it**, and nothing else: for a source that fetches its
keys, by what it answers to this call, and for given keys. -/
theorem verify_verdict :
    (∀ {σ : Type} (send : Http.Transport σ) (s : Source) (call : Source.Call) (text : String)
        (net : σ) (r : Option (Except Error String)),
        (s.verify send call text net).1 = r ↔ Verdict (s.keys send call net).1 text r)
      ∧ ∀ (keys : List PublishedKey) (text : String) (r : Except Error String),
          verify keys text = r ↔ Verdict (some (.ok keys)) text (some r) := by
  constructor
  · intro σ send s call text net r
    rw [← judge_eq_iff, Source.verify, judge]
    cases claim text with
    | error e => rfl
    | ok c => rfl
  · intro keys text r
    rw [← judge_eq_iff, verify, judge]
    cases claim text with
    | error e => simp
    | ok c => simp [Except.bind]

end Keyring.Token
