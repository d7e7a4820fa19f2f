import Mathlib.Tactic
import Keyring.Proofs.Json.Unambiguous
import Keyring.Proofs.Source.Shared
import Keyring.Proofs.Token.Binding

/-!
The header of an accepted token can be read in one way only.

Every reader of the header finds the same algorithm and the same key id in it, whether it takes the
first member of a name or the last one, as there is one of each.

* `Header.declares_of_steps`, `Header.exists_lists`: what has been read stands there.
* `Header.Declares`, `Header.Lists`: a document names the accepted algorithm and a key id, as an
  object or as a list; `Header.exists_reading`: one of the two is there if they are read.
* `Header.OneReading`: a document can be read in one way only.
* `verify_one_reading`: the header of every accepted token can be read in one way only.
-/

namespace Keyring.Token

namespace Header

open Json (Blanks IsList IsObject IsString)

variable {name kid : String} {document s v : List UInt8} {p' : Parts} {f : Field}
  {ms : List (String × List UInt8)} {header : Header}

/-! ### Members -/

lemma answers_readText : Json.Answers readText Json.IsTextOrNull := Json.answers_readOptional

/-- Where a member is read, it stands. -/
lemma reads_readMember : Json.Reads readMember layout.Adds :=
  Json.Layout.reads_member (fun _ => answers_readText) passes

/-- A text that has been read of a member is told by it. -/
lemma exists_string_of_fate {text : String} (h : layout.Fate f Parts.empty ms p')
    (hpart : f.part p' = some (some text)) : ∃ v, (f.name, v) ∈ ms ∧ IsString v text := by
  cases h with
  | absent hnot hp =>
      have hempty : f.part Parts.empty = none := by cases f <;> rfl
      have hpart' : f.part p' = f.part Parts.empty := hp
      rw [hpart', hempty] at hpart
      cases hpart
  | @once v a hfree hv hcount ha hp =>
      have hpart' : f.part p' = some a := hp
      obtain rfl : a = some text := Option.some.inj (hpart'.symm.trans hpart)
      exact ⟨v, hv, ha⟩

/-- **An object that is read as a header** with the accepted algorithm and a key id names them. -/
lemma declares_of_steps (h : Json.Steps layout.Adds Parts.empty ms p')
    (hobject : IsObject document ms) (halg : p'.toHeader.alg = some "RS256")
    (hkid : p'.toHeader.kid = some kid) : Declares document ms kid := by
  have hfate := Json.Layout.fate_of_steps h
  refine ⟨hobject, exists_string_of_fate (hfate Field.alg) (Option.join_eq_some_iff.mp halg),
    exists_string_of_fate (hfate Field.kid) (Option.join_eq_some_iff.mp hkid), fun v hv => ?_, ?_⟩
  · cases hfate Field.typ with
    | absent hnot => exact absurd (List.mem_map_of_mem hv) hnot
    | once hfree hw hcount ha =>
        obtain rfl := Json.member_value_eq hcount.le hv hw
        exact ha.null_or_string
  · intro name hname
    simp only [List.mem_cons, List.not_mem_nil, or_false] at hname
    rcases hname with rfl | rfl | rfl
    · exact (hfate Field.alg).count_le
    · exact (hfate Field.kid).count_le
    · exact (hfate Field.typ).count_le

/-! ### Elements -/

/-- **A document names the accepted algorithm and a key id as a list**: these are its first two
elements, as texts, and there may be a third one, a text or null. -/
structure Lists (document : List UInt8) (elements : List (List UInt8)) (kid : String) : Prop where
  list : IsList document elements
  parts : ∃ v w rest, elements = v :: w :: rest ∧ IsString v "RS256" ∧ IsString w kid
    ∧ rest.length ≤ 1 ∧ ∀ u ∈ rest, u = Json.ascii "null" ∨ ∃ text, IsString u text

/-- **A list that is read as a header** with the accepted algorithm and a key id names them. -/
lemma exists_lists {b r : List UInt8} (hb : Blanks b) (hr : Blanks r)
    (h : Json.readList readElements s = .ok (header, r)) (halg : header.alg = some "RS256")
    (hkid : header.kid = some kid) : ∃ vs, Lists (b ++ Json.openList :: s) vs kid := by
  obtain ⟨t, d, hread, rfl, hd⟩ := Json.readList_eq_ok h
  obtain ⟨⟨alg, s₁⟩, h₁, hread⟩ := bind_eq_ok_iff.mp hread
  obtain ⟨⟨kid', s₂⟩, h₂, hread⟩ := bind_eq_ok_iff.mp hread
  obtain ⟨⟨typ, s₃⟩, h₃, hread⟩ := bind_eq_ok_iff.mp hread
  obtain ⟨rfl, rfl⟩ := Prod.mk.inj (Except.ok.inj hread)
  obtain rfl := Option.join_eq_some_iff.mp halg
  obtain rfl := Option.join_eq_some_iff.mp hkid
  -- What stands after the first two elements depends on whether there is a third one.
  have hrest : ∃ rest inside, s₂ = inside ++ Json.closeList :: r ∧ Json.Rest rest inside
      ∧ rest.length ≤ 1 ∧ ∀ u ∈ rest, u = Json.ascii "null" ∨ ∃ text, IsString u text := by
    cases typ with
    | none =>
        obtain ⟨c, rfl, hc⟩ := Json.readElement_none h₃
        exact ⟨[], c ++ d, by simp, .nil (hc.append hd), by simp, by simp⟩
    | some a =>
        obtain ⟨c, c', u, rfl, hc, hc', hu, htells⟩ := Json.readElement_next answers_readText h₃
        refine ⟨[u], c ++ Json.comma :: (c' ++ (u ++ d)), by simp, .cons hc (.last hc' hu hd),
          by simp, ?_⟩
        simpa using htells.null_or_string
  obtain ⟨rest, inside, rfl, hafter, hlength, hothers⟩ := hrest
  obtain ⟨b₁, v, rfl, hb₁, hv, hvtells⟩ := Json.readElement_first answers_readText h₁
  obtain ⟨c₂, b₂, w, rfl, hc₂, hb₂, hw, hwtells⟩ := Json.readElement_next answers_readText h₂
  have helements := Json.Elements.more hb₁ hv hc₂ (hafter.elements hb₂ hw)
  exact ⟨v :: w :: rest, ⟨b, _, r, by simp, hb, hr, .inr helements⟩, v, w, rest, rfl, hvtells,
    hwtells, hlength, hothers⟩

/-! ### Both forms -/

/-- **Where a header is read** with the accepted algorithm and a key id, an object names them or a
list. -/
theorem exists_reading (h : Json.readDocument read document = .ok header)
    (halg : header.alg = some "RS256") (hkid : header.kid = some kid) :
    (∃ ms, Declares document ms kid) ∨ ∃ vs, Lists document vs kid := by
  obtain ⟨r, hread, hr⟩ := Json.readDocument_eq_ok h
  obtain ⟨b, t, hb, ⟨rfl, hobject⟩ | ⟨rfl, hlist⟩⟩ := Json.readRecord_eq_ok hread
  · obtain ⟨s, ms, p, rfl, hms, hsteps, hp⟩ := Json.readObject_eq_ok reads_readMember hobject
    obtain rfl := Except.ok.inj hp
    exact .inl ⟨ms, declares_of_steps hsteps ⟨b, s, r, rfl, hb, hr, hms⟩ halg hkid⟩
  · exact .inr (exists_lists hb hr hlist halg hkid)

/-- The value of the first member of a name. -/
def firstValue (ms : List (String × List UInt8)) (name : String) : Option (List UInt8) :=
  ms.lookup name

/-- The value of the last member of a name. -/
def lastValue (ms : List (String × List UInt8)) (name : String) : Option (List UInt8) :=
  firstValue ms.reverse name

/-- A member whose name is there once is the first one of this name. -/
lemma firstValue_eq (honce : (ms.map Prod.fst).count name ≤ 1) (hv : (name, v) ∈ ms) :
    firstValue ms name = some v := by
  cases hw : firstValue ms name with
  | none =>
      have hnot := List.lookup_eq_none_iff.mp hw _ hv
      simp at hnot
  | some w =>
      obtain ⟨before, after, rfl, -⟩ := List.lookup_eq_some_iff.mp hw
      have hmem : (name, w) ∈ before ++ (name, w) :: after := by simp
      rw [Json.member_value_eq honce hv hmem]

lemma lastValue_eq (honce : (ms.map Prod.fst).count name ≤ 1) (hv : (name, v) ∈ ms) :
    lastValue ms name = some v :=
  firstValue_eq (by simpa [List.map_reverse] using honce) (List.mem_reverse.mpr hv)

/-- **A document can be read in one way only** as one that names the accepted algorithm and a key
id: either it is an object that names them, its members are determined, and the first member of each
of the two names has the same text as the last one; or it is a list that names them, and its
elements are determined. -/
inductive OneReading (document : List UInt8) (kid : String) : Prop where
  | object {ms : List (String × List UInt8)} (h : Declares document ms kid)
      (honly : ∀ ms', IsObject document ms' → ms' = ms) (hno : ∀ vs, ¬ IsList document vs)
      (halg : ∃ v, firstValue ms "alg" = some v ∧ lastValue ms "alg" = some v
        ∧ ∀ text, IsString v text ↔ text = "RS256")
      (hkid : ∃ v, firstValue ms "kid" = some v ∧ lastValue ms "kid" = some v
        ∧ ∀ text, IsString v text ↔ text = kid)
  | list {vs : List (List UInt8)} (h : Lists document vs kid)
      (honly : ∀ vs', IsList document vs' → vs' = vs) (hno : ∀ ms, ¬ IsObject document ms)

/-- A member that is a text and is there once is the first and the last one of its name. -/
lemma exists_seen {text : String} (honce : (ms.map Prod.fst).count name ≤ 1)
    (h : ∃ v, (name, v) ∈ ms ∧ IsString v text) :
    ∃ v, firstValue ms name = some v ∧ lastValue ms name = some v
      ∧ ∀ text', IsString v text' ↔ text' = text := by
  obtain ⟨v, hv, hstring⟩ := h
  refine ⟨v, firstValue_eq honce hv, lastValue_eq honce hv, fun text' => ?_⟩
  exact ⟨fun h => h.text_eq hstring, fun h => h ▸ hstring⟩

/-- **A header that is read** with the accepted algorithm and a key id can be read in one way
only. -/
theorem oneReading_of_read (h : Json.readDocument read document = .ok header)
    (halg : header.alg = some "RS256") (hkid : header.kid = some kid) :
    OneReading document kid := by
  rcases exists_reading h halg hkid with ⟨ms, hd⟩ | ⟨vs, hl⟩
  · exact .object hd (fun ms' h' => h'.members_eq hd.object) (fun vs => hd.object.not_isList)
      (exists_seen (hd.once "alg" (by simp)) hd.alg) (exists_seen (hd.once "kid" (by simp)) hd.kid)
  · exact .list hl (fun vs' h' => h'.elements_eq hl.list) fun ms h' => h'.not_isList hl.list

end Header

/-! ### Accepted tokens -/

variable {text kid : String} {document : List UInt8}

/-- A text has a header that can be read in one way only. -/
def ReadsOneWay (text kid : String) : Prop :=
  ∃ t document, parse text = .ok t ∧ decodeSegment t.headerSegment = .ok document
    ∧ Header.OneReading document kid

/-- A text that claims a key id has a header that can be read in one way only. -/
lemma Claims.readsOneWay {t : Token} (h : Claims text t kid) : ReadsOneWay text kid := by
  obtain ⟨document, header, hd, hread, halg, hkid⟩ := h.header
  exact ⟨t, document, parse_eq_ok_iff.mpr h.splits, decodeSegment_eq_ok_iff.mpr hd,
    Header.oneReading_of_read hread halg hkid⟩

lemma readsOneWay_of_judge {answer : Option (Except Error (List PublishedKey))}
    (h : judge answer text = some (.ok kid)) : ReadsOneWay text kid := by
  obtain ⟨t, -, -, hclaims, -⟩ := Verdict.ok_iff.mp (judge_eq_iff.mp h)
  exact hclaims.readsOneWay

/-- Verifying a text with a source judges it with the answer of the source. -/
lemma verify_fst {σ : Type} (send : Http.Transport σ) (s : Source) (call : Source.Call)
    (text : String) (net : σ) :
    (s.verify send call text net).1 = judge (s.keys send call net).1 text := by
  rw [Source.verify, judge]
  cases claim text with
  | error e => rfl
  | ok c => rfl

/-- Verifying a text with given keys judges it with these keys. -/
lemma some_verify (keys : List PublishedKey) (text : String) :
    some (verify keys text) = judge (some (.ok keys)) text := by
  rw [verify, judge]
  cases claim text with
  | error e => rfl
  | ok c => rfl

/-- **The header of an accepted token can be read in one way only**, whether it is accepted with the
keys of a source or with given keys: it is an object with one member `alg`, one member `kid` and at
most one member `typ`, in whatever spelling, order and company, or a list of two or three elements.
The values of other members need not be text in UTF-8; the names are. -/
theorem verify_one_reading :
    (∀ {σ : Type} (send : Http.Transport σ) (s : Source) (call : Source.Call) (text kid : String)
        (net : σ), (s.verify send call text net).1 = some (.ok kid) → ReadsOneWay text kid)
      ∧ ∀ (keys : List PublishedKey) (text kid : String),
          verify keys text = .ok kid → ReadsOneWay text kid := by
  constructor
  · intro σ send s call text kid net h
    exact readsOneWay_of_judge ((verify_fst send s call text net).symm.trans h)
  · intro keys text kid h
    exact readsOneWay_of_judge ((some_verify keys text).symm.trans (congrArg some h))

/-- A document that names the algorithm and a key id as an object, with an escape in a name. -/
def escapedHeader : List UInt8 :=
  Json.ascii "\x7b \"kid\":\"k\", \"\\u0061lg\": \"RS256\", \"typ\":null\x7d"

/-- A document that names them as a list. -/
def listHeader : List UInt8 := Json.ascii "[\"RS256\",\"k\"]"

/-- A source that has a key at hand for a minute. -/
def mersenneSource : Source :=
  { Source.sampleSource with snapshot := ⟨[mersennePublished], Source.sampleInstant 60⟩ }

/-- A token with this header and this signature. -/
def tokenOf (document signature : List UInt8) : String :=
  encodeSegment document ++ "." ++ "e30" ++ "." ++ encodeSegment signature

/-- With a header that names the algorithm and a key id, a token can be signed. -/
lemma exists_judge_tokenOf
    (h : Json.readDocument Header.read document = .ok ⟨some "RS256", some "k", none⟩) :
    ∃ signature,
      judge (some (.ok [mersennePublished])) (tokenOf document signature) = some (.ok "k") := by
  obtain ⟨signature, hv⟩ := exists_mersenneSignature (encodeSegment document) "e30"
  have hpayload : '.' ∉ "e30".toList := by decide
  have hsplits : Splits _ ⟨encodeSegment document, "e30", encodeSegment signature⟩ :=
    ⟨rfl, point_not_mem_of_octets (octets_encodeSegment document), hpayload,
      point_not_mem_of_octets (octets_encodeSegment signature)⟩
  have hclaims : Claims _ _ "k" :=
    ⟨hsplits, document, _, octets_encodeSegment document, h, rfl, rfl⟩
  have hfirst : FirstUnder [mersennePublished] "k" mersennePublished :=
    ⟨[], [], rfl, rfl, by simp⟩
  exact ⟨signature, judge_eq_iff.mpr (.accepted hclaims rfl hfirst hv)⟩

/-- A token with the first header is accepted with the keys of the source, and one with the second
with given keys; each header can be read in one way only. -/
theorem verify_one_reading_sample :
    ∃ signature signature',
      let call : Source.Call := .at (Source.sampleInstant 0) none false
      let text := tokenOf escapedHeader signature
      let text' := tokenOf listHeader signature'
      (mersenneSource.verify Http.Playback.send call text (.ofReplies [])).1 = some (.ok "k")
        ∧ verify [mersennePublished] text' = .ok "k"
        ∧ ReadsOneWay text "k" ∧ ReadsOneWay text' "k" := by
  have hescaped : Json.readDocument Header.read escapedHeader
      = .ok ⟨some "RS256", some "k", none⟩ := eq_ok_iff_toOption.mpr (by decide +kernel)
  have hlist : Json.readDocument Header.read listHeader
      = .ok ⟨some "RS256", some "k", none⟩ := eq_ok_iff_toOption.mpr (by decide +kernel)
  obtain ⟨signature, h⟩ := exists_judge_tokenOf hescaped
  obtain ⟨signature', h'⟩ := exists_judge_tokenOf hlist
  refine ⟨signature, signature', ?_⟩
  intro call text text'
  have hfresh : mersenneSource.snapshot.isStale call.begun = false := by decide +kernel
  have hsource : (mersenneSource.verify Http.Playback.send call text (.ofReplies [])).1
      = some (.ok "k") := by
    rw [verify_fst, Source.keys_of_not_isStale Http.Playback.send (.ofReplies []) hfresh]
    exact h
  have hgiven : verify [mersennePublished] text' = .ok "k" :=
    Option.some.inj ((some_verify _ text').trans h')
  exact ⟨hsource, hgiven, verify_one_reading.1 _ _ _ _ _ _ hsource,
    verify_one_reading.2 _ _ _ hgiven⟩

end Keyring.Token
