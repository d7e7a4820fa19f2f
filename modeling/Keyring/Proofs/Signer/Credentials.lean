import Mathlib.Tactic
import Keyring.Proofs.Json.Layout
import Keyring.Proofs.Json.Unambiguous
import Keyring.Proofs.Json.Writing
import Keyring.Proofs.Rsa.Factors
import Keyring.Signer

/-!
A signer is the same whether it is made of a document of credentials or of what stands in it.

* `Credentials.layout`: the two members that matter.
* `Credentials.Says`: a document says this address and this key, or none.
* `Credentials.Says.read_eq`: it is read so, whatever else it says.
* `Credentials.object_or_list`: where credentials are read, neither of the two is repeated.
* `Alike`: two signers that cannot be told apart.
* `document_or_parts`: the signer of a document is the signer of its address and its key.
-/

namespace Keyring.Signer

open Json (Blanks IsObject IsString IsTextOrNull)

namespace Credentials

/-! ### The members that matter -/

/-- The members that matter. -/
inductive Field where
  | email
  | key

/-- The name of a member. -/
def Field.name : Field → String
  | .email => "client_email"
  | .key => "private_key"

/-- The address is a text, and the key one or `null`. -/
def layout : Json.Layout readMember where
  Field := Field
  Value := fun
    | .email => String
    | .key => Option String
  name := Field.name
  part := fun
    | .email, p => p.email
    | .key, p => p.key
  put := fun
    | .email, p, a => { p with email := some a }
    | .key, p, a => { p with key := some a }
  read := fun
    | .email => Json.readString
    | .key => readText
  Tells := fun
    | .email => IsString
    | .key => IsTextOrNull
  name_injective := by
    intro f g h
    cases f <;> cases g <;> first | rfl | exact absurd h (by decide)
  part_put := by
    intro f p a
    cases f <;> rfl
  part_put_of_ne := by
    intro f g p a h
    cases f <;> cases g <;> first | rfl | exact absurd rfl h
  member_name := by
    intro f p s
    cases f with
    | email => rw [Field.name, readMember, if_pos rfl]
    | key => rw [Field.name, readMember, if_neg (by decide), if_pos rfl]
  read_append := by
    intro f v b r a h hb _
    cases f with
    | email => exact (Json.readTextAs_blanks hb _).trans (Json.readString_append h r)
    | key => exact Json.readOptional_append h hb r

/-- The others are passed over. -/
lemma passes {name : String} (h : ∀ f : layout.Field, name ≠ layout.name f) :
    Json.Passes readMember name := by
  intro p s
  have hemail : name ≠ "client_email" := h Field.email
  have hkey : name ≠ "private_key" := h Field.key
  rw [readMember, if_neg hemail, if_neg hkey]

/-- Where a value of one that matters is read, it stands. -/
lemma answers (f : layout.Field) : Json.Answers (layout.read f) (layout.Tells f) := by
  cases f with
  | email => exact Json.answers_readString
  | key => exact Json.answers_readOptional

/-! ### What a document says -/

/-- **A document says this address and this key.** It is an object in which no member of either name
is repeated. The address is a text, and empty if there is no such member; the key is a text, and
none if there is no such member or it is `null`. There may be any other members, with any values, in
any order, and texts may be written with or without escapes. -/
structure Says (document : List UInt8) (ms : List (String × List UInt8)) (email : String)
    (key : Option String) : Prop where
  object : IsObject document ms
  once : ∀ f : Field, (ms.map Prod.fst).count f.name ≤ 1
  email : (∃ v, (Field.email.name, v) ∈ ms ∧ IsString v email)
    ∨ Field.email.name ∉ ms.map Prod.fst ∧ email = ""
  key : (∃ v, (Field.key.name, v) ∈ ms ∧ IsTextOrNull v key)
    ∨ Field.key.name ∉ ms.map Prod.fst ∧ key = none

variable {document : List UInt8} {ms : List (String × List UInt8)} {email : String}
  {key : Option String} {p : Parts} {c : Credentials}

namespace Says

/-- Each member of a document that says an address and a key can be read. -/
lemma admits (h : Says document ms email key) {name : String} {v : List UInt8}
    (hv : (name, v) ∈ ms) : layout.Admits name v := by
  have habsent : ∀ {f : Field} {v}, (f.name, v) ∈ ms → f.name ∉ ms.map Prod.fst → False :=
    fun hv hnot => hnot (List.mem_map_of_mem (f := Prod.fst) hv)
  refine Json.Layout.admits passes (h.object.written hv) fun f hf => ?_
  subst hf
  cases f with
  | email =>
      rcases h.email with ⟨w, hw, hstring⟩ | ⟨hnot, -⟩
      · obtain rfl := Json.member_value_eq (h.once .email) hv hw
        exact ⟨email, hstring⟩
      · exact (habsent (f := Field.email) hv hnot).elim
  | key =>
      rcases h.key with ⟨w, hw, htells⟩ | ⟨hnot, -⟩
      · obtain rfl := Json.member_value_eq (h.once .key) hv hw
        exact ⟨key, htells⟩
      · exact (habsent (f := Field.key) hv hnot).elim

/-- **A document that says an address and a key is read as these.** -/
theorem read_eq (h : Says document ms email key) :
    Json.readDocument read document = .ok ⟨email, key⟩ := by
  obtain ⟨p, hp⟩ := Json.Layout.exists_gathers (L := layout) ms Parts.empty h.admits h.once
    fun f _ => by cases f <;> rfl
  have hemail : p.email.getD "" = email := by
    rcases h.email with ⟨v, hv, hstring⟩ | ⟨hnot, rfl⟩
    · have hpart : p.email = some email := hp.told (f := Field.email) hv hstring
      rw [hpart, Option.getD_some]
    · have hpart : p.email = none := hp.rest Field.email hnot
      rw [hpart, Option.getD_none]
  have hkey : p.key.join = key := by
    rcases h.key with ⟨v, hv, htells⟩ | ⟨hnot, rfl⟩
    · have hpart : p.key = some key := hp.told (f := Field.key) hv htells
      rw [hpart, Option.join_some]
    · have hpart : p.key = none := hp.rest Field.key hnot
      rw [hpart, Option.join_none]
  rw [← hemail, ← hkey]
  exact Json.readDocument_object h.object hp.takes rfl

end Says

/-! ### Documents that are read -/

/-- **Where credentials are read, an object stands** in which no member that matters is repeated, or
a list. -/
theorem object_or_list (h : Json.readDocument read document = .ok c) :
    (∃ ms, IsObject document ms ∧ ∀ f : Field, (ms.map Prod.fst).count f.name ≤ 1)
      ∨ ∃ b s, Blanks b ∧ document = b ++ Json.openList :: s := by
  obtain ⟨r, hread, hr⟩ := Json.readDocument_eq_ok h
  obtain ⟨b, t, hb, ⟨rfl, hobject⟩ | ⟨rfl, -⟩⟩ := Json.readRecord_eq_ok hread
  · obtain ⟨s, ms, p, rfl, hms, hsteps, -⟩ :=
      Json.readObject_eq_ok (Json.Layout.reads_member (L := layout) answers passes) hobject
    exact .inl ⟨ms, ⟨b, s, r, rfl, hb, hr, hms⟩,
      fun f => (Json.Layout.fate_of_steps hsteps f).count_le⟩
  · exact .inr ⟨b, t, hb, rfl⟩

/-- Where a member that matters is repeated, no credentials are read. -/
lemma exists_failure (h : IsObject document ms) {f : Field}
    (hrepeated : 1 < (ms.map Prod.fst).count f.name) :
    ∃ failure, Json.readDocument read document = .error failure := by
  cases hread : Json.readDocument read document with
  | error failure => exact ⟨failure, rfl⟩
  | ok c =>
      rcases object_or_list hread with ⟨ms', hobject, honce⟩ | ⟨b, t, hb, heq⟩
      · obtain rfl := h.members_eq hobject
        exact absurd hrepeated (honce f).not_gt
      · obtain ⟨b', s, d, hdocument, hb', -⟩ := h
        have hopen := (Json.blanks_inj hb hb' (by decide) (by decide) (heq.symm.trans hdocument)).1
        exact absurd hopen (by decide)

end Credentials

/-! ### Signers -/

variable {document : List UInt8} {ms : List (String × List UInt8)} {email pem : String}
  {s s' : Signer}

/-- **Two signers cannot be told apart**: they have the same address, both have a key or neither,
and they sign every content with the same octets, or fail alike. Where a key is made of two primes,
this is so even if one blinds with another factor than the other. -/
structure Alike (s s' : Signer) : Prop where
  identity : s.identity = s'.identity
  hasKey : s.hasKey = s'.hasKey
  sign : ∀ blinding content, s.sign blinding content = s'.sign blinding content
  blinded : ∀ key, s.key = some key → key.IsProper → ∀ b b' : ℕ,
    b.Coprime key.publicKey.modulus → b'.Coprime key.publicKey.modulus →
      ∀ content, s.sign b content = s'.sign b' content

/-- With a key that is made of two primes the blinding makes no difference. -/
lemma sign_blinding_eq {key : Rsa.PrivateKey} (hs : s.key = some key) (hkey : key.IsProper)
    {b b' : ℕ} (hb : b.Coprime key.publicKey.modulus) (hb' : b'.Coprime key.publicKey.modulus)
    (content : List UInt8) : s.sign b content = s.sign b' content := by
  rw [sign, sign, hs]
  dsimp only
  by_cases hroom : Rsa.leastSize ≤ key.publicKey.size
  · rw [hkey.sign_eq hroom hb, hkey.sign_eq hroom hb']
  · have hshort : key.publicKey.size < Rsa.leastSize := not_le.mp hroom
    simp only [Rsa.PrivateKey.sign, hshort, if_true]

/-- A signer cannot be told apart from itself. -/
lemma Alike.refl (s : Signer) : Alike s s where
  identity := rfl
  hasKey := rfl
  sign := fun _ _ => rfl
  blinded := fun _ hs hkey _ _ hb hb' => sign_blinding_eq hs hkey hb hb'

/-- **A signer is the same whichever way it is made.** A document that says an address and a key
makes the signer that these two make, with the same fault if the key is none. One that says no key,
or `null`, always makes the signer of this address without a key, and where it says no address
either, this is the empty one. A document that is an object and repeats one of the two members makes
no signer. -/
theorem document_or_parts (document : List UInt8) (ms : List (String × List UInt8)) :
    (∀ email pem, Credentials.Says document ms email (some pem) →
        ofDocument document = ofPem email pem
          ∧ ∀ s s', ofDocument document = .ok s → ofPem email pem = .ok s' → Alike s s')
      ∧ (∀ email, Credentials.Says document ms email none →
        ofDocument document = .ok ⟨email, none⟩)
      ∧ (IsObject document ms → ∀ name ∈ ["client_email", "private_key"],
        1 < (ms.map Prod.fst).count name →
          ∃ failure, ofDocument document = .error (.json failure)) := by
  refine ⟨fun email pem h => ?_, fun email h => ?_, fun h name hname hrepeated => ?_⟩
  · have heq : ofDocument document = ofPem email pem := by
      rw [ofDocument, h.read_eq]
    refine ⟨heq, fun s s' hs hs' => ?_⟩
    obtain rfl : s = s' := Except.ok.inj (hs.symm.trans (heq.trans hs'))
    exact .refl s
  · rw [ofDocument, h.read_eq]
  · obtain ⟨f, rfl⟩ : ∃ f : Credentials.Field, name = f.name := by
      simp only [List.mem_cons, List.not_mem_nil, or_false] at hname
      rcases hname with rfl | rfl
      · exact ⟨.email, rfl⟩
      · exact ⟨.key, rfl⟩
    obtain ⟨failure, hread⟩ := Credentials.exists_failure h hrepeated
    exact ⟨failure, by rw [ofDocument, hread]⟩

/-- The key of two Mersenne primes beside a member that is not read; no key and no address; and
an address that is said twice. -/
theorem document_or_parts_sample :
    let pem := Rsa.armoured (Rsa.mersenneKey.toNumbers [0, 0, 0])
    let both : List (String × Json.Value) :=
      [("type", .null), ("private_key", .text pem), ("client_email", .text "a")]
    let neither : List (String × Json.Value) := [("private_key", .null)]
    let twice : List (String × Json.Value) :=
      [("client_email", .text "a"), ("client_email", .text "b")]
    ofDocument (Json.Value.object both).octets = .ok ⟨"a", some Rsa.mersenneKey⟩
      ∧ ofDocument (Json.Value.object neither).octets = .ok ⟨"", none⟩
      ∧ ∃ failure, ofDocument (Json.Value.object twice).octets = .error (.json failure) := by
  intro pem both neither twice
  have hboth : Credentials.Says (Json.Value.object both).octets (Json.writtenMembers both) "a"
      (some pem) := by
    refine ⟨Json.isObject_write (by simp [both, Json.written_null, Json.written_text]),
      fun f => by cases f <;> decide, .inl ⟨_, ?_, Json.isString_writeText "a"⟩,
      .inl ⟨_, ?_, Json.isString_writeText pem⟩⟩
    · simp [both, Json.writtenMembers, Credentials.Field.name, Json.Value.octets, Json.Value.write]
    · simp [both, Json.writtenMembers, Credentials.Field.name, Json.Value.octets, Json.Value.write]
  have hneither : Credentials.Says (Json.Value.object neither).octets (Json.writtenMembers neither)
      "" none :=
    ⟨Json.isObject_write (by simp [neither, Json.written_null]), fun f => by cases f <;> decide,
      .inr ⟨by decide, rfl⟩, .inl ⟨_, List.mem_cons_self, rfl⟩⟩
  have htwice : IsObject (Json.Value.object twice).octets (Json.writtenMembers twice) :=
    Json.isObject_write (by simp [twice, Json.written_text])
  obtain ⟨hsame, -, -⟩ := document_or_parts (Json.Value.object both).octets _
  obtain ⟨-, hnone, -⟩ := document_or_parts (Json.Value.object neither).octets _
  obtain ⟨-, -, hrefused⟩ := document_or_parts (Json.Value.object twice).octets _
  refine ⟨?_, hnone "" hneither, hrefused htwice "client_email" (by simp) (by decide)⟩
  rw [(hsame "a" pem hboth).1, ofPem, Rsa.ofPem_mersenneKey]
  rfl

end Keyring.Signer
