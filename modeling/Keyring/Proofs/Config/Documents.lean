import Mathlib.Tactic
import Keyring.Proofs.Config.Settings
import Keyring.Source

/-!
A configuration comes back from the document that is written of it.

* `Config.members`: what is written of a configuration.
* `Config.of_complete_of_none`: the values for what is missing are the usual ones.
* `Config.Shows`: a document shows a configuration without some of its values;
  `Config.Shows.ofDocument_eq`: it is read with the usual ones for these.
* `Config.comes_back`: so the ways to make a configuration agree.
-/

namespace Keyring.Config

open Json (IsObject IsString Written)

variable {c : Config} {s : Setting}

/-! ### What is written -/

/-- What is written of one member. -/
def Field.written (c : Config) : Field → Json.Value
  | .keyUrl => .text c.keyUrl.render
  | .setting .requireHttps => .bool c.requireHttps
  | .setting .maxResponseBytes => .natural c.maxResponseBytes
  | .setting .fetchTimeout => c.fetchTimeout.toValue
  | .setting .failurePolicy => .text c.failurePolicy.name
  | .setting .staleWhileError => c.staleWhileError.toValue

lemma Field.written_written (c : Config) (f : Field) : Written .value (f.written c).octets := by
  cases f with
  | keyUrl => exact Json.written_text _
  | setting s =>
      cases s with
      | requireHttps => exact Json.written_bool _
      | maxResponseBytes => exact Json.written_natural _
      | fetchTimeout => exact c.fetchTimeout.written_toValue
      | failurePolicy => exact Json.written_text _
      | staleWhileError => exact c.staleWhileError.written_toValue

/-- What is written of a value tells it. -/
lemma tells_written (c : Config) (s : Setting) :
    (Field.setting s).Tells ((Field.setting s).written c).octets (s.of c) := by
  cases s with
  | requireHttps => exact rfl
  | maxResponseBytes => exact Json.isNatural_natural _
  | fetchTimeout => exact c.fetchTimeout.says_toValue
  | failurePolicy => exact Json.isString_writeText _
  | staleWhileError => exact c.staleWhileError.says_toValue

/-- The members that are written of a configuration, in order. -/
def members (c : Config) : List (String × List UInt8) :=
  Field.all.map fun f => (f.name, (f.written c).octets)

/-- The document that is written is an object of these members. -/
lemma isObject_toValue (c : Config) : IsObject c.toValue.octets c.members := by
  have hvalue : c.toValue = .object (Field.all.map fun f => (f.name, f.written c)) := rfl
  have hmembers : c.members
      = Json.writtenMembers (Field.all.map fun f => (f.name, f.written c)) := by
    rw [members, Json.writtenMembers, List.map_map]
    rfl
  rw [hvalue, hmembers]
  refine Json.isObject_write fun m hm => ?_
  obtain ⟨f, -, rfl⟩ := List.mem_map.mp hm
  exact f.written_written c

lemma names_members (c : Config) : c.members.map Prod.fst = Field.all.map Field.name := by
  rw [members, List.map_map]
  rfl

/-- A member is among them with what is written of it only. -/
lemma mem_members_iff {f : Field} {v : List UInt8} :
    (f.name, v) ∈ c.members ↔ v = (f.written c).octets := by
  constructor
  · intro h
    obtain ⟨g, -, heq⟩ := List.mem_map.mp h
    obtain ⟨hname, rfl⟩ := Prod.mk.inj heq
    rw [Field.name_injective hname]
  · rintro rfl
    exact List.mem_map.mpr ⟨f, f.mem_all, rfl⟩

/-! ### What is read -/

variable {p : Parts} {url : Url}

/-- A value that has been read is that of the configuration. -/
lemma of_complete_of_some (h : (Field.setting s).part p = some (s.of c)) :
    s.of (p.complete url) = s.of c := by
  cases s with
  | requireHttps => exact (congrArg (Option.getD · true) h)
  | maxResponseBytes =>
      have hpart : p.maxResponseBytes = some c.maxResponseBytes.toNat := h
      change ((p.maxResponseBytes.map UInt64.ofNat).getD defaultMaxResponseBytes).toNat
        = c.maxResponseBytes.toNat
      rw [hpart, Option.map_some, Option.getD_some, UInt64.ofNat_toNat]
  | fetchTimeout => exact (congrArg (Option.getD · defaultFetchTimeout) h)
  | failurePolicy => exact (congrArg (Option.getD · .clear) h)
  | staleWhileError => exact (congrArg (Option.getD · defaultStaleWhileError) h)

/-- **The values for what is missing are the usual ones**, those of a configuration for the same
address. -/
lemma of_complete_of_none (h : (Field.setting s).part p = none) :
    s.of (p.complete url) = s.of (forUrl url) := by
  cases s with
  | requireHttps => exact (congrArg (Option.getD · true) h)
  | maxResponseBytes =>
      have hpart : p.maxResponseBytes = none := h
      change ((p.maxResponseBytes.map UInt64.ofNat).getD defaultMaxResponseBytes).toNat
        = defaultMaxResponseBytes.toNat
      rw [hpart, Option.map_none, Option.getD_none]
  | fetchTimeout => exact (congrArg (Option.getD · defaultFetchTimeout) h)
  | failurePolicy => exact (congrArg (Option.getD · .clear) h)
  | staleWhileError => exact (congrArg (Option.getD · defaultStaleWhileError) h)

/-- **A document shows a configuration without some of its values.** It is an object with the
address and the values that were not removed, each once, as they are written; texts may be written
with or without escapes, and a length of time with its members in either order. There may be any
other members, with any values, and all in any order. -/
structure Shows (document : List UInt8) (ms : List (String × List UInt8)) (c : Config)
    (removed : List Setting) : Prop where
  object : IsObject document ms
  once : ∀ f : Field, (∀ s ∈ removed, f ≠ .setting s) → (ms.map Prod.fst).count f.name = 1
  absent : ∀ s ∈ removed, s.name ∉ ms.map Prod.fst
  keyUrl : ∀ {v}, (Field.keyUrl.name, v) ∈ ms → IsString v c.keyUrl.render
  setting : ∀ {s : Setting} {v}, (s.name, v) ∈ ms → (Field.setting s).Tells v (s.of c)

namespace Shows

variable {removed : List Setting} {document : List UInt8} {ms : List (String × List UInt8)}

/-- A member that was not removed is there. -/
lemma exists_mem (h : Shows document ms c removed) {f : Field}
    (hf : ∀ s ∈ removed, f ≠ .setting s) : ∃ v, (f.name, v) ∈ ms := by
  have hmem : f.name ∈ ms.map Prod.fst := List.count_pos_iff.mp (by rw [h.once f hf]; exact one_pos)
  obtain ⟨⟨name, v⟩, hv, rfl⟩ := List.mem_map.mp hmem
  exact ⟨v, hv⟩

/-- No member is there twice. -/
lemma count_le (h : Shows document ms c removed) (f : Field) :
    (ms.map Prod.fst).count f.name ≤ 1 := by
  by_cases hf : ∃ s ∈ removed, f = .setting s
  · obtain ⟨s, hs, rfl⟩ := hf
    rw [show (Field.setting s).name = s.name from rfl, List.count_eq_zero.mpr (h.absent s hs)]
    exact Nat.zero_le 1
  · exact (h.once f fun s hs heq => hf ⟨s, hs, heq⟩).le

/-- **A document that shows a configuration but for some members is read** as the configuration with
the usual values for these. -/
theorem ofDocument_eq (h : Shows document ms c removed)
    (hurl : Url.parse c.keyUrl.render = .ok c.keyUrl) :
    ofDocument document = .ok (c.resetting removed (forUrl c.keyUrl)) := by
  have htells : ∀ {v}, (Field.keyUrl.name, v) ∈ ms → Field.keyUrl.Tells v c.keyUrl :=
    fun hv => ⟨_, h.keyUrl hv, hurl⟩
  obtain ⟨p, hp⟩ := Json.Layout.exists_gathers (L := layout) ms Parts.empty
    (fun {name v} hv => by
      refine Json.Layout.admits passes (h.object.written hv) fun f hf => ?_
      subst hf
      cases f with
      | keyUrl => exact ⟨c.keyUrl, htells hv⟩
      | setting s => exact ⟨s.of c, h.setting hv⟩)
    h.count_le
    fun f _ => by
      cases f with
      | keyUrl => rfl
      | setting s => cases s <;> rfl
  have hread : p.keyUrl = some c.keyUrl := by
    obtain ⟨v, hv⟩ := h.exists_mem (f := .keyUrl) fun _ _ heq => Field.noConfusion heq
    exact hp.told (f := Field.keyUrl) hv (htells hv)
  -- a setting that was removed takes its usual value, any other one what its member tells
  have hsettings : ∀ s : Setting,
      s.of (p.complete c.keyUrl) = s.of (c.resetting removed (forUrl c.keyUrl)) := by
    intro s
    rw [of_resetting]
    by_cases hs : s ∈ removed
    · have hnone : (Field.setting s).part p = none := by
        refine (hp.rest (Field.setting s) (h.absent s hs)).trans ?_
        cases s <;> rfl
      rw [if_pos hs, of_complete_of_none hnone]
    · obtain ⟨v, hv⟩ := h.exists_mem (f := .setting s) fun t ht heq => by
        cases heq
        exact hs ht
      rw [if_neg hs, of_complete_of_some (hp.told (f := Field.setting s) hv (h.setting hv))]
  have hfinish : p.finish = .ok (c.resetting removed (forUrl c.keyUrl)) := by
    rw [Parts.finish, hread]
    dsimp only
    rw [eq_of_settings (by rw [keyUrl_resetting]; rfl) hsettings]
  have hdocument : Json.readDocument read document = .ok (c.resetting removed (forUrl c.keyUrl)) :=
    Json.readDocument_object h.object hp.takes hfinish
  rw [ofDocument, hdocument]
  rfl

end Shows

/-- The document that is written shows the whole configuration. -/
lemma shows_toValue (c : Config) : Shows c.toValue.octets c.members c [] where
  object := c.isObject_toValue
  once := fun f _ => by
    rw [names_members]
    cases f with
    | keyUrl => decide
    | setting s => cases s <;> decide
  absent := fun s hs => absurd hs List.not_mem_nil
  keyUrl := fun {v} hv => by
    obtain rfl := mem_members_iff.mp hv
    exact Json.isString_writeText _
  setting := fun {s v} hv => by
    obtain rfl := (mem_members_iff (f := .setting s)).mp hv
    exact tells_written c s

/-- All the values. -/
def Setting.all : List Setting :=
  [.requireHttps, .maxResponseBytes, .fetchTimeout, .failurePolicy, .staleWhileError]

/-- **The ways to make a configuration agree**, if the address that is written is read as itself.

Every configuration is the one with the usual values for its address with all values set. It comes
back from the document that is written of it. If the members of some values are removed from this
document, then what is read is the configuration with exactly these values as usual, in whatever
order the other members stand, and whatever members with other names stand between them. And what
comes back can be used, and a source can be made of it, exactly if this is so for the original, with
the same fault otherwise. -/
theorem comes_back (c : Config) (hurl : Url.parse c.keyUrl.render = .ok c.keyUrl) :
    ofDocument c.toValue.octets = .ok c
      ∧ (∃ fresh, ofUrl c.keyUrl.render = .ok fresh ∧ fresh.resetting Setting.all c = c
        ∧ ∀ (removed : List Setting) (document : List UInt8) (ms : List (String × List UInt8)),
          Shows document ms c removed → ofDocument document = .ok (c.resetting removed fresh))
      ∧ ∀ c', ofDocument c.toValue.octets = .ok c' →
        c'.validate = c.validate
          ∧ ∀ client, Source.ofConfig c' client = Source.ofConfig c client := by
  have hwhole : ofDocument c.toValue.octets = .ok c :=
    c.shows_toValue.ofDocument_eq hurl
  refine ⟨hwhole, ⟨forUrl c.keyUrl, ?_, rfl, fun removed document ms h => h.ofDocument_eq hurl⟩,
    fun c' hc' => ?_⟩
  · rw [ofUrl, hurl]
  · obtain rfl : c = c' := Except.ok.inj (hwhole.symm.trans hc')
    exact ⟨rfl, fun _ => rfl⟩

/-- A configuration with the greatest bound and the greatest lengths of time. -/
def extreme : Config where
  keyUrl := ⟨"https", some ⟨"", none, some (.eight [0, 0, 0, 0, 0, 0, 0, 1]), none⟩, .steps ["k"],
    none, none⟩
  requireHttps := false
  maxResponseBytes := 18446744073709551615
  fetchTimeout := { seconds := 18446744073709551615, nanos := 999999999 }
  failurePolicy := .serveStale
  staleWhileError := { seconds := 18446744073709551615, nanos := 999999999 }

/-- The extreme configuration comes back, and a document with its address alone is read with the
usual values. -/
theorem comes_back_sample :
    Url.parse extreme.keyUrl.render = .ok extreme.keyUrl
      ∧ ofDocument extreme.toValue.octets = .ok extreme
      ∧ ofDocument (Json.Value.object [("key_url", .text extreme.keyUrl.render)]).octets
        = .ok (forUrl extreme.keyUrl) := by
  have hurl : Url.parse extreme.keyUrl.render = .ok extreme.keyUrl := by decide +kernel
  obtain ⟨hwhole, ⟨fresh, hfresh, -, hremoved⟩, -⟩ := comes_back extreme hurl
  obtain rfl : forUrl extreme.keyUrl = fresh := by
    rw [ofUrl, hurl] at hfresh
    exact Except.ok.inj hfresh
  have hshows : Shows (Json.Value.object [("key_url", .text extreme.keyUrl.render)]).octets
      (Json.writtenMembers [("key_url", .text extreme.keyUrl.render)]) extreme Setting.all := by
    have hname : ∀ s : Setting, s.name ≠ "key_url" := fun s => by cases s <;> decide
    refine ⟨Json.isObject_write (by simp [Json.written_text]), fun f hf => ?_, fun s _ => ?_,
      fun hv => ?_, fun {s v} hv => ?_⟩
    · cases f with
      | keyUrl => rfl
      | setting s => exact absurd rfl (hf s (by cases s <;> decide))
    · simp [Json.writtenMembers, hname s]
    · obtain rfl := (Prod.mk.inj (List.mem_singleton.mp hv)).2
      exact Json.isString_writeText _
    · exact absurd (Prod.mk.inj (List.mem_singleton.mp hv)).1 (hname s)
  exact ⟨hurl, hwhole, hremoved Setting.all _ _ hshows⟩

end Keyring.Config
