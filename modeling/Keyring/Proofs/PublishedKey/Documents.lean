import Mathlib.Tactic
import Keyring.Snapshot
import Keyring.Proofs.Json.TextMap
import Keyring.Proofs.PublishedKey.Entries

/-!
Key documents: which of them are accepted, and what is found in their keys.

A document is an object of texts. It may give an id several times, and then the last value counts;
nothing is asked of the values before it.

* `Lists`: a list of keys that is the map of a document, in the order of the ids.
* `Lists.unique`, `Lists.find?_eq_some`, `Lists.find?_eq_none`: it is told by the map, and the first
  key under an id is the one.
* `ofEntries_entries_eq_ok_iff`: a document has this list if all of its ids have keys.
* `document_read_as_map`: what becomes of a document is told by its map.
* `IsShown`, `IsHidden`: whether a later value of an id hides one before it.
* `document_accepted_iff_shown`: a document can be accepted although one of its values is no key,
  but only if that value is hidden.
-/

namespace Keyring.PublishedKey

variable {members : List (String × String)} {keys keys' : List PublishedKey} {kid value : String}
  {key : PublishedKey} {document : List UInt8}

/-! ### Keys of a map -/

/-- **A list of the keys of a map**, in the order of the octets of their ids. -/
structure Lists (members : List (String × String)) (keys : List PublishedKey) : Prop where
  /-- they stand in order, each id once -/
  sorted : keys.Pairwise fun a b => Utf8.encode a.kid.toList < Utf8.encode b.kid.toList
  /-- they are the keys of the ids that were given -/
  mem_iff : ∀ {key}, key ∈ keys ↔ ∃ value, lastValue? members key.kid = some value
    ∧ ofPem key.kid (Utf8.encode value.toList) = .ok key

namespace Lists

/-- The members of a document have one list of keys. -/
lemma unique (h : Lists members keys) (h' : Lists members keys') : keys = keys' := by
  have hnodup : ∀ {keys}, Lists members keys → keys.Nodup := by
    intro keys h
    refine h.sorted.imp ?_
    rintro a _ hlt rfl
    exact List.lt_irrefl _ hlt
  have hperm : keys.Perm keys' := by
    refine (List.perm_ext_iff_of_nodup (hnodup h) (hnodup h')).mpr fun key => ?_
    rw [h.mem_iff, h'.mem_iff]
  exact hperm.eq_of_pairwise (fun _ _ _ _ hlt hgt => absurd hgt (List.lt_asymm hlt)) h.sorted
    h'.sorted

/-- The first key under an id is the key of its last value. -/
lemma find?_eq_some (h : Lists members keys) (hv : lastValue? members kid = some value)
    (hk : ofPem kid (Utf8.encode value.toList) = .ok key) : find? keys kid = some key := by
  obtain rfl := kid_of_ofPem hk
  have hmem : key ∈ keys := h.mem_iff.mpr ⟨value, hv, hk⟩
  cases hf : find? keys key.kid with
  | none => simpa using List.find?_eq_none.mp hf key hmem
  | some found =>
      have hkid : found.kid = key.kid := by simpa using List.find?_some hf
      obtain ⟨value', hv', hk'⟩ := h.mem_iff.mp (List.mem_of_find?_eq_some hf)
      rw [hkid] at hv' hk'
      obtain rfl : value = value' := Option.some.inj (hv.symm.trans hv')
      rw [Except.ok.inj (hk'.symm.trans hk)]

/-- Under another id there is none. -/
lemma find?_eq_none (h : Lists members keys) (hv : lastValue? members kid = none) :
    find? keys kid = none := by
  refine List.find?_eq_none.mpr fun key hmem => ?_
  obtain ⟨value, hvalue, -⟩ := h.mem_iff.mp hmem
  simp only [decide_eq_true_eq]
  rintro rfl
  rw [hv] at hvalue
  cases hvalue

end Lists

/-- The keys that entries have are those of the map. -/
lemma lists_of_ofEntries (h : ofEntries (entries members) = .ok keys) : Lists members keys := by
  have hmap := mapM_eq_ok_iff.mp h
  constructor
  · -- a key is under the id of its entry, so the keys stand as the entries do
    have hpairwise : (keys.map Except.ok).Pairwise fun a b : Except Error PublishedKey =>
        ∀ k k', a = .ok k → b = .ok k' → k.kid < k'.kid := by
      rw [← hmap, List.pairwise_map]
      refine (entries_sorted members).imp fun hlt k k' hk hk' => ?_
      rwa [kid_of_ofPem hk, kid_of_ofPem hk']
    exact (List.pairwise_map.mp hpairwise).imp fun h => Utf8.encode_lt_iff.mpr (h _ _ rfl rfl)
  · intro key
    have hok : key ∈ keys ↔ (.ok key : Except Error PublishedKey) ∈ keys.map Except.ok :=
      (List.mem_map_of_injective fun _ _ => Except.ok.inj).symm
    rw [hok, ← hmap, List.mem_map]
    constructor
    · rintro ⟨⟨kid, value⟩, hmem, hk⟩
      obtain rfl := kid_of_ofPem hk
      exact ⟨value, mem_entries_iff.mp hmem, hk⟩
    · rintro ⟨value, hv, hk⟩
      exact ⟨(key.kid, value), mem_entries_iff.mpr hv, hk⟩

/-- Entries have keys if every id that was given has one. -/
lemma exists_ofEntries_iff : (∃ keys, ofEntries (entries members) = .ok keys)
    ↔ ∀ kid value, lastValue? members kid = some value → Decodes kid value := by
  constructor
  · rintro ⟨keys, h⟩ kid value hv
    have hmem : ofPem kid (Utf8.encode value.toList)
        ∈ (entries members).map fun e => ofPem e.1 (Utf8.encode e.2.toList) :=
      List.mem_map.mpr ⟨(kid, value), mem_entries_iff.mpr hv, rfl⟩
    rw [mapM_eq_ok_iff.mp h] at hmem
    obtain ⟨key, -, hk⟩ := List.mem_map.mp hmem
    exact ⟨key, hk.symm⟩
  · intro h
    cases hes : ofEntries (entries members) with
    | ok keys => exact ⟨keys, rfl⟩
    | error e =>
        obtain ⟨kid, value, hv, he, -⟩ := ofEntries_entries_eq_error_iff.mp hes
        obtain ⟨key, hk⟩ := h kid value hv
        rw [he] at hk
        cases hk

/-- **The keys of a document** are those of its map, if every id that was given has one. -/
theorem ofEntries_entries_eq_ok_iff : ofEntries (entries members) = .ok keys
    ↔ (∀ kid value, lastValue? members kid = some value → Decodes kid value)
      ∧ Lists members keys := by
  constructor
  · exact fun h => ⟨exists_ofEntries_iff.mp ⟨keys, h⟩, lists_of_ofEntries h⟩
  · rintro ⟨hall, hlists⟩
    obtain ⟨keys', h⟩ := exists_ofEntries_iff.mpr hall
    rw [h, (lists_of_ofEntries h).unique hlists]

/-! ### Documents -/

lemma ofDocument_eq (h : Json.readDocument Json.readTextMap document = .ok members) :
    ofDocument document = ofEntries (entries members) := by
  rw [ofDocument, h]

/-- **A document is read as a map.** It is accepted if every id that it gives has a key with its
last value, and then its keys are those, in the order of the octets of the ids: under an id that it
gives its key is found, and under another one none. What is wrong with it otherwise is what is wrong
with the least id that has no key. So another document with the same map, in whatever order and with
whatever blanks and escapes it is written, comes to the same. -/
theorem document_read_as_map (h : Json.readDocument Json.readTextMap document = .ok members) :
    Json.IsTextMap document members
    ∧ ((∃ keys, ofDocument document = .ok keys)
      ↔ ∀ kid value, lastValue? members kid = some value → Decodes kid value)
    ∧ (∀ keys, ofDocument document = .ok keys
      ↔ (∀ kid value, lastValue? members kid = some value → Decodes kid value)
        ∧ Lists members keys)
    ∧ (∀ keys, ofDocument document = .ok keys →
      (∀ kid value key, lastValue? members kid = some value →
        ofPem kid (Utf8.encode value.toList) = .ok key →
        select keys kid = .ok key ∧ ∀ expiry, (⟨keys, expiry⟩ : Snapshot).find? kid = some key)
      ∧ ∀ kid, lastValue? members kid = none → select keys kid = .error (.unknownKeyId kid)
        ∧ ∀ expiry, (⟨keys, expiry⟩ : Snapshot).find? kid = none)
    ∧ (∀ e, ofDocument document = .error e ↔ ∃ kid value, lastValue? members kid = some value
      ∧ ofPem kid (Utf8.encode value.toList) = .error e
      ∧ ∀ kid' value', lastValue? members kid' = some value' →
        Utf8.encode kid'.toList < Utf8.encode kid.toList → Decodes kid' value')
    ∧ ∀ document' members', Json.IsTextMap document' members' →
      (∀ kid, lastValue? members' kid = lastValue? members kid) →
      ofDocument document' = ofDocument document := by
  rw [ofDocument_eq h]
  refine ⟨Json.readDocument_textMap_iff.mp h, exists_ofEntries_iff,
    fun keys => ofEntries_entries_eq_ok_iff, fun keys hkeys => ?_,
    fun e => ofEntries_entries_eq_error_iff, fun document' members' h' hsame => ?_⟩
  · have hlists := lists_of_ofEntries hkeys
    refine ⟨fun kid value key hv hk => ?_, fun kid hv => ?_⟩
    · have hfind := hlists.find?_eq_some hv hk
      exact ⟨by rw [select, hfind], fun expiry => hfind⟩
    · have hfind := hlists.find?_eq_none hv
      exact ⟨by rw [select, hfind], fun expiry => hfind⟩
  · rw [ofDocument_eq (Json.readDocument_textMap_iff.mpr h'), entries_congr hsame]

/-- The certificate of one small key in its armour, with a given end of its lines. -/
def sampleArmour (newline : String) : String :=
  "-----BEGIN A-----" ++ newline
    ++ "MFIwSAIBATADBgEqMAAwHhcNMjAwMTAxMDAwMDAwWhcNMjAwMTAxMDAwMDAwWjAA"
    ++ "MBowDQYJKoZIhvcNAQEBBQADCQAwBgIBDwIBAzADBgEqAwEA" ++ newline ++ "-----END A-----"

/-- A document that gives an id once. -/
def onceDocument : List UInt8 :=
  ("\x7b\"k\":\"" ++ sampleArmour "\\n" ++ "\"\x7d").toUTF8.toList

/-- One that gives it twice, first with a value that is no key, and is written with an escape and
with blanks. -/
def twiceDocument : List UInt8 :=
  ("\x7b\"k\": \"\" ,\n \"\\u006b\": \"" ++ sampleArmour "\\n" ++ "\" \x7d\n").toUTF8.toList

lemma read_onceDocument : Json.readDocument Json.readTextMap onceDocument
    = .ok [("k", sampleArmour "\n")] :=
  eq_ok_iff_toOption.mpr (by decide +kernel)

lemma read_twiceDocument : Json.readDocument Json.readTextMap twiceDocument
    = .ok [("k", ""), ("k", sampleArmour "\n")] :=
  eq_ok_iff_toOption.mpr (by decide +kernel)

lemma keys_onceDocument : ofDocument onceDocument = .ok [⟨"k", ⟨15, 3⟩⟩] :=
  eq_ok_iff_toOption.mpr (by decide +kernel)

/-- The two documents have the same keys, of which there is one. -/
theorem document_read_as_map_sample :
    Json.readDocument Json.readTextMap onceDocument = .ok [("k", sampleArmour "\n")]
      ∧ Json.IsTextMap twiceDocument [("k", ""), ("k", sampleArmour "\n")]
      ∧ ofDocument onceDocument = .ok [⟨"k", ⟨15, 3⟩⟩]
      ∧ ofDocument twiceDocument = .ok [⟨"k", ⟨15, 3⟩⟩]
      ∧ select [⟨"k", ⟨15, 3⟩⟩] "j" = .error (.unknownKeyId "j") := by
  obtain ⟨-, -, -, hkeys, -, hsame⟩ := document_read_as_map read_onceDocument
  have htwice := Json.readDocument_textMap_iff.mp read_twiceDocument
  obtain ⟨-, hnone⟩ := hkeys _ keys_onceDocument
  refine ⟨read_onceDocument, htwice, keys_onceDocument, ?_, (hnone "j" (by decide)).1⟩
  rw [hsame _ _ htwice fun kid => ?_, keys_onceDocument]
  cases hk : kid == "k" <;> simp [lastValue?, List.lookup_cons, hk]

/-! ### Values that are hidden -/

/-- A member that no later one of its name hides. -/
def IsShown (members : List (String × String)) (kid value : String) : Prop :=
  ∃ before after, members = before ++ (kid, value) :: after ∧ kid ∉ after.map Prod.fst

/-- A member that a later one of its name hides. -/
def IsHidden (members : List (String × String)) (kid value : String) : Prop :=
  ∃ before after, members = before ++ (kid, value) :: after ∧ kid ∈ after.map Prod.fst

/-- A member is shown or hidden. -/
lemma isShown_or_isHidden (h : (kid, value) ∈ members) :
    IsShown members kid value ∨ IsHidden members kid value := by
  obtain ⟨before, after, hmembers⟩ := List.append_of_mem h
  by_cases hlater : kid ∈ after.map Prod.fst
  · exact .inr ⟨before, after, hmembers, hlater⟩
  · exact .inl ⟨before, after, hmembers, hlater⟩

/-- **A document is accepted if every member that is shown has a key**; nothing is asked of those
that are hidden. If its names differ, all members need to have one. It is accepted although a value
is no key in one case only: every such value is hidden. -/
theorem document_accepted_iff_shown
    (h : Json.readDocument Json.readTextMap document = .ok members) :
    ((∃ keys, ofDocument document = .ok keys)
      ↔ ∀ kid value, IsShown members kid value → Decodes kid value)
    ∧ ((members.map Prod.fst).Nodup →
      ((∃ keys, ofDocument document = .ok keys) ↔ ∀ m ∈ members, Decodes m.1 m.2))
    ∧ ((∃ keys, ofDocument document = .ok keys) ∧ (∃ m ∈ members, ¬ Decodes m.1 m.2)
      ↔ (∀ kid value, IsShown members kid value → Decodes kid value)
        ∧ ∃ kid value, IsHidden members kid value ∧ ¬ Decodes kid value) := by
  have haccepted : (∃ keys, ofDocument document = .ok keys)
      ↔ ∀ kid value, IsShown members kid value → Decodes kid value := by
    rw [ofDocument_eq h, exists_ofEntries_iff]
    simp only [lastValue?_eq_some_iff, IsShown]
  refine ⟨haccepted, fun hn => ?_, ?_⟩
  · simp only [ofDocument_eq h, exists_ofEntries_iff, lastValue?_of_nodup hn, Prod.forall]
  · rw [haccepted]
    refine and_congr_right fun hshown => ⟨?_, ?_⟩
    · rintro ⟨⟨kid, value⟩, hmem, hbad⟩
      have hhidden := (isShown_or_isHidden hmem).resolve_left fun hs => hbad (hshown _ _ hs)
      exact ⟨kid, value, hhidden, hbad⟩
    · rintro ⟨kid, value, ⟨before, after, rfl, -⟩, hbad⟩
      exact ⟨(kid, value), by simp, hbad⟩

/-- The one value of a document is a key. -/
theorem document_accepted_iff_shown_sample :
    Json.readDocument Json.readTextMap onceDocument = .ok [("k", sampleArmour "\n")]
      ∧ Decodes "k" (sampleArmour "\n") := by
  obtain ⟨-, hall, -⟩ := document_accepted_iff_shown read_onceDocument
  exact ⟨read_onceDocument, (hall (List.nodup_singleton _)).mp ⟨_, keys_onceDocument⟩
    ("k", sampleArmour "\n") List.mem_cons_self⟩

/-- A document is accepted although the first of its two values is no key. -/
theorem hidden_value_accepted :
    Json.readDocument Json.readTextMap twiceDocument = .ok [("k", ""), ("k", sampleArmour "\n")]
      ∧ ofDocument twiceDocument = .ok [⟨"k", ⟨15, 3⟩⟩]
      ∧ ¬ Decodes "k" "" := by
  have hsame : entries [("k", ""), ("k", sampleArmour "\n")] = entries [("k", sampleArmour "\n")] :=
    rfl
  refine ⟨read_twiceDocument, ?_, ?_⟩
  · rw [ofDocument_eq read_twiceDocument, hsame, ← ofDocument_eq read_onceDocument,
      keys_onceDocument]
  rintro ⟨key, hkey⟩
  have hnone : (ofPem "k" []).toOption = none := by decide +kernel
  rw [show Utf8.encode "".toList = [] from rfl] at hkey
  rw [hkey] at hnone
  cases hnone

end Keyring.PublishedKey
