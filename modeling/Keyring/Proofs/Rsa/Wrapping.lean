import Mathlib.Tactic
import Keyring.Rsa.Encoding
import Keyring.Proofs.Asn1.Der

/-!
Which octets are a private key with the identifier of its algorithm.

* `Algorithm.write`, `Algorithm.read?_eq_some_iff`: algorithms.
* `Elements`, `Follows`: what may follow a key; `isKeyTail_iff`.
* `KeyInfo.Encodes`, `KeyInfo.read?_eq_some_iff`: the whole element.
* `PrivateKey.ofNumbers?_eq_some_iff`: the numbers of a key without all this.
-/

namespace Keyring.Rsa

open Asn1

variable {s r content : List UInt8} {tag : UInt8}

/-! ### Algorithms -/

namespace Algorithm

variable {a : Algorithm}

/-- The element of the parameters, if there are any. -/
def writeParameters : Option (UInt8 × List UInt8) → List UInt8
  | none => []
  | some (tag, value) => Der.write tag value

/-- An algorithm as an element. -/
def write (a : Algorithm) : List UInt8 :=
  Der.write Der.sequenceTag (Der.write Der.objectIdTag a.oid ++ writeParameters a.parameters)

/-- The identifier has numbers of 32 bits, and the parameters have a tag that is in use. -/
structure IsValid (a : Algorithm) : Prop where
  oid : (ObjectId.narrowNumbers? a.oid).isSome
  parameters : ∀ p ∈ a.parameters, Der.isTag p.1 = true

lemma isValid_rsa : Algorithm.rsa.IsValid := by
  refine ⟨by decide, fun p hp => ?_⟩
  obtain rfl : p = (Der.nullTag, []) := by simpa [Algorithm.rsa, eq_comm] using hp
  decide

/-- The parts of what is written have fewer octets. -/
lemma length_lt_length_write (a : Algorithm) :
    a.oid.length < a.write.length ∧ ∀ p ∈ a.parameters, p.2.length < a.write.length := by
  have hall := Der.length_lt_length_write Der.sequenceTag
    (Der.write Der.objectIdTag a.oid ++ writeParameters a.parameters)
  have hoid := Der.length_lt_length_write Der.objectIdTag a.oid
  rw [← write, List.length_append] at hall
  refine ⟨by omega, fun p hp => ?_⟩
  rw [Option.mem_def.mp hp] at hall
  have hvalue := Der.length_lt_length_write p.1 p.2
  have hparameters : (writeParameters (some p)).length = (Der.write p.1 p.2).length := rfl
  omega

/-- **An algorithm is read exactly where it was written.** -/
lemma read?_eq_some_iff (hle : s.length ≤ Der.lengthLimit) :
    read? s = some (a, r) ↔ s = a.write ++ r ∧ a.IsValid := by
  rw [read?]
  simp only [Option.bind_eq_bind, Option.bind_eq_some_iff, Prod.exists, Der.readAs?_eq_some_iff]
  constructor
  · rintro ⟨content, r', ⟨rfl, -, -⟩, oid, rest, ⟨rfl, -, -⟩, h⟩
    -- the parameters are missing, or they are all that follows the identifier
    split_ifs at h with hoid hend
    · obtain ⟨rfl, rfl⟩ := Prod.mk.inj (Option.some.inj h)
      obtain rfl := List.isEmpty_iff.mp hend
      exact ⟨rfl, by simpa [← Option.isSome_iff_ne_none] using hoid, by simp⟩
    · obtain ⟨tag, value, rest', hread, h'⟩ : ∃ tag value rest',
          Der.read? rest = some (tag, value, rest')
            ∧ (if rest'.isEmpty then some (⟨oid, some (tag, value)⟩, r') else none)
              = some (a, r) := by
        simpa [Option.bind_eq_some_iff] using h
      obtain ⟨rfl, htag, -⟩ := Der.read?_eq_some_iff.mp hread
      split_ifs at h' with hend'
      obtain ⟨rfl, rfl⟩ := Prod.mk.inj (Option.some.inj h')
      obtain rfl := List.isEmpty_iff.mp hend'
      rw [List.append_nil]
      exact ⟨rfl, by simpa [← Option.isSome_iff_ne_none] using hoid, by simpa using htag⟩
  · rintro ⟨rfl, hvalid⟩
    rw [List.length_append] at hle
    obtain ⟨hoid, hparameters⟩ := length_lt_length_write a
    have hcontent := Der.length_lt_length_write Der.sequenceTag
      (Der.write Der.objectIdTag a.oid ++ writeParameters a.parameters)
    rw [← write] at hcontent
    refine ⟨_, r, ⟨rfl, by decide, by omega⟩, _, _, ⟨rfl, by decide, by omega⟩, ?_⟩
    rw [if_neg (by simpa [← Option.isSome_iff_ne_none] using hvalid.oid)]
    obtain ⟨oid, parameters⟩ := a
    cases parameters with
    | none => rfl
    | some p =>
        have hread : Der.read? (Der.write p.1 p.2) = some (p.1, p.2, []) :=
          Der.read?_eq_some_iff.mpr ⟨(List.append_nil _).symm, hvalid.parameters p rfl,
            by have hlt := hparameters p rfl; omega⟩
        rw [writeParameters, hread]
        rw [if_neg (by simp [Der.write])]
        rfl

end Algorithm

/-! ### Elements one after the other -/

/-- **Elements one after the other**, of each of which something holds. -/
inductive Elements (P : UInt8 → List UInt8 → Prop) : List UInt8 → Prop where
  /-- There is none. -/
  | nil : Elements P []
  /-- There is one more. -/
  | cons {tag : UInt8} {content r : List UInt8} (htag : Der.isTag tag = true)
      (hle : content.length ≤ Der.lengthLimit) (h : P tag content) (hr : Elements P r) :
      Elements P (Der.write tag content ++ r)

variable {P : UInt8 → List UInt8 → Prop} {fuel : ℕ}

/-- The first of some elements is the one that is read. -/
lemma elements_iff (hne : s ≠ []) : Elements P s
    ↔ ∃ tag content r, Der.read? s = some (tag, content, r) ∧ P tag content ∧ Elements P r := by
  constructor
  · intro h
    cases h with
    | nil => exact absurd rfl hne
    | cons htag hle h hr => exact ⟨_, _, _, Der.read?_eq_some_iff.mpr ⟨rfl, htag, hle⟩, h, hr⟩
  · rintro ⟨tag, content, r, hread, h, hr⟩
    obtain ⟨rfl, htag, hle⟩ := Der.read?_eq_some_iff.mp hread
    exact .cons htag hle h hr

lemma length_lt_of_read? (h : Der.read? s = some (tag, content, r)) : r.length < s.length := by
  obtain ⟨rfl, -, -⟩ := Der.read?_eq_some_iff.mp h
  rw [List.length_append, Der.write, List.length_cons]
  omega

/-- Elements begin with the tag of the first one. -/
lemma head_of_read? {b : UInt8} (h : Der.read? (b :: s) = some (tag, content, r)) : b = tag := by
  obtain ⟨heq, -, -⟩ := Der.read?_eq_some_iff.mp h
  exact (List.cons.inj heq).1

/-! ### What may follow a key -/

/-- An attribute: a tag of its context which says that it holds elements, and one of these. -/
structure IsAttribute (tag : UInt8) (content : List UInt8) : Prop where
  context : isContextTag tag = true
  constructed : tag.toNat / 32 % 2 = 1
  element : ∃ t c, content = Der.write t c ∧ Der.isTag t = true ∧ c.length ≤ Der.lengthLimit

/-- What is left out before the public key: tags of their context with the number 0. -/
def IsFirst (tag : UInt8) (_ : List UInt8) : Prop := isContextTag tag = true ∧ tag.toNat % 32 = 0

lemma areAttributes_iff (hf : s.length ≤ fuel) :
    areAttributes fuel s = true ↔ Elements IsAttribute s := by
  induction fuel generalizing s with
  | zero =>
      obtain rfl := List.length_eq_zero_iff.mp (Nat.le_zero.mp hf)
      exact ⟨fun _ => .nil, fun _ => rfl⟩
  | succ fuel ih =>
      by_cases hne : s = []
      · subst hne
        exact ⟨fun _ => .nil, fun _ => rfl⟩
      rw [elements_iff hne, areAttributes, List.isEmpty_eq_false_iff.mpr hne, Bool.false_or]
      cases hread : Der.read? s with
      | none => simp
      | some e =>
          obtain ⟨tag, content, r⟩ := e
          have hr := ih (Nat.lt_succ_iff.mp ((length_lt_of_read? hread).trans_le hf))
          have helement : (Der.read? content).any (·.2.2.isEmpty) = true
              ↔ ∃ t c, content = Der.write t c ∧ Der.isTag t = true
                ∧ c.length ≤ Der.lengthLimit := by
            simp only [Option.any_eq_true, List.isEmpty_iff, Prod.exists, Der.read?_eq_some_iff]
            constructor
            · rintro ⟨t, c, _, ⟨hc, ht, hle⟩, rfl⟩
              exact ⟨t, c, hc.trans (List.append_nil _), ht, hle⟩
            · rintro ⟨t, c, hc, ht, hle⟩
              exact ⟨t, c, [], ⟨hc.trans (List.append_nil _).symm, ht, hle⟩, rfl⟩
          simp only [Bool.and_eq_true, decide_eq_true_eq, helement, hr]
          constructor
          · rintro ⟨⟨⟨hcontext, hconstructed⟩, hinner⟩, hrest⟩
            exact ⟨tag, content, r, rfl, ⟨hcontext, hconstructed, hinner⟩, hrest⟩
          · rintro ⟨_, _, _, hsame, h, hrest⟩
            cases hsame
            exact ⟨⟨⟨h.context, h.constructed⟩, h.element⟩, hrest⟩

/-- What is left out is as much as can be. -/
lemma skipAttributes?_eq_some_iff (hf : s.length ≤ fuel) : skipAttributes? fuel s = some r
    ↔ ∃ skipped, s = skipped ++ r ∧ Elements IsFirst skipped
      ∧ ∀ b ∈ r.head?, ¬ (isContextTag b = true ∧ b.toNat % 32 = 0) := by
  -- where nothing is left out
  have hstop : ∀ s : List UInt8, (∀ b ∈ s.head?, ¬ (isContextTag b = true ∧ b.toNat % 32 = 0)) →
      (some s = some r ↔ ∃ skipped, s = skipped ++ r ∧ Elements IsFirst skipped
        ∧ ∀ b ∈ r.head?, ¬ (isContextTag b = true ∧ b.toNat % 32 = 0)) := by
    intro s hs
    constructor
    · rintro ⟨⟩
      exact ⟨[], rfl, .nil, hs⟩
    · rintro ⟨skipped, rfl, hskipped, -⟩
      cases hskipped with
      | nil => rfl
      | cons _ _ h _ => exact absurd h (hs _ rfl)
  induction fuel generalizing s with
  | zero =>
      obtain rfl := List.length_eq_zero_iff.mp (Nat.le_zero.mp hf)
      exact hstop [] (by simp)
  | succ fuel ih =>
      cases s with
      | nil => exact hstop [] (by simp)
      | cons b s =>
          rw [skipAttributes?]
          dsimp only
          by_cases hfirst : isContextTag b = true ∧ b.toNat % 32 = 0
          · rw [if_pos (by simp [hfirst])]
            constructor
            · intro h
              obtain ⟨⟨tag, content, rest⟩, hread, h⟩ := Option.bind_eq_some_iff.mp h
              obtain ⟨hcut, htag, hle⟩ := Der.read?_eq_some_iff.mp hread
              obtain ⟨skipped, rfl, hskipped, hhead⟩ :=
                (ih (Nat.lt_succ_iff.mp ((length_lt_of_read? hread).trans_le hf))).mp h
              rw [hcut]
              refine ⟨_, (List.append_assoc _ _ _).symm, .cons htag hle ?_ hskipped, hhead⟩
              exact head_of_read? hread ▸ hfirst
            · rintro ⟨skipped, hs, hskipped, hhead⟩
              cases hskipped with
              | nil =>
                  rw [List.nil_append] at hs
                  exact absurd hfirst (hhead b (by rw [← hs]; rfl))
              | @cons tag content more htag hle h hmore =>
                  rw [List.append_assoc] at hs
                  have hread := Der.read?_eq_some_iff.mpr ⟨hs, htag, hle⟩
                  refine Option.bind_eq_some_iff.mpr ⟨_, hread, ?_⟩
                  exact (ih (Nat.lt_succ_iff.mp ((length_lt_of_read? hread).trans_le hf))).mpr
                    ⟨more, rfl, hmore, hhead⟩
          · rw [if_neg (by simpa using hfirst)]
            exact hstop (b :: s) (by simpa using hfirst)

/-- **What may follow a key**: attributes, and in version 1 the public key. -/
inductive Follows : ℕ → List UInt8 → Prop where
  /-- There are attributes only. -/
  | plain {skipped rest : List UInt8} (hskipped : Elements IsFirst skipped)
      (hrest : Elements IsAttribute rest) (hhead : ∀ b ∈ rest.head?, 2 ≤ b.toNat % 32) :
      Follows 0 (skipped ++ rest)
  /-- The public key comes after the first ones. -/
  | withPublic {skipped bits rest : List UInt8} (hskipped : Elements IsFirst skipped)
      (hle : bits.length < Der.lengthLimit) (hrest : Elements IsAttribute rest) :
      Follows 1 (skipped ++ (Der.write 0x81 (0x00 :: bits) ++ rest))

/-- The octets of whole bits follow a zero. -/
lemma wholeBits?_eq_some_iff {bits : List UInt8} :
    Der.wholeBits? content = some bits ↔ content = 0x00 :: bits := by
  constructor
  · intro h
    rw [Der.wholeBits?.eq_def] at h
    split at h
    · rw [Option.some.inj h]
    · cases h
  · rintro rfl
    rfl

lemma wholeBits?_isSome_iff : (Der.wholeBits? content).isSome ↔ ∃ bits, content = 0x00 :: bits := by
  simp only [Option.isSome_iff_exists, wholeBits?_eq_some_iff]

/-- Attributes begin with a tag of their context. -/
lemma isContextTag_of_attributes {b : UInt8} (h : Elements IsAttribute (b :: s)) :
    isContextTag b = true := by
  obtain ⟨tag, content, r, hread, hattribute, -⟩ := (elements_iff (List.cons_ne_nil b s)).mp h
  exact head_of_read? hread ▸ hattribute.context

lemma follows_of_isKeyTail {version : ℕ} (h : isKeyTail version s = true) : Follows version s := by
  rw [isKeyTail] at h
  cases hskip : skipAttributes? s.length s with
  | none => simp [hskip] at h
  | some r =>
      obtain ⟨skipped, rfl, hskipped, hhead⟩ := (skipAttributes?_eq_some_iff le_rfl).mp hskip
      rw [hskip] at h
      cases r with
      | nil =>
          obtain rfl : version = 0 := by simpa using h
          exact .plain hskipped .nil (by simp)
      | cons b r =>
          dsimp only at h
          -- either the public key follows, or the tag is too large to be left out
          split_ifs at h with hpublic
          · cases hread : Der.read? (b :: r) with
            | none => simp [hread] at h
            | some e =>
                obtain ⟨tag, content, rest⟩ := e
                simp only [hread, Bool.and_eq_true, decide_eq_true_eq] at h
                obtain ⟨⟨⟨rfl, rfl⟩, hbits⟩, hrest⟩ := h
                obtain ⟨bits, rfl⟩ := wholeBits?_isSome_iff.mp hbits
                obtain rfl := head_of_read? hread
                obtain ⟨hcut, -, hle⟩ := Der.read?_eq_some_iff.mp hread
                rw [hcut]
                exact .withPublic hskipped hle ((areAttributes_iff le_rfl).mp hrest)
          · simp only [Bool.and_eq_true, decide_eq_true_eq] at h hpublic
            obtain ⟨rfl, hrest⟩ := h
            have hattributes := (areAttributes_iff le_rfl).mp hrest
            have hcontext := isContextTag_of_attributes hattributes
            refine .plain hskipped hattributes fun x hx => ?_
            obtain rfl : b = x := by simpa using hx
            have hzero := hhead b rfl
            simp only [hcontext, true_and] at hzero hpublic
            omega

lemma isKeyTail_of_follows {version : ℕ} (h : Follows version s) : isKeyTail version s = true := by
  rw [isKeyTail]
  cases h with
  | @plain skipped rest hskipped hrest hhead =>
      have hskip : skipAttributes? (skipped ++ rest).length (skipped ++ rest) = some rest :=
        (skipAttributes?_eq_some_iff le_rfl).mpr ⟨skipped, rfl, hskipped, fun b hb hzero => by
          have htwo := hhead b hb
          omega⟩
      rw [hskip]
      cases rest with
      | nil => rfl
      | cons b rest =>
          have htwo := hhead b rfl
          have hone : ¬ (isContextTag b && b.toNat % 32 = 1) = true := by
            simp only [Bool.and_eq_true, decide_eq_true_eq]
            omega
          dsimp only
          rw [if_neg hone, (areAttributes_iff le_rfl).mpr hrest]
          rfl
  | @withPublic skipped bits rest hskipped hle hrest =>
      have hskip : skipAttributes? (skipped ++ (Der.write 0x81 (0x00 :: bits) ++ rest)).length
          (skipped ++ (Der.write 0x81 (0x00 :: bits) ++ rest))
            = some (Der.write 0x81 (0x00 :: bits) ++ rest) :=
        (skipAttributes?_eq_some_iff le_rfl).mpr ⟨skipped, rfl, hskipped, fun b hb => by
          obtain rfl : 0x81 = b := by simpa [Der.write] using hb
          decide⟩
      have hread : Der.read? (Der.write 0x81 (0x00 :: bits) ++ rest)
          = some (0x81, 0x00 :: bits, rest) :=
        Der.read?_eq_some_iff.mpr ⟨rfl, by decide, hle⟩
      rw [hskip]
      -- the match is on the first octet, which `Der.write` does not show
      generalize hall : Der.write 0x81 (0x00 :: bits) ++ rest = all at hread
      cases all with
      | nil => simp [Der.write] at hall
      | cons b r =>
          obtain rfl := head_of_read? hread
          dsimp only
          rw [if_pos (by decide), hread]
          dsimp only
          rw [(areAttributes_iff le_rfl).mpr hrest]
          rfl

/-- **What follows a key is accepted exactly if it may follow one.** -/
lemma isKeyTail_iff {version : ℕ} : isKeyTail version s = true ↔ Follows version s :=
  ⟨follows_of_isKeyTail, isKeyTail_of_follows⟩

lemma Follows.version_le {version : ℕ} (h : Follows version s) : version ≤ 1 := by
  cases h <;> decide

/-! ### Keys with the identifier of their algorithm -/

namespace KeyInfo

variable {info : KeyInfo}

/-- **The octets of a private key with the identifier of its algorithm**: a sequence of a version,
the algorithm, the octets of the key and what may follow these. -/
def Encodes (s : List UInt8) (info : KeyInfo) : Prop :=
  ∃ version tail, s = Der.write Der.sequenceTag (Der.writeUnsigned version
      ++ (info.algorithm.write ++ (Der.write Der.octetStringTag info.key ++ tail)))
    ∧ s.length ≤ Der.lengthLimit ∧ info.algorithm.IsValid ∧ Follows version tail

/-- **A key with the identifier of its algorithm is read exactly where it is encoded.** -/
theorem read?_eq_some_iff : read? s = some info ↔ Encodes s info := by
  rw [read?]
  simp only [Option.bind_eq_bind, Option.bind_eq_some_iff, Prod.exists, Der.only?_eq_some_iff,
    Der.readUnsigned?_eq_some_iff, Der.readAs?_eq_some_iff]
  constructor
  · rintro ⟨content, ⟨rfl, -, hle⟩, version, rest, ⟨rfl, -⟩, algorithm, rest', halgorithm, key,
      tail, ⟨rfl, -, -⟩, h⟩
    have hall := Der.length_lt_length_write Der.sequenceTag (Der.writeUnsigned version ++ rest)
    rw [List.length_append] at hall
    obtain ⟨rfl, hvalid⟩ := (Algorithm.read?_eq_some_iff (by omega)).mp halgorithm
    split_ifs at h with htail
    obtain rfl := Option.some.inj h
    have hfollows := isKeyTail_iff.mp (Bool.and_eq_true_iff.mp htail).2
    exact ⟨version, tail, rfl, hle, hvalid, hfollows⟩
  · rintro ⟨version, tail, rfl, hle, hvalid, hfollows⟩
    have hall := Der.length_lt_length_write Der.sequenceTag (Der.writeUnsigned version
      ++ (info.algorithm.write ++ (Der.write Der.octetStringTag info.key ++ tail)))
    have hversion : (Der.unsignedOctets version).length < (Der.writeUnsigned version).length :=
      Der.length_lt_length_write _ _
    have hkey := Der.length_lt_length_write Der.octetStringTag info.key
    simp only [List.length_append] at hall
    refine ⟨_, ⟨rfl, by decide, hle⟩, version, _, ⟨rfl, by omega⟩, info.algorithm, _,
      (Algorithm.read?_eq_some_iff ?_).mpr ⟨rfl, hvalid⟩, info.key, tail,
      ⟨rfl, by decide, by omega⟩, ?_⟩
    · simp only [List.length_append]
      omega
    · rw [if_pos (by simp [hfollows.version_le, isKeyTail_iff.mpr hfollows])]

end KeyInfo

/-! ### Keys without it -/

namespace PrivateKey

variable {key : PrivateKey}

/-- **The numbers of a key are read exactly where they were written**, whatever the last three are,
if they belong together. -/
theorem ofNumbers?_eq_some_iff : ofNumbers? s = some key
    ↔ ∃ x y z, s = key.toNumbers [x, y, z] ∧ s.length ≤ Der.lengthLimit ∧ key.isSound = true := by
  rw [ofNumbers?]
  simp only [Option.bind_eq_bind, Option.bind_eq_some_iff, Prod.exists, Der.only?_eq_some_iff,
    Der.readUnsigned?_eq_some_iff]
  constructor
  · rintro ⟨content, ⟨rfl, -, hle⟩, version, _, ⟨rfl, -⟩, n, _, ⟨rfl, -⟩, e, _, ⟨rfl, -⟩, d, _,
      ⟨rfl, -⟩, p, _, ⟨rfl, -⟩, q, _, ⟨rfl, -⟩, x, _, ⟨rfl, -⟩, y, _, ⟨rfl, -⟩, z, rest,
      ⟨rfl, -⟩, h⟩
    split_ifs at h with hsound
    obtain rfl := Option.some.inj h
    simp only [Bool.and_eq_true, decide_eq_true_eq, List.isEmpty_iff] at hsound
    obtain ⟨⟨rfl, rfl⟩, hsound⟩ := hsound
    refine ⟨x, y, z, ?_, hle, hsound⟩
    simp [toNumbers]
  · rintro ⟨x, y, z, rfl, hle, hsound⟩
    -- each number is shorter than the whole, so that its length can be read
    have hfits : ∀ m ∈ [0, key.publicKey.modulus, key.publicKey.exponent, key.secret, key.first,
        key.second] ++ [x, y, z], (Der.unsignedOctets m).length ≤ Der.lengthLimit := by
      intro m hm
      have hnumber : (Der.unsignedOctets m).length < (Der.writeUnsigned m).length :=
        Der.length_lt_length_write _ _
      have hpart := (List.sublist_flatten_of_mem (List.mem_map_of_mem (f := Der.writeUnsigned)
        hm)).length_le
      have hall := Der.length_lt_length_write Der.sequenceTag
        (([0, key.publicKey.modulus, key.publicKey.exponent, key.secret, key.first, key.second]
          ++ [x, y, z]).flatMap Der.writeUnsigned)
      rw [← toNumbers, List.flatMap] at hall
      omega
    simp only [List.cons_append, List.nil_append, List.forall_mem_cons] at hfits
    obtain ⟨h0, hn, he, hd, hp, hq, hx, hy, hz, -⟩ := hfits
    refine ⟨_, ⟨rfl, by decide, hle⟩, ?_⟩
    simp only [List.cons_append, List.nil_append, List.flatMap_cons, List.flatMap_nil]
    exact ⟨0, _, ⟨rfl, h0⟩, _, _, ⟨rfl, hn⟩, _, _, ⟨rfl, he⟩, _, _, ⟨rfl, hd⟩, _, _, ⟨rfl, hp⟩,
      _, _, ⟨rfl, hq⟩, _, _, ⟨rfl, hx⟩, _, _, ⟨rfl, hy⟩, _, _, ⟨rfl, hz⟩, by simp [hsound]⟩

end PrivateKey

end Keyring.Rsa
