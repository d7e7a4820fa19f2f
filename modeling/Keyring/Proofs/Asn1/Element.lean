import Mathlib.Tactic
import Keyring.Asn1.Element
import Keyring.Proofs.Asn1.Der

/-!
The two readings of elements agree: one takes lengths as short as can be and tags of one octet only,
the other one takes these and more.

* `Element.read?_of_der`: what the one reads, the other one reads as well.
* `readSequence?_write`, `readObjectId?_write`, `readBitString?_write`: so it reads elements as they
  are written.
-/

namespace Keyring.Asn1

variable {s r content : List UInt8} {tag : UInt8} {n : ℕ}

/-- A tag in use has one octet. -/
lemma readTag?_of_isTag (h : Der.isTag tag = true) (r : List UInt8) :
    readTag? (tag :: r)
      = some (tagClassOf tag, decide (tag.toNat / 32 % 2 = 1), tag.toNat % 32, r) := by
  have hall : ∀ b : Fin 256, Der.isTag (UInt8.ofNat b) = true →
      (UInt8.ofNat b).toNat % 32 ≠ 31 := by decide +kernel
  have hone := hall ⟨tag.toNat, tag.toNat_lt⟩
  rw [UInt8.ofNat_toNat] at hone
  rw [readTag?, if_neg (hone h)]

/-- A length as short as can be is a length. -/
lemma readLength?_of_der (h : Der.readLength? s = some (n, r)) :
    readLength? s = some (n, r) := by
  cases s with
  | nil => cases h
  | cons b s =>
      by_cases hshort : b < 0x80
      · rw [Der.readLength?, if_pos hshort] at h
        rw [readLength?, if_pos hshort, h]
      · obtain ⟨count, hcount⟩ : ∃ count, b.toNat = 0x80 + count :=
          Nat.exists_eq_add_of_le (not_lt.mp fun hlt => hshort (UInt8.lt_iff_toNat_lt.mpr hlt))
        obtain ⟨⟨hpos, hfour, hlength⟩, hn, ⟨-, -, hle⟩, hr⟩ :=
          (Der.readLength?_cons_eq_some_iff hshort hcount).mp h
        -- between one and four octets: neither open nor reserved
        have hplain : ¬ (b = 0x80 ∨ b = 0xFF) := by
          rintro (rfl | rfl)
          · exact absurd hcount (by simp; omega)
          · exact absurd hcount (by simp; omega)
        have hsmall : ¬ UInt64.size ≤ n := not_le.mpr (hle.trans_lt (by decide))
        rw [readLength?, if_neg hshort, if_neg (by simpa using hplain), hcount]
        dsimp only
        rw [Nat.add_sub_cancel_left, hn, hr, if_neg (by simp [not_lt.mpr hlength, hsmall])]

/-- The element with this tag and content. -/
def Element.ofTag (tag : UInt8) (content : List UInt8) : Element :=
  ⟨tagClassOf tag, decide (tag.toNat / 32 % 2 = 1), tag.toNat % 32, content⟩

/-- **What the strict reading takes for an element is one.** -/
theorem Element.read?_of_der (h : Der.read? s = some (tag, content, r)) :
    Element.read? s = some (Element.ofTag tag content, r) := by
  cases s with
  | nil => cases h
  | cons b s =>
      obtain ⟨⟨n, rest⟩, hlength, h⟩ := Option.bind_eq_some_iff.mp h
      dsimp only at h
      split_ifs at h with hfits
      obtain ⟨rfl, rfl, rfl⟩ : b = tag ∧ rest.take n = content ∧ rest.drop n = r := by
        simpa using h
      simp only [Bool.or_eq_true, Bool.not_eq_true', decide_eq_true_eq, not_or,
        Bool.not_eq_false] at hfits
      rw [Element.read?, readHeader?, readTag?_of_isTag hfits.1]
      simp only [Option.bind_eq_bind, Option.bind_some, readLength?_of_der hlength,
        Option.pure_def, if_neg hfits.2]
      rfl

/-- An element is read as it is written. -/
lemma Element.read?_write (tag : UInt8) (htag : Der.isTag tag = true)
    (hle : content.length ≤ Der.lengthLimit) (r : List UInt8) :
    Element.read? (Der.write tag content ++ r) = some (Element.ofTag tag content, r) :=
  Element.read?_of_der (Der.read?_eq_some_iff.mpr ⟨rfl, htag, hle⟩)

lemma readSequence?_write (hle : content.length ≤ Der.lengthLimit) (r : List UInt8) :
    readSequence? (Der.write Der.sequenceTag content ++ r) = some (content, r) := by
  rw [readSequence?, readTagged?, Element.read?_write _ (by decide) hle]
  rfl

lemma readObjectId?_write (hle : content.length ≤ Der.lengthLimit) (r : List UInt8) :
    readObjectId? (Der.write Der.objectIdTag content ++ r) = some (content, r) := by
  rw [readObjectId?, Element.read?_write _ (by decide) hle]
  rfl

lemma isBitString_whole (content : List UInt8) : isBitString (0x00 :: content) = true := by
  cases content with
  | nil => rfl
  | cons b content => simp [isBitString]

lemma readBitString?_write (hle : (0x00 :: content).length ≤ Der.lengthLimit) (r : List UInt8) :
    readBitString? (Der.write Der.bitStringTag (0x00 :: content) ++ r) = some (content, r) := by
  have hread : readPrimitive? Tag.bitString (Der.write Der.bitStringTag (0x00 :: content) ++ r)
      = some (0x00 :: content, r) := by
    rw [readPrimitive?, readTagged?, Element.read?_write _ (by decide) hle]
    rfl
  rw [readBitString?, hread]
  simp [isBitString_whole]

end Keyring.Asn1
