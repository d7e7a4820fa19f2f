import Mathlib.Data.String.Basic
import Mathlib.Tactic
import Keyring.Proofs.Text.Utf8

/-!
The order of texts is the order of their octets.

* `encodeChar_append_lt`: the octets of a smaller character are smaller, whatever follows.
* `encode_lt_iff`: a text comes before another one exactly if its octets do, compared one by one.
-/

namespace Keyring.Utf8

/-- **The octets of a smaller character are smaller**, whatever follows: fewer of them begin with a
smaller one, and as many differ first where the characters do. -/
lemma encodeChar_append_lt {a b : Char} (h : a < b) (x y : List UInt8) :
    encodeChar a ++ x < encodeChar b ++ y := by
  have hlt : a.toNat < b.toNat := h
  have hb : b.toNat < 0x110000 := by
    rcases b.valid with hv | hv
    · exact lt_trans hv (by decide)
    · exact hv.2
  rw [encodeChar, encodeChar]
  generalize a.toNat = m at hlt
  generalize b.toNat = n at hlt hb
  have hnat : ∀ {k}, k < 256 → (UInt8.ofNat k).toNat = k := toNat_octet
  split_ifs
  all_goals
    simp only [List.cons_append, List.nil_append, List.cons_lt_cons_iff, UInt8.lt_iff_toNat_lt,
      ← UInt8.toNat_inj]
    (repeat rw [hnat (by omega)])
    omega

/-- The octets of a smaller text are smaller. -/
lemma encode_lt_encode {a b : List Char} (h : a < b) : encode a < encode b := by
  induction a generalizing b with
  | nil =>
      cases b with
      | nil => exact absurd h (List.lt_irrefl _)
      | cons y b =>
          rw [encode, encode, List.flatMap_nil, List.flatMap_cons, encodeChar]
          split_ifs
          all_goals exact List.nil_lt_cons _ _
  | cons x a ih =>
      cases b with
      | nil => exact absurd h (List.not_lt_nil _)
      | cons y b =>
          rw [encode, encode, List.flatMap_cons, List.flatMap_cons]
          rcases List.cons_lt_cons_iff.mp h with hxy | ⟨rfl, hab⟩
          · exact encodeChar_append_lt hxy _ _
          · exact List.append_left_lt (ih hab)

/-- **A text comes before another one** exactly if its octets do, compared one by one. -/
theorem encode_lt_iff {a b : String} : encode a.toList < encode b.toList ↔ a < b := by
  refine ⟨fun h => ?_, fun h => encode_lt_encode (String.lt_iff_toList_lt.mp h)⟩
  rcases lt_trichotomy a b with hab | rfl | hba
  · exact hab
  · exact absurd h (List.lt_irrefl _)
  · exact absurd h (List.lt_asymm (encode_lt_encode (String.lt_iff_toList_lt.mp hba)))

end Keyring.Utf8
