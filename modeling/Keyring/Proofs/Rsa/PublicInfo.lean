import Mathlib.Tactic
import Keyring.Proofs.Rsa.Wrapping

/-!
Which octets are a public key with the identifier of RSA.

* `PublicKey.ofNumbers?_eq_some_iff`: the numbers of a key.
* `PublicKey.length_toInfo_le`: the encoding of a key that can be used is not too long.
* `PublicKey.ofInfo?_eq_some_iff`: a key that can be used is read exactly where it was written.
-/

namespace Keyring.Rsa

open Asn1

variable {s content : List UInt8} {key : PublicKey}

/-- An element has few octets more than its content. -/
lemma length_write_le (tag : UInt8) (h : content.length ≤ Der.lengthLimit) :
    (Der.write tag content).length ≤ content.length + 6 := by
  have hsize := Der.octetSize_of_le h
  have hlength : (Der.writeLength content.length).length ≤ 5 := by
    rw [Der.writeLength]
    split_ifs
    · simp
    · dsimp only
      rw [List.length_cons, Number.toOctets_length]
      omega
  rw [Der.write, List.length_cons, List.length_append]
  omega

namespace PublicKey

/-! ### The numbers of a key -/

/-- **The numbers of a key are read exactly where they were written.** -/
lemma ofNumbers?_eq_some_iff :
    ofNumbers? s = some key ↔ s = key.toNumbers ∧ s.length ≤ Der.lengthLimit := by
  rw [ofNumbers?]
  simp only [Option.bind_eq_bind, Option.bind_eq_some_iff, Prod.exists, Der.only?_eq_some_iff,
    Der.readUnsigned?_eq_some_iff]
  constructor
  · rintro ⟨content, ⟨rfl, -, hle⟩, n, _, ⟨rfl, -⟩, e, rest, ⟨rfl, -⟩, h⟩
    split_ifs at h with hend
    obtain rfl := Option.some.inj h
    obtain rfl := List.isEmpty_iff.mp hend
    rw [List.append_nil] at hle ⊢
    exact ⟨rfl, hle⟩
  · rintro ⟨rfl, hle⟩
    have hall := Der.length_lt_length_write Der.sequenceTag
      (Der.writeUnsigned key.modulus ++ Der.writeUnsigned key.exponent)
    have hn : (Der.unsignedOctets key.modulus).length < (Der.writeUnsigned key.modulus).length :=
      Der.length_lt_length_write _ _
    have he : (Der.unsignedOctets key.exponent).length < (Der.writeUnsigned key.exponent).length :=
      Der.length_lt_length_write _ _
    rw [← toNumbers, List.length_append] at hall
    exact ⟨_, ⟨rfl, by decide, hle⟩, key.modulus, _, ⟨rfl, by omega⟩, key.exponent, [],
      ⟨(List.append_nil _).symm, by omega⟩, rfl⟩

/-! ### A key with the identifier of RSA -/

/-- The numbers follow the identifier of RSA. -/
lemma toInfo_eq : key.toInfo = Der.write Der.sequenceTag
    (Algorithm.rsa.write ++ Der.write Der.bitStringTag (0x00 :: key.toNumbers)) := rfl

lemma isUsable_iff : key.isUsable = true ↔ Number.bitSize key.modulus ≤ modulusBits
    ∧ key.exponent < key.modulus ∧ key.modulus % 2 = 1 ∧ key.exponent % 2 = 1
    ∧ 2 ≤ key.exponent ∧ key.exponent ≤ greatestExponent := by
  simp only [isUsable, Bool.and_eq_true, decide_eq_true_eq, and_assoc]

/-- The encoding of a key that can be used is far from too long. -/
lemma length_toInfo_le (h : key.isUsable = true) : key.toInfo.length ≤ Der.lengthLimit := by
  obtain ⟨hbits, -, -, -, -, hgreatest⟩ := isUsable_iff.mp h
  have hlimit : Der.lengthLimit = 268435455 := rfl
  have hexponent : Number.bitSize key.exponent ≤ 33 :=
    Number.bitSize_le_iff.mpr (hgreatest.trans_lt (by decide))
  -- from the numbers outwards, each level adds its tag and at most five octets of length
  have hn : (Der.unsignedOctets key.modulus).length ≤ 513 := by
    rw [Der.unsignedOctets, Number.toOctets_length]
    rw [modulusBits] at hbits
    omega
  have he : (Der.unsignedOctets key.exponent).length ≤ 5 := by
    rw [Der.unsignedOctets, Number.toOctets_length]
    omega
  have hn' : (Der.writeUnsigned key.modulus).length ≤ 519 :=
    (length_write_le _ (by omega)).trans (by omega)
  have he' : (Der.writeUnsigned key.exponent).length ≤ 11 :=
    (length_write_le _ (by omega)).trans (by omega)
  have hcontent :
      (Der.writeUnsigned key.modulus ++ Der.writeUnsigned key.exponent).length ≤ 530 := by
    rw [List.length_append]
    omega
  have hnumbers : (0x00 :: key.toNumbers).length ≤ 537 := by
    have hle := length_write_le Der.sequenceTag (hcontent.trans (by omega))
    rw [← toNumbers] at hle
    rw [List.length_cons]
    omega
  have hbitString : (Der.write Der.bitStringTag (0x00 :: key.toNumbers)).length ≤ 543 :=
    (length_write_le _ (by omega)).trans (by omega)
  have halgorithm : Algorithm.rsa.write.length = 15 := by decide
  rw [toInfo_eq]
  refine (length_write_le _ ?_).trans ?_
  all_goals rw [List.length_append]; omega

/-- **A key that can be used is read exactly where it was written.** -/
theorem ofInfo?_eq_some_iff : ofInfo? s = some key ↔ s = key.toInfo ∧ key.isUsable = true := by
  rw [ofInfo?]
  simp only [Option.bind_eq_bind, Option.bind_eq_some_iff, Prod.exists]
  constructor
  · rintro ⟨content, hall, algorithm, rest, halgorithm, bits, hbits, numbers, hnumbers, key', hkey,
      h⟩
    split_ifs at h with husable
    obtain rfl := Option.some.inj h
    simp only [Bool.and_eq_true, decide_eq_true_eq] at husable
    obtain ⟨rfl, husable⟩ := husable
    obtain ⟨rfl, -, hle⟩ := Der.only?_eq_some_iff.mp hall
    have hcontent := (Der.length_lt_length_write _ _).le.trans hle
    obtain ⟨rfl, -⟩ := (Algorithm.read?_eq_some_iff hcontent).mp halgorithm
    obtain ⟨rfl, -, -⟩ := Der.only?_eq_some_iff.mp hbits
    obtain rfl := wholeBits?_eq_some_iff.mp hnumbers
    obtain ⟨rfl, -⟩ := ofNumbers?_eq_some_iff.mp hkey
    exact ⟨toInfo_eq.symm, husable⟩
  · rintro ⟨rfl, husable⟩
    have hle := length_toInfo_le husable
    have hcontent := Der.length_lt_length_write Der.sequenceTag
      (Algorithm.rsa.write ++ Der.write Der.bitStringTag (0x00 :: key.toNumbers))
    rw [← toInfo_eq, List.length_append] at hcontent
    have hbits := Der.length_lt_length_write Der.bitStringTag (0x00 :: key.toNumbers)
    rw [List.length_cons] at hbits
    refine ⟨_, Der.only?_eq_some_iff.mpr ⟨toInfo_eq, by decide, hle⟩, Algorithm.rsa, _,
      (Algorithm.read?_eq_some_iff ?_).mpr ⟨rfl, Algorithm.isValid_rsa⟩, _,
      Der.only?_eq_some_iff.mpr ⟨rfl, by decide, by omega⟩, _, wholeBits?_eq_some_iff.mpr rfl, key,
      ofNumbers?_eq_some_iff.mpr ⟨rfl, by omega⟩, by simp [husable]⟩
    rw [List.length_append]
    omega

end PublicKey

end Keyring.Rsa
