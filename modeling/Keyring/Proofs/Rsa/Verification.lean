import Mathlib.Tactic
import Keyring.Proofs.Number.Octets
import Keyring.Rsa.Signature

/-!
A signature is tested part by part, and this comes to comparing it with the one block that is
signed.

* `exists_parts`: a block that is long enough, as its parts.
* `isBlockOf_iff`: the parts are right exactly for the block that is signed.
* `PublicKey.Signs`: what a signature is, by RFC 8017.
* `PublicKey.verifies_iff`: the test accepts exactly the signatures.
-/

namespace Keyring.Rsa

open Number (ofOctets toOctets)

/-! ### Blocks -/

/-- The block of a message fills the octets it is made for. -/
lemma encodedMessage_length {size : ℕ} (message : List UInt8) (h : leastSize ≤ size) :
    (encodedMessage size message).length = size := by
  have hname : digestName.length = 19 := rfl
  rw [leastSize] at h
  simp only [encodedMessage, List.length_append, List.length_replicate, List.length_cons,
    List.length_nil, hname, Sha256.digest_length]
  omega

/-- A block that is long enough is two octets, padding of at least eight, one octet, and two parts
of given lengths. -/
lemma exists_parts {block : List UInt8} {m n : ℕ} (h : m + n + 11 ≤ block.length) :
    ∃ first second padding separator name digest,
      block = first :: second :: (padding ++ separator :: (name ++ digest))
        ∧ padding.length + 3 + m + n = block.length ∧ name.length = m ∧ digest.length = n := by
  match block with
  | [] => simp at h
  | [_] => simp at h
  | first :: second :: rest =>
      have hrest : m + n + 9 ≤ rest.length := by simpa using h
      have hsize : rest.length - (m + n + 1) < rest.length := by omega
      refine ⟨first, second, rest.take (rest.length - (m + n + 1)), rest[rest.length - (m + n + 1)],
        (rest.drop (rest.length - (m + n))).take m, rest.drop (rest.length - n), ?_, ?_, ?_, ?_⟩
      · have hdrop : (rest.drop (rest.length - (m + n))).drop m = rest.drop (rest.length - n) := by
          rw [List.drop_drop]
          congr 1
          omega
        have hnext : rest.length - (m + n + 1) + 1 = rest.length - (m + n) := by omega
        rw [← hdrop, List.take_append_drop, ← hnext, List.getElem_cons_drop,
          List.take_append_drop]
      · simp only [List.length_take, List.length_cons]
        omega
      · simp only [List.length_take, List.length_drop]
        omega
      · simp only [List.length_drop]
        omega

/-- What is looked at in a block are its parts. -/
lemma isBlockOf_parts {first second separator : UInt8} {padding name digest wanted : List UInt8}
    (hp : 8 ≤ padding.length) (hn : name.length = digestName.length)
    (hd : digest.length = wanted.length) :
    isBlockOf wanted (first :: second :: (padding ++ separator :: (name ++ digest))) = true
      ↔ first = 0x00 ∧ second = 0x01 ∧ digest = wanted ∧ name = digestName ∧ separator = 0x00
        ∧ padding = List.replicate padding.length 0xFF := by
  set block := first :: second :: (padding ++ separator :: (name ++ digest)) with hblock
  have hsize : block.length = padding.length + 3 + digestName.length + wanted.length := by
    simp only [hblock, List.length_cons, List.length_append, hn, hd]
    omega
  have hlong : digestName.length + wanted.length + 11 ≤ block.length := by omega
  -- the parts are found by counting from the end of the block
  have hdigest : block.drop (block.length - wanted.length) = digest := by
    have hsplit : block = (first :: second :: (padding ++ separator :: name)) ++ digest := by
      simp [hblock]
    rw [hsize, hsplit]
    refine List.drop_left' ?_
    simp only [List.length_cons, List.length_append, hn]
    omega
  have hname : (block.drop (block.length - (digestName.length + wanted.length))).take
      digestName.length = name := by
    have hsplit : block = (first :: second :: (padding ++ [separator])) ++ (name ++ digest) := by
      simp [hblock]
    rw [hsize, hsplit, List.drop_left', List.take_left' hn]
    simp only [List.length_cons, List.length_append, List.length_nil]
    omega
  have hpadding : (block.drop 2).take
      (block.length - (digestName.length + wanted.length) - 3) = padding := by
    rw [hsize, hblock, List.drop_succ_cons, List.drop_succ_cons, List.drop_zero]
    refine List.take_left' ?_
    omega
  have hseparator : block[block.length - (digestName.length + wanted.length) - 1]?
      = some separator := by
    have hplace : block.length - (digestName.length + wanted.length) - 1
        = padding.length + 2 := by omega
    rw [hplace, hblock]
    simp
  obtain ⟨_, hseparator⟩ := List.getElem?_eq_some_iff.mp hseparator
  rw [isBlockOf]
  simp only [dif_pos hlong, hdigest, hname, hpadding, hseparator, Bool.and_eq_true,
    decide_eq_true_eq, List.all_eq_true, List.eq_replicate_length, and_assoc]
  rfl

/-- **A block is accepted exactly if it is the block of the message.** -/
theorem isBlockOf_iff {message block : List UInt8} :
    isBlockOf (Sha256.digest message) block = true
      ↔ leastSize ≤ block.length ∧ block = encodedMessage block.length message := by
  have hleast : leastSize = digestName.length + (Sha256.digest message).length + 11 := by
    rw [Sha256.digest_length]
    rfl
  by_cases hlong : leastSize ≤ block.length
  · obtain ⟨first, second, padding, separator, name, digest, hblock, hsize, hn, hd⟩ :=
      exists_parts (hleast ▸ hlong)
    have hp : block.length - 54 = padding.length := by
      rw [Sha256.digest_length, show digestName.length = 19 from rfl] at hsize
      omega
    have height : 8 ≤ padding.length := by omega
    rw [encodedMessage, hp, hblock, isBlockOf_parts height hn hd]
    simp only [List.cons_append, List.nil_append, List.append_assoc, List.cons.injEq]
    constructor
    · rintro ⟨rfl, rfl, rfl, rfl, rfl, hones⟩
      exact ⟨hblock ▸ hlong, rfl, rfl, by rw [← hones]⟩
    · rintro ⟨-, rfl, rfl, hrest⟩
      obtain ⟨hones, hrest⟩ := List.append_inj hrest (List.length_replicate).symm
      obtain ⟨rfl, hnamed⟩ := List.cons.inj hrest
      obtain ⟨rfl, rfl⟩ := List.append_inj hnamed hn
      exact ⟨rfl, rfl, rfl, rfl, rfl, hones⟩
  · have hshort : ¬ digestName.length + (Sha256.digest message).length + 11 ≤ block.length :=
      hleast ▸ hlong
    simp [isBlockOf, hshort, hlong]

/-! ### Signatures -/

/-- What a signature of a message is (RFC 8017, 8.2.2): the modulus has room for a block; the
signature has as many octets as the modulus and is below it; and its power is the number of the
block of the message. -/
structure PublicKey.Signs (k : PublicKey) (message signature : List UInt8) : Prop where
  room : leastSize ≤ k.size
  length : signature.length = k.size
  range : ofOctets signature < k.modulus
  power : ofOctets signature ^ k.exponent % k.modulus = ofOctets (encodedMessage k.size message)

/-- A power modulo the modulus fits into as many octets as the modulus. -/
lemma PublicKey.power_lt {k : PublicKey} (h : 0 < k.modulus) (s : ℕ) :
    s ^ k.exponent % k.modulus < 256 ^ k.size :=
  (Nat.mod_lt _ h).trans (Number.octetSize_le_iff.mp le_rfl)

/-- The octets of a number are a block exactly if the number is the number of the block. -/
lemma toOctets_eq_encodedMessage_iff {size n : ℕ} {message : List UInt8} (hsize : leastSize ≤ size)
    (hn : n < 256 ^ size) :
    toOctets size n = encodedMessage size message ↔ n = ofOctets (encodedMessage size message) := by
  have hlength := encodedMessage_length message hsize
  rw [← Number.ofOctets_inj (by rw [Number.toOctets_length, hlength]), Number.ofOctets_toOctets,
    Nat.mod_eq_of_lt hn]

/-- **The test accepts exactly the signatures**, whatever the numbers of the key. -/
theorem PublicKey.verifies_iff {k : PublicKey} {message signature : List UInt8} :
    k.verifies message signature = true ↔ k.Signs message signature := by
  rw [verifies]
  by_cases hs : k.modulus ≤ ofOctets signature ∨ signature.length ≠ k.size
  · refine ⟨fun h => by simp [hs] at h, fun h => ?_⟩
    have hrange := h.range
    exact absurd hs (by simp [h.length, hrange])
  · obtain ⟨hrange, hlength⟩ := not_or.mp hs
    have hrange : ofOctets signature < k.modulus := not_le.mp hrange
    have hpower := k.power_lt (Nat.zero_lt_of_lt hrange) (ofOctets signature)
    have hpow : Number.powMod (ofOctets signature) k.exponent k.modulus
        = ofOctets signature ^ k.exponent % k.modulus := Number.powMod_eq _ _ _
    simp only [hs, Bool.or_eq_true, decide_eq_true_eq, if_false, hpow,
      Number.toOctets?_eq_some hpower, isBlockOf_iff, Number.toOctets_length]
    constructor
    · rintro ⟨hroom, hblock⟩
      exact ⟨hroom, not_not.mp hlength, hrange,
        (toOctets_eq_encodedMessage_iff hroom hpower).mp hblock⟩
    · rintro ⟨hroom, -, -, hblock⟩
      exact ⟨hroom, (toOctets_eq_encodedMessage_iff hroom hpower).mpr hblock⟩

end Keyring.Rsa
