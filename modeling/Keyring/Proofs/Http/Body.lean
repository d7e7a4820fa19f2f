import Mathlib.Tactic
import Keyring.Http.KeyDocument

/-!
What is read of a body, whatever pieces it arrives in.

* `Body.octets`: all its pieces joined.
* `Body.take_eq`: the octets up to a limit depend on the joined pieces only.
* `Body.excerpt?`, `KeyDocument.refusal_eq`: what an error reports of a body.
* `KeyDocument.ofResponse_eq_ok_iff`: when an answer holds a document, and which one.
-/

namespace Keyring.Http

/-- The octets of a body, its pieces joined. -/
def Body.octets (b : Body) : List UInt8 := b.chunks.flatten

/-- Reading goes on from what has been taken as if that had been the first piece. -/
lemma takeChunks_eq {limit : ℕ} (broken : Bool) {taken : List UInt8} (h : taken.length ≤ limit)
    (chunks : List (List UInt8)) :
    takeChunks limit broken taken chunks
      = if limit < (taken ++ chunks.flatten).length then
          some ((taken ++ chunks.flatten).take limit, true)
        else if broken then none else some (taken ++ chunks.flatten, false) := by
  induction chunks generalizing taken with
  | nil => simp [takeChunks, Nat.not_lt.mpr h]
  | cons chunk more ih =>
      rw [takeChunks]
      by_cases hc : limit - taken.length < chunk.length
      · have hlong : limit < (taken ++ (chunk :: more).flatten).length := by
          simp only [List.flatten_cons, List.length_append]; omega
        have htake : (taken ++ (chunk :: more).flatten).take limit
            = taken ++ chunk.take (limit - taken.length) := by
          rw [List.take_append, List.take_of_length_le h, List.flatten_cons,
            List.take_append_of_le_length (by omega)]
        rw [if_pos hc, if_pos hlong, htake]
      · have hfit : (taken ++ chunk).length ≤ limit := by
          rw [List.length_append]; omega
        rw [if_neg hc, ih hfit, List.flatten_cons, List.append_assoc]

/-- **What is read of a body** depends on its octets only: so many of them if there are more than
the limit, and all of them if it did not break off. -/
theorem Body.take_eq (b : Body) (limit : ℕ) :
    b.take limit
      = if limit < b.octets.length then some (b.octets.take limit, true)
        else if b.broken then none else some (b.octets, false) :=
  takeChunks_eq b.broken (Nat.zero_le limit) b.chunks

/-- What an error reports of a body: its first octets as a text, or nothing if it breaks off before
that. -/
def Body.excerpt? (b : Body) : Option String :=
  if errorBodyLimit < b.octets.length then
    some (String.ofList (Utf8.decodeLossy (b.octets.take errorBodyLimit)))
  else if b.broken then none
  else some (String.ofList (Utf8.decodeLossy b.octets))

lemma KeyDocument.refusal_eq (config : Config) (r : Response) :
    KeyDocument.refusal config r = .status r.status config.keyUrl r.body.excerpt? := by
  rw [refusal, Body.take_eq, Body.excerpt?]
  split_ifs <;> rfl

/-- **When an answer holds a document**: it is a success, neither announces nor has more octets than
allowed, and did not break off. The document is then all that was sent. -/
theorem KeyDocument.ofResponse_eq_ok_iff {config : Config} {r : Response} {document : KeyDocument} :
    KeyDocument.ofResponse config r = .ok document ↔
      r.status.isSuccess = true
        ∧ (∀ length, r.announced = some length → length ≤ config.maxResponseBytes.toNat)
        ∧ r.body.octets.length ≤ config.maxResponseBytes.toNat ∧ r.body.broken = false
        ∧ document = ⟨r.headers, r.body.octets, r.elapsed⟩ := by
  rw [KeyDocument.ofResponse, KeyDocument.ofBody, Body.take_eq]
  cases hs : r.status.isSuccess with
  | false => simp
  | true =>
      by_cases ha : r.announced.any (config.maxResponseBytes.toNat < ·) = true
      · obtain ⟨length, hl, hlt⟩ := (Option.any_eq_true _ _).mp ha
        have hno : ¬ ∀ length, r.announced = some length →
            length ≤ config.maxResponseBytes.toNat := fun h =>
          absurd (of_decide_eq_true hlt) (Nat.not_lt.mpr (h length hl))
        simp [ha, hno]
      · have hall : ∀ length, r.announced = some length →
            length ≤ config.maxResponseBytes.toNat := fun length hl => by
          simpa [hl] using ha
        by_cases hlong : config.maxResponseBytes.toNat < r.body.octets.length
        · simp [ha, hlong, Nat.not_le.mpr hlong]
        · cases hb : r.body.broken with
          | true => simp [ha, hlong]
          | false =>
              simp only [ha, hlong, Nat.not_lt.mp hlong]
              simpa [eq_comm] using fun _ => hall

end Keyring.Http
