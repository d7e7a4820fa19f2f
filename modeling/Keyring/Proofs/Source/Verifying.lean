import Mathlib.Tactic
import Keyring.Proofs.Source.History
import Keyring.Proofs.Token.Verdict

/-!
Verifying tokens among other operations on a source.

Verifying a token is a call for keys, if the token claims a key id, and a verdict on the keys that
the call answers with. Among the calls on a shared source it is therefore one of those for keys.

* `verify_eq`: verifying a token is a call for keys and a verdict, or an error without a call.
* `Holder.verified?`: the verdict on a token with the answer of a call;
  `Holder.verified?_eq_ok` says when it is accepted.
* `Holder.Accords.verify_eq`: the verdict is the one of `Source.verify`.
-/

namespace Keyring.Source

open Http (Playback Transport)

/-- **Verifying a token is a call for keys and a verdict**, and changes the source as the call does.
Without a claim there is no call. -/
lemma verify_eq {σ : Type} (send : Transport σ) (s : Source) (call : Call) (text : String)
    (net : σ) :
    s.verify send call text net
      = match Token.claim text with
        | .error e => (some (.error e), s, net)
        | .ok _ =>
          let r := s.keys send call net
          (Token.judge r.1 text, r.2) := by
  rw [verify]
  unfold Token.judge
  cases Token.claim text with
  | error e => rfl
  | ok c => rfl

/-- The outcome of a call for keys. -/
def Answer.found? : Answer → Outcome (List PublishedKey)
  | .keys result => some result
  | _ => none

lemma Answer.found?_eq_some {a : Answer} {result : Except Error (List PublishedKey)} :
    a.found? = some result ↔ a = .keys result := by
  cases a <;> simp [Answer.found?]

/-- The verdict on a token with the answer of a call. -/
def Holder.verified? (v : Holder) (text : String) : Outcome String :=
  Token.judge (v.answer?.bind Answer.found?) text

/-- A token is accepted if the call answered with keys that accept it. -/
lemma Holder.verified?_eq_ok {v : Holder} {text kid : String}
    (h : v.verified? text = some (.ok kid)) :
    ∃ t keys key, v.answer? = some (.keys (.ok keys)) ∧ Token.Claims text t kid
      ∧ Token.FirstUnder keys kid key ∧ t.verifySignature key = .ok () := by
  obtain ⟨t, keys, key, hclaims, hgot, hfirst, hsigned⟩ :=
    Token.Verdict.ok_iff.mp (Token.judge_eq_iff.mp h)
  obtain ⟨answer, hanswer, hfound⟩ := Option.bind_eq_some_iff.mp hgot
  rw [Answer.found?_eq_some.mp hfound] at hanswer
  exact ⟨t, keys, key, hanswer, hclaims, hfirst, hsigned⟩

/-- **The verdict on a token** whose verification makes this call is the one of `Source.verify`,
which leaves the same source and sends the same requests. -/
theorem Holder.Accords.verify_eq {s s' : Source} {v : Holder} {client : Option Http.Client}
    {text : String} {c : Token × String} (h : v.Accords s s')
    (hv : v.hasReleased = true ∨ v.answer?.isSome = true) (ho : v.turn.operation = .keys client)
    (hc : Token.claim text = .ok c) :
    let r := s.verify Playback.send v.turn.call text (.ofReplies v.turn.replies)
    r.1 = v.verified? text ∧ r.2.1 = s' ∧ r.2.2.asked = v.requests := by
  intro r
  have hr : r = let k := s.keys Playback.send v.turn.call (.ofReplies v.turn.replies)
      (Token.judge k.1 text, k.2) := by
    simp only [r, Source.verify_eq, hc]
  have hrun := (h.run_eq hv).1
  rw [Turn.run, ho] at hrun
  rw [hr, verified?]
  generalize s.keys Playback.send v.turn.call (.ofReplies v.turn.replies) = k at hrun ⊢
  obtain ⟨outcome, after, net⟩ := k
  obtain ⟨hanswer, rfl, hasked⟩ :
      outcome.map .keys = v.answer? ∧ after = s' ∧ net.asked = v.requests :=
    by simpa using hrun
  refine ⟨?_, rfl, hasked⟩
  rw [← hanswer]
  cases outcome with
  | none => rfl
  | some result => rfl

end Keyring.Source
