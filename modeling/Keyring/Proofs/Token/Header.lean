import Mathlib.Tactic
import Keyring.Proofs.Json.Layout
import Keyring.Token

/-!
What is read in the header of a token that is written as an object.

* `Header.Field`, `Header.layout`: the three members that matter, one like the other, each a text or
  `null`.
* `Header.Declares`: a document names the accepted algorithm and a key id.
* `Header.exists_read`: then it is read so.
-/

namespace Keyring.Token.Header

open Json (IsObject IsString IsTextOrNull)

/-! ### The members that matter -/

/-- The members that matter. -/
inductive Field where
  | alg
  | kid
  | typ

namespace Field

/-- The name of a member. -/
def name : Field → String
  | .alg => "alg"
  | .kid => "kid"
  | .typ => "typ"

/-- What has been read of a member. -/
def part (f : Field) (p : Parts) : Option (Option String) :=
  match f with
  | .alg => p.alg
  | .kid => p.kid
  | .typ => p.typ

/-- What has been read, and this for one member. -/
def put (f : Field) (p : Parts) (a : Option String) : Parts :=
  match f with
  | .alg => { p with alg := some a }
  | .kid => { p with kid := some a }
  | .typ => { p with typ := some a }

variable {f g : Field} {p : Parts} {a : Option String}

lemma name_injective (h : f.name = g.name) : f = g := by
  cases f <;> cases g <;> first | rfl | exact absurd h (by decide)

@[simp] lemma part_put : f.part (f.put p a) = some a := by cases f <;> rfl

lemma part_put_of_ne (h : g ≠ f) : g.part (f.put p a) = g.part p := by
  cases f <;> cases g <;> first | rfl | exact absurd rfl h

/-- Each member that matters is read like the others. -/
lemma readMember_name (f : Field) (p : Parts) (s : List UInt8) :
    readMember p f.name s
      = (Json.readField f.name (f.part p).isSome readText s).map fun v => (f.put p v.1, v.2) := by
  cases f with
  | alg => rw [name, readMember, if_pos rfl]; rfl
  | kid => rw [name, readMember, if_neg (by decide), if_pos rfl]; rfl
  | typ => rw [name, readMember, if_neg (by decide), if_neg (by decide), if_pos rfl]; rfl

end Field

/-- The others are passed over. -/
lemma passes {name : String} (h : ∀ f : Field, name ≠ f.name) : Json.Passes readMember name := by
  intro p s
  have halg : name ≠ "alg" := h .alg
  have hkid : name ≠ "kid" := h .kid
  have htyp : name ≠ "typ" := h .typ
  rw [readMember, if_neg halg, if_neg hkid, if_neg htyp]

/-- **The members of a header that matter.** -/
def layout : Json.Layout readMember where
  Field := Field
  Value := fun _ => Option String
  name := Field.name
  part := Field.part
  put := Field.put
  read := fun _ => readText
  Tells := fun _ => IsTextOrNull
  name_injective := fun _ _ => Field.name_injective
  part_put := Field.part_put
  part_put_of_ne := Field.part_put_of_ne
  member_name := Field.readMember_name
  read_append := fun h hb _ => Json.readOptional_append h hb _

variable {kid : String}

/-! ### A header that names a key -/

/-- **A document names the accepted algorithm and a key id**: it is an object with members `alg` and
`kid` that are these texts, and `typ` is a text or null if it is there. None of the three is
repeated; there may be any other members, with any values. A text is made of characters, so no half
of one stands alone in it; within the values of the other members it may. -/
structure Declares (document : List UInt8) (members : List (String × List UInt8)) (kid : String) :
    Prop where
  object : IsObject document members
  alg : ∃ v, ("alg", v) ∈ members ∧ IsString v "RS256"
  kid : ∃ v, ("kid", v) ∈ members ∧ IsString v kid
  typ : ∀ v, ("typ", v) ∈ members → v = Json.ascii "null" ∨ ∃ text, IsString v text
  once : ∀ name ∈ ["alg", "kid", "typ"], (members.map Prod.fst).count name ≤ 1

namespace Declares

variable {document : List UInt8} {ms : List (String × List UInt8)}

/-- Each member of a document that declares a key id can be read. -/
lemma admits (h : Declares document ms kid) {name : String} {v : List UInt8} (hv : (name, v) ∈ ms) :
    layout.Admits name v := by
  refine Json.Layout.admits passes (h.object.written hv) fun f hf => ?_
  subst hf
  change ∃ a, IsTextOrNull v a
  cases f with
  | alg =>
      obtain ⟨w, hw, hstring⟩ := h.alg
      obtain rfl := Json.member_value_eq (h.once "alg" (by simp)) hv hw
      exact ⟨some "RS256", hstring⟩
  | kid =>
      obtain ⟨w, hw, hstring⟩ := h.kid
      obtain rfl := Json.member_value_eq (h.once "kid" (by simp)) hv hw
      exact ⟨some kid, hstring⟩
  | typ =>
      rcases h.typ v hv with hnull | ⟨text, hstring⟩
      · exact ⟨none, hnull⟩
      · exact ⟨some text, hstring⟩

/-- **A document that declares a key id is read as a header** with the accepted algorithm and this
key id. -/
theorem exists_read (h : Declares document ms kid) :
    ∃ header, Json.readDocument read document = .ok header ∧ header.alg = some "RS256"
      ∧ header.kid = some kid := by
  obtain ⟨p, hp⟩ := Json.Layout.exists_gathers (L := layout) ms Parts.empty h.admits
    (fun f => h.once (Field.name f) (by cases f <;> decide)) (fun f _ => by cases f <;> rfl)
  obtain ⟨v, hv, hstring⟩ := h.alg
  obtain ⟨w, hw, hkid⟩ := h.kid
  have hpalg : p.alg = some (some "RS256") :=
    hp.told (f := Field.alg) hv (show IsTextOrNull v (some "RS256") from hstring)
  have hpkid : p.kid = some (some kid) :=
    hp.told (f := Field.kid) hw (show IsTextOrNull w (some kid) from hkid)
  refine ⟨p.toHeader, Json.readDocument_object h.object hp.takes rfl, ?_, ?_⟩
  · rw [Parts.toHeader, hpalg]
    rfl
  · rw [Parts.toHeader, hpkid]
    rfl

end Declares

end Keyring.Token.Header
