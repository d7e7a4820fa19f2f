import Mathlib.Tactic
import Keyring.Proofs.Config.Lengths

/-!
The values of a configuration, and how the members of its document are read.

* `Config.Setting`: the values that a configuration can be given; `Config.resetting`: one with some
  of its values taken from another one.
* `Config.Field`: these values and the address, as members; `Config.Field.read_append`: each is read
  as what it tells.
* `Config.layout`: the members that matter; `Config.passes`: the others are passed over.
-/

namespace Keyring.Config

open Json (Blanks IsString Stops)

/-! ### The values of a configuration -/

/-- The values that a configuration can be given, apart from its address. -/
inductive Setting where
  | requireHttps
  | maxResponseBytes
  | fetchTimeout
  | failurePolicy
  | staleWhileError
  deriving DecidableEq

namespace Setting

/-- What a value is, as it is read. -/
def Value : Setting → Type
  | .requireHttps => Bool
  | .maxResponseBytes => ℕ
  | .fetchTimeout => Duration
  | .failurePolicy => FailurePolicy
  | .staleWhileError => Duration

/-- The name of its member. -/
def name : Setting → String
  | .requireHttps => "require_https"
  | .maxResponseBytes => "max_response_bytes"
  | .fetchTimeout => "fetch_timeout"
  | .failurePolicy => "failure_policy"
  | .staleWhileError => "stale_while_error"

/-- The value that a configuration has. -/
def of : (s : Setting) → Config → s.Value
  | .requireHttps, c => c.requireHttps
  | .maxResponseBytes, c => c.maxResponseBytes.toNat
  | .fetchTimeout, c => c.fetchTimeout
  | .failurePolicy, c => c.failurePolicy
  | .staleWhileError, c => c.staleWhileError

/-- The configuration `c` with this value of `d`. -/
def carry (d : Config) (c : Config) : Setting → Config
  | .requireHttps => c.withRequireHttps d.requireHttps
  | .maxResponseBytes => c.withMaxResponseBytes d.maxResponseBytes
  | .fetchTimeout => c.withFetchTimeout d.fetchTimeout
  | .failurePolicy => c.withFailurePolicy d.failurePolicy
  | .staleWhileError => c.withStaleWhileError d.staleWhileError

variable {c d : Config} {s t : Setting}

@[simp] lemma keyUrl_carry : (carry d c s).keyUrl = c.keyUrl := by cases s <;> rfl

@[simp] lemma of_carry : s.of (carry d c s) = s.of d := by cases s <;> rfl

lemma of_carry_of_ne (h : t ≠ s) : t.of (carry d c s) = t.of c := by
  cases s <;> cases t <;> first | rfl | exact absurd rfl h

end Setting

variable {c d : Config} {s : Setting}

/-- A configuration is its address and these values. -/
lemma eq_of_settings (hurl : c.keyUrl = d.keyUrl) (h : ∀ s : Setting, s.of c = s.of d) : c = d := by
  cases c
  cases d
  rw [Config.mk.injEq]
  exact ⟨hurl, h .requireHttps, UInt64.toNat_inj.mp (h .maxResponseBytes), h .fetchTimeout,
    h .failurePolicy, h .staleWhileError⟩

/-- **A configuration with some of its values taken from another one.** -/
def resetting (c : Config) (removed : List Setting) (fresh : Config) : Config :=
  removed.foldl (Setting.carry fresh) c

@[simp] lemma keyUrl_resetting (removed : List Setting) :
    (c.resetting removed d).keyUrl = c.keyUrl := by
  induction removed generalizing c with
  | nil => rfl
  | cons s removed ih => rw [resetting, List.foldl_cons, ← resetting, ih, Setting.keyUrl_carry]

/-- A configuration with some values taken from another one has these values of the other one, and
its own ones otherwise. -/
lemma of_resetting (removed : List Setting) :
    s.of (c.resetting removed d) = if s ∈ removed then s.of d else s.of c := by
  induction removed generalizing c with
  | nil => simp [resetting]
  | cons t removed ih =>
      rw [resetting, List.foldl_cons, ← resetting, ih]
      by_cases hs : s ∈ removed
      · simp [hs]
      · by_cases ht : s = t
        · subst ht
          simp [hs]
        · simp [hs, ht, Setting.of_carry_of_ne ht]

/-! ### The members that matter -/

/-- The members of a configuration: its address and its values. -/
inductive Field where
  | keyUrl
  | setting (s : Setting)
  deriving DecidableEq

namespace Field

/-- All members, in the order in which they are written. -/
def all : List Field :=
  [.keyUrl, .setting .requireHttps, .setting .maxResponseBytes, .setting .fetchTimeout,
    .setting .failurePolicy, .setting .staleWhileError]

lemma mem_all (f : Field) : f ∈ all := by
  cases f with
  | keyUrl => decide
  | setting s => cases s <;> decide

/-- What one of them can tell. -/
def Value : Field → Type
  | .keyUrl => Url
  | .setting s => s.Value

/-- The name of one. -/
def name : Field → String
  | .keyUrl => "key_url"
  | .setting s => s.name

lemma name_injective : name.Injective := by
  intro f g h
  cases f with
  | keyUrl =>
      cases g with
      | keyUrl => rfl
      | setting t => cases t <;> exact absurd h (by decide)
  | setting s =>
      cases g with
      | keyUrl => cases s <;> exact absurd h (by decide)
      | setting t => cases s <;> cases t <;> first | rfl | exact absurd h (by decide)

/-- What has been read of one. -/
def part : (f : Field) → Parts → Option f.Value
  | .keyUrl, p => p.keyUrl
  | .setting .requireHttps, p => p.requireHttps
  | .setting .maxResponseBytes, p => p.maxResponseBytes
  | .setting .fetchTimeout, p => p.fetchTimeout
  | .setting .failurePolicy, p => p.failurePolicy
  | .setting .staleWhileError, p => p.staleWhileError

/-- What has been read, and this of one. -/
def put : (f : Field) → Parts → f.Value → Parts
  | .keyUrl, p, a => { p with keyUrl := some a }
  | .setting .requireHttps, p, a => { p with requireHttps := some a }
  | .setting .maxResponseBytes, p, a => { p with maxResponseBytes := some a }
  | .setting .fetchTimeout, p, a => { p with fetchTimeout := some a }
  | .setting .failurePolicy, p, a => { p with failurePolicy := some a }
  | .setting .staleWhileError, p, a => { p with staleWhileError := some a }

/-- How one is read. -/
def read : (f : Field) → List UInt8 → Json.Reading f.Value
  | .keyUrl => readUrl
  | .setting .requireHttps => Json.readBool
  | .setting .maxResponseBytes => readLimit
  | .setting .fetchTimeout => Duration.read
  | .setting .failurePolicy => readPolicy
  | .setting .staleWhileError => Duration.read

/-- What a value tells. -/
def Tells : (f : Field) → List UInt8 → f.Value → Prop
  | .keyUrl, v, url => ∃ text, IsString v text ∧ Url.parse text = .ok url
  | .setting .requireHttps, v, b => v = (Json.Value.bool b).octets
  | .setting .maxResponseBytes, v, n => Json.IsNatural UInt64.size v n
  | .setting .fetchTimeout, v, d => Duration.Says d v
  | .setting .failurePolicy, v, p => IsString v (FailurePolicy.name p)
  | .setting .staleWhileError, v, d => Duration.Says d v

variable {f g : Field} {p : Parts} {a : f.Value} {v b r : List UInt8}

lemma part_put : f.part (f.put p a) = some a := by
  cases f with
  | keyUrl => rfl
  | setting s => cases s <;> rfl

lemma part_put_of_ne (h : g ≠ f) : g.part (f.put p a) = g.part p := by
  cases f with
  | keyUrl =>
      cases g with
      | keyUrl => exact absurd rfl h
      | setting t => cases t <;> rfl
  | setting s =>
      cases g with
      | keyUrl => cases s <;> rfl
      | setting t => cases s <;> cases t <;> first | rfl | exact absurd rfl h

/-- Each member that matters is read like the others. -/
lemma readMember_name (f : Field) (p : Parts) (s : List UInt8) :
    readMember p f.name s
      = (Json.readField f.name (f.part p).isSome f.read s).map fun v => (f.put p v.1, v.2) := by
  cases f with
  | keyUrl => rw [name, readMember, if_pos rfl]; rfl
  | setting t =>
      cases t with
      | requireHttps =>
          rw [name, Setting.name, readMember, if_neg (by decide), if_pos rfl]
          rfl
      | maxResponseBytes =>
          rw [name, Setting.name, readMember, if_neg (by decide), if_neg (by decide), if_pos rfl]
          rfl
      | fetchTimeout =>
          rw [name, Setting.name, readMember, if_neg (by decide), if_neg (by decide),
            if_neg (by decide), if_pos rfl]
          rfl
      | failurePolicy =>
          rw [name, Setting.name, readMember, if_neg (by decide), if_neg (by decide),
            if_neg (by decide), if_neg (by decide), if_pos rfl]
          rfl
      | staleWhileError =>
          rw [name, Setting.name, readMember, if_neg (by decide), if_neg (by decide),
            if_neg (by decide), if_neg (by decide), if_neg (by decide), if_pos rfl]
          rfl

lemma ofName_name (p : FailurePolicy) : FailurePolicy.ofName p.name = .ok p := by
  cases p <;> rfl

/-- **A value is read** as what it tells. -/
lemma read_append (h : f.Tells v a) (hb : Blanks b) (hr : Stops r) :
    f.read (b ++ (v ++ r)) = .ok (a, r) := by
  cases f with
  | keyUrl =>
      obtain ⟨text, hstring, hparse⟩ := h
      refine (Json.readTextAs_blanks hb _).trans (Json.readTextAs_append hstring ?_ r)
      rw [hparse]
      rfl
  | setting s =>
      cases s with
      | requireHttps =>
          obtain rfl : v = (Json.Value.bool a).octets := h
          exact Json.readBool_append a hb r
      | maxResponseBytes => exact Json.IsNatural.readNatural_append h le_rfl hb hr
      | fetchTimeout => exact Duration.read_append h hb r
      | failurePolicy => exact Json.readVariant_append h (ofName_name a) hb r
      | staleWhileError => exact Duration.read_append h hb r

end Field

/-- The members that matter in a configuration. -/
def layout : Json.Layout readMember where
  Field := Field
  Value := Field.Value
  name := Field.name
  part := Field.part
  put := Field.put
  read := Field.read
  Tells := Field.Tells
  name_injective := Field.name_injective
  part_put := Field.part_put
  part_put_of_ne := Field.part_put_of_ne
  member_name := Field.readMember_name
  read_append := Field.read_append

/-- The others are passed over. -/
lemma passes {name : String} (h : ∀ f : Field, name ≠ f.name) : Json.Passes readMember name := by
  intro p s
  have hurl : name ≠ "key_url" := h .keyUrl
  have hhttps : name ≠ "require_https" := h (.setting .requireHttps)
  have hbytes : name ≠ "max_response_bytes" := h (.setting .maxResponseBytes)
  have htimeout : name ≠ "fetch_timeout" := h (.setting .fetchTimeout)
  have hpolicy : name ≠ "failure_policy" := h (.setting .failurePolicy)
  have hstale : name ≠ "stale_while_error" := h (.setting .staleWhileError)
  rw [readMember, if_neg hurl, if_neg hhttps, if_neg hbytes, if_neg htimeout, if_neg hpolicy,
    if_neg hstale]

end Keyring.Config
