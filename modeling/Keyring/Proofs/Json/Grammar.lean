import Mathlib.Tactic
import Keyring.Json.Decode
import Keyring.Proofs.Text.Utf8

/-!
What JSON documents look like.

The readers of `Keyring.Json` work from left to right and answer with what they read. Here it is
said apart from them which octets are a number, a text, a value and an object.

* `Blanks`, `IsNumber`: blanks and numbers.
* `IsText`, `Spells`: the inside of a text by its shape alone, and with the characters that it
  stands for.
* `Spells.isText`, `spells_encode`: how the two go together, and that any text can be written.
* `Written`: a value, and what stands in a list or an object.
* `Members`, `IsObject`: an object with its members, whose names are texts.
-/

namespace Keyring.Json

/-! ### Blanks and numbers -/

/-- Blanks, as many as one likes. -/
def Blanks (s : List UInt8) : Prop := ∀ b ∈ s, isSpace b = true

/-- One digit or more. -/
def Digits (s : List UInt8) : Prop := s ≠ [] ∧ ∀ b ∈ s, isDigit b = true

/-- The digits of a whole number; a zero stands alone. -/
def IsWhole (s : List UInt8) : Prop := Digits s ∧ (s.head? = some 0x30 → s = [0x30])

/-- What may follow a whole number: a point and digits. -/
inductive IsFraction : List UInt8 → Prop where
  | none : IsFraction []
  | digits {s : List UInt8} (h : Digits s) : IsFraction (0x2E :: s)

/-- What may follow then: an exponent, perhaps with its sign. -/
inductive IsExponent : List UInt8 → Prop where
  | none : IsExponent []
  | digits {mark : UInt8} {sign s : List UInt8} (hmark : isExponentMark mark = true)
      (hsign : sign = [] ∨ sign = [0x2B] ∨ sign = [0x2D]) (h : Digits s) :
      IsExponent (mark :: (sign ++ s))

/-- A number of any size. -/
inductive IsNumber : List UInt8 → Prop where
  | parts {minus whole fraction exponent : List UInt8} (hminus : minus = [] ∨ minus = [0x2D])
      (hwhole : IsWhole whole) (hfraction : IsFraction fraction) (hexponent : IsExponent exponent) :
      IsNumber (minus ++ (whole ++ (fraction ++ exponent)))

/-! ### Texts -/

/-- Four hexadecimal digits, and the number that they stand for. -/
def IsUnit (s : List UInt8) (n : ℕ) : Prop :=
  ∃ a b c d w x y z, s = [a, b, c, d] ∧ Hex.octetValue? a = some w ∧ Hex.octetValue? b = some x
    ∧ Hex.octetValue? c = some y ∧ Hex.octetValue? d = some z
    ∧ n = ((w * 16 + x) * 16 + y) * 16 + z

/-- The inside of a text by its shape: nothing is asked of the characters. -/
inductive IsText : List UInt8 → Prop where
  | nil : IsText []
  /-- An octet that is not escaped. -/
  | plain {b : UInt8} {s : List UInt8} (hb : isPlain b = true) (h : IsText s) : IsText (b :: s)
  /-- A backslash and a letter. -/
  | letter {b : UInt8} {s : List UInt8} (hb : (escapedLetter? b).isSome = true) (h : IsText s) :
      IsText (0x5C :: b :: s)
  /-- A backslash, a `u` and four digits. -/
  | unit {u s : List UInt8} {n : ℕ} (hu : IsUnit u n) (h : IsText s) :
      IsText (0x5C :: 0x75 :: (u ++ s))

/-- **The inside of a text and the characters that it stands for.** -/
inductive Spells : List UInt8 → List Char → Prop where
  | nil : Spells [] []
  /-- A character that is not escaped, in UTF-8. -/
  | plain {x : Char} {s : List UInt8} {cs : List Char} (hx : 0x20 ≤ x.toNat) (hquote : x ≠ '"')
      (hbackslash : x ≠ '\\') (h : Spells s cs) : Spells (Utf8.encodeChar x ++ s) (x :: cs)
  /-- A backslash and the letter of a character. -/
  | letter {b : UInt8} {x : Char} {s : List UInt8} {cs : List Char}
      (hb : escapedLetter? b = some x) (h : Spells s cs) : Spells (0x5C :: b :: s) (x :: cs)
  /-- A backslash, a `u` and the number of a character. -/
  | unit {u : List UInt8} {x : Char} {s : List UInt8} {cs : List Char} (hu : IsUnit u x.toNat)
      (h : Spells s cs) : Spells (0x5C :: 0x75 :: (u ++ s)) (x :: cs)
  /-- Two of these that are the halves of a character. -/
  | pair {u v : List UInt8} {m n : ℕ} {x : Char} {s : List UInt8} {cs : List Char}
      (hu : IsUnit u m) (hv : IsUnit v n) (hm : 0xD800 ≤ m ∧ m ≤ 0xDBFF)
      (hn : 0xDC00 ≤ n ∧ n ≤ 0xDFFF)
      (hx : x.toNat = 0x10000 + (m - 0xD800) * 0x400 + (n - 0xDC00)) (h : Spells s cs) :
      Spells (0x5C :: 0x75 :: (u ++ 0x5C :: 0x75 :: (v ++ s))) (x :: cs)

/-- A text between its quotes. -/
def IsString (v : List UInt8) (text : String) : Prop :=
  ∃ s, v = quote :: (s ++ [quote]) ∧ Spells s text.toList

section Texts

variable {b : UInt8} {w s : List UInt8} {x : Char} {cs : List Char}

/-- A character that is not escaped has octets that are not. -/
lemma isPlain_of_mem_encodeChar (hx : 0x20 ≤ x.toNat) (hquote : x ≠ '"') (hbackslash : x ≠ '\\')
    (hb : b ∈ Utf8.encodeChar x) : isPlain b = true := by
  have hno : ∀ {y : Char}, x ≠ y → x.toNat ≠ y.toNat := fun hne heq => hne (Char.toNat_inj.mp heq)
  have h22 : x.toNat ≠ 0x22 := hno hquote
  have h5C : x.toNat ≠ 0x5C := hno hbackslash
  have hle : 0x20 ≤ b.toNat ∧ b.toNat ≠ 0x22 ∧ b.toNat ≠ 0x5C := by
    rcases Utf8.of_mem_encodeChar hb with heq | hle
    · omega
    · omega
  simp [isPlain, UInt8.le_iff_toNat_le, ← UInt8.toNat_inj, hle]

/-- Octets that are not escaped may stand before others. -/
lemma isText_append (hw : ∀ b ∈ w, isPlain b = true) (h : IsText s) : IsText (w ++ s) := by
  induction w with
  | nil => exact h
  | cons b w ih =>
      exact .plain (hw b List.mem_cons_self) (ih fun c hc => hw c (List.mem_cons_of_mem _ hc))

/-- What stands for characters has the shape of a text. -/
lemma Spells.isText (h : Spells s cs) : IsText s := by
  induction h with
  | nil => exact .nil
  | plain hx hquote hbackslash h ih =>
      exact isText_append (fun b hb => isPlain_of_mem_encodeChar hx hquote hbackslash hb) ih
  | letter hb h ih => exact .letter (by rw [hb]; rfl) ih
  | unit hu h ih => exact .unit hu ih
  | pair hu hv hm hn hx h ih => exact .unit hu (.unit hv ih)

/-- A text in which nothing has to be escaped can be written as it is. -/
lemma spells_encode (h : ∀ x ∈ cs, 0x20 ≤ x.toNat ∧ x ≠ '"' ∧ x ≠ '\\') :
    Spells (Utf8.encode cs) cs := by
  induction cs with
  | nil => exact .nil
  | cons x cs ih =>
      obtain ⟨hx, hquote, hbackslash⟩ := h x List.mem_cons_self
      exact .plain hx hquote hbackslash (ih fun y hy => h y (List.mem_cons_of_mem _ hy))

end Texts

/-! ### Values -/

/-- The octet that opens a list or an object. -/
def Frame.opening : Frame → UInt8
  | .list => openList
  | .object => openObject

/-- What precedes a value in a list or an object: nothing, or a name and a colon. -/
inductive Lead : Frame → List UInt8 → Prop where
  | list : Lead .list []
  | object {b name b' : List UInt8} (hb : Blanks b) (hname : IsText name) (hb' : Blanks b') :
      Lead .object (b ++ quote :: (name ++ quote :: (b' ++ [colon])))

/-- What can be written: a value, or what stands in a list or an object. -/
inductive Part where
  | value
  | items (f : Frame)

/-- **What is written properly**, of any size and nested to any depth. -/
inductive Written : Part → List UInt8 → Prop where
  | null : Written .value (ascii "null")
  | true : Written .value (ascii "true")
  | false : Written .value (ascii "false")
  | number {s : List UInt8} (h : IsNumber s) : Written .value s
  | text {s : List UInt8} (h : IsText s) : Written .value (quote :: (s ++ [quote]))
  /-- A list or an object with nothing in it. -/
  | empty (f : Frame) {b : List UInt8} (hb : Blanks b) :
      Written .value (f.opening :: (b ++ [f.close]))
  /-- One with something in it. -/
  | filled {f : Frame} {s : List UInt8} (h : Written (.items f) s) :
      Written .value (f.opening :: (s ++ [f.close]))
  /-- A last value. -/
  | last {f : Frame} {l b v b' : List UInt8} (hl : Lead f l) (hb : Blanks b)
      (hv : Written .value v) (hb' : Blanks b') : Written (.items f) (l ++ (b ++ (v ++ b')))
  /-- A value that others follow. -/
  | more {f : Frame} {l b v b' s : List UInt8} (hl : Lead f l) (hb : Blanks b)
      (hv : Written .value v) (hb' : Blanks b') (h : Written (.items f) s) :
      Written (.items f) (l ++ (b ++ (v ++ (b' ++ comma :: s))))

/-- A text between its quotes is a value. -/
lemma IsString.written {v : List UInt8} {text : String} (h : IsString v text) :
    Written .value v := by
  obtain ⟨s, rfl, hs⟩ := h
  exact .text hs.isText

/-! ### Objects with their members -/

/-- The name of a member and the colon after it. -/
def Label (name : String) (l : List UInt8) : Prop :=
  ∃ b v b', l = b ++ (v ++ (b' ++ [colon])) ∧ Blanks b ∧ IsString v name ∧ Blanks b'

/-- Members, each with its name and its value as it is written. -/
inductive Members : List (String × List UInt8) → List UInt8 → Prop where
  | last {name : String} {l b v b' : List UInt8} (hl : Label name l) (hb : Blanks b)
      (hv : Written .value v) (hb' : Blanks b') : Members [(name, v)] (l ++ (b ++ (v ++ b')))
  | more {name : String} {l b v b' s : List UInt8} {rest : List (String × List UInt8)}
      (hl : Label name l) (hb : Blanks b) (hv : Written .value v) (hb' : Blanks b')
      (h : Members rest s) :
      Members ((name, v) :: rest) (l ++ (b ++ (v ++ (b' ++ comma :: s))))

/-- **A document that is an object** with these members. -/
def IsObject (document : List UInt8) (members : List (String × List UInt8)) : Prop :=
  ∃ b s b', document = b ++ openObject :: (s ++ closeObject :: b') ∧ Blanks b ∧ Blanks b'
    ∧ (members = [] ∧ Blanks s ∨ Members members s)

end Keyring.Json
