/-!
UTF-8: characters written as one to four octets, and octets read back.

* `Utf8.encodeChar`, `Utf8.encode`: the octets of a character and of a text.
* `Utf8.next`: reads one character, or says how many octets cannot belong to one.
* `Utf8.decode`: the text of octets that are well formed throughout; otherwise the place of the
  first octet that is not.
* `Utf8.decodeLossy`: the text of any octets, each ill-formed stretch replaced by U+FFFD.
-/

namespace Keyring.Utf8

/-! ### Writing -/

/-- The octets of one character: one up to U+007F, two up to U+07FF, three up to U+FFFF, four above.
-/
def encodeChar (c : Char) : List UInt8 :=
  let n := c.toNat
  if n < 0x80 then [UInt8.ofNat n]
  else if n < 0x800 then [UInt8.ofNat (0xC0 + n / 0x40), UInt8.ofNat (0x80 + n % 0x40)]
  else if n < 0x10000 then
    [UInt8.ofNat (0xE0 + n / 0x1000), UInt8.ofNat (0x80 + n / 0x40 % 0x40),
      UInt8.ofNat (0x80 + n % 0x40)]
  else
    [UInt8.ofNat (0xF0 + n / 0x40000), UInt8.ofNat (0x80 + n / 0x1000 % 0x40),
      UInt8.ofNat (0x80 + n / 0x40 % 0x40), UInt8.ofNat (0x80 + n % 0x40)]

/-- The octets of a text, character after character. -/
def encode (cs : List Char) : List UInt8 := cs.flatMap encodeChar

/-! ### Reading -/

/-- An octet that continues a character: `10` and six bits. -/
def isTail (b : UInt8) : Bool := 0x80 ≤ b && b ≤ 0xBF

/-- The six bits of a continuing octet. -/
def tailBits (b : UInt8) : Nat := b.toNat % 0x40

/-- The second octets that may follow a given first octet: they exclude overlong forms,
surrogates, and values above U+10FFFF. -/
def isSecond (first second : UInt8) : Bool :=
  if first = 0xE0 then 0xA0 ≤ second && second ≤ 0xBF
  else if first = 0xED then 0x80 ≤ second && second ≤ 0x9F
  else if first = 0xF0 then 0x90 ≤ second && second ≤ 0xBF
  else if first = 0xF4 then 0x80 ≤ second && second ≤ 0x8F
  else isTail second

/-- What stands at the front of some octets. -/
inductive Step where
  /-- Nothing. -/
  | done
  /-- A character, and the octets after it. -/
  | char (c : Char) (rest : List UInt8)
  /-- The number of octets that begin no character, and the octets after them. -/
  | ill (width : Nat) (rest : List UInt8)
  /-- The beginning of a character whose end is missing. -/
  | cut
  deriving Repr

/-- Reads the character at the front. An ill-formed stretch is the longest beginning of a
character that the octets still hold, at least one octet. -/
def next : List UInt8 → Step
  | [] => .done
  | a :: r =>
    if a < 0x80 then .char (Char.ofNat a.toNat) r
    else if 0xC2 ≤ a && a ≤ 0xDF then
      match r with
      | [] => .cut
      | b :: r => if isTail b then .char (Char.ofNat (a.toNat % 0x20 * 0x40 + tailBits b)) r
        else .ill 1 (b :: r)
    else if 0xE0 ≤ a && a ≤ 0xEF then
      match r with
      | [] => .cut
      | b :: r =>
        if isSecond a b then
          match r with
          | [] => .cut
          | c :: r =>
            if isTail c then
              .char (Char.ofNat (a.toNat % 0x10 * 0x1000 + tailBits b * 0x40 + tailBits c)) r
            else .ill 2 (c :: r)
        else .ill 1 (b :: r)
    else if 0xF0 ≤ a && a ≤ 0xF4 then
      match r with
      | [] => .cut
      | b :: r =>
        if isSecond a b then
          match r with
          | [] => .cut
          | c :: r =>
            if isTail c then
              match r with
              | [] => .cut
              | d :: r =>
                if isTail d then
                  .char (Char.ofNat (a.toNat % 8 * 0x40000 + tailBits b * 0x1000
                    + tailBits c * 0x40 + tailBits d)) r
                else .ill 3 (d :: r)
            else .ill 2 (c :: r)
        else .ill 1 (b :: r)
    else .ill 1 r

/-- Reading a character leaves fewer octets. -/
theorem next_char_length {s rest : List UInt8} {c : Char} (h : next s = .char c rest) :
    rest.length < s.length := by
  unfold next at h
  repeat' split at h
  all_goals simp_all
  all_goals (obtain ⟨-, rfl⟩ := h; omega)

/-- Skipping an ill-formed stretch leaves fewer octets. -/
theorem next_ill_length {s rest : List UInt8} {w : Nat} (h : next s = .ill w rest) :
    rest.length < s.length := by
  unfold next at h
  repeat' split at h
  all_goals simp_all
  all_goals (obtain ⟨rfl, rfl⟩ := h; simp +arith)

/-- Why octets are not a text. -/
structure Fault where
  /-- the number of octets before the first one that fits no character -/
  offset : Nat
  /-- the length of the ill-formed stretch, or none where the octets end inside a character -/
  width : Option Nat
  deriving Repr, DecidableEq

/-- The wording of a fault. -/
def Fault.message (f : Fault) : String :=
  match f.width with
  | some w => s!"invalid utf-8 sequence of {w} bytes from index {f.offset}"
  | none => s!"incomplete utf-8 byte sequence from index {f.offset}"

/-- The text of well-formed octets, or the first fault. -/
def decodeFrom (offset : Nat) (s : List UInt8) : Except Fault (List Char) :=
  match _h : next s with
  | .done => .ok []
  | .char c rest => (decodeFrom (offset + (s.length - rest.length)) rest).map (c :: ·)
  | .ill w _ => .error ⟨offset, some w⟩
  | .cut => .error ⟨offset, none⟩
termination_by s.length
decreasing_by exact next_char_length _h

/-- The text of well-formed octets, or the first fault. -/
def decode (s : List UInt8) : Except Fault (List Char) := decodeFrom 0 s

/-- The text of any octets: each ill-formed stretch, and a character cut off at the end, is
replaced by U+FFFD. -/
def decodeLossy (s : List UInt8) : List Char :=
  match _h : next s with
  | .done => []
  | .char c rest => c :: decodeLossy rest
  | .ill _ rest => '\uFFFD' :: decodeLossy rest
  | .cut => ['\uFFFD']
termination_by s.length
decreasing_by
  · exact next_char_length _h
  · exact next_ill_length _h

end Keyring.Utf8
