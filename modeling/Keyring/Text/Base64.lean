/-!
Base64: octets written with 64 symbols, six bits a symbol.

* `Base64.encode`: the symbols of some octets, without padding.
* `Base64.decode`: the octets of some symbols. The reading is strict: unused bits of the last symbol
  have to be zero, and padding is written in full or not at all, as the `Style` asks.
* `Base64.Fault.message`: the wording of what is wrong with a text.
-/

namespace Keyring.Base64

/-- The two alphabets, which differ in the symbols of 62 and 63. -/
inductive Alphabet where
  /-- `+` and `/` -/
  | standard
  /-- `-` and `_` -/
  | urlSafe
  deriving Repr, DecidableEq

/-- An alphabet, and whether the last group of four is filled up with `=`. -/
structure Style where
  /-- the symbols in use -/
  alphabet : Alphabet
  /-- whether padding is asked for; otherwise it is refused -/
  padded : Bool
  deriving Repr, DecidableEq

/-- The style of armoured keys. -/
def Style.padded64 : Style := ⟨.standard, true⟩

/-- The style of token segments. -/
def Style.segment : Style := ⟨.urlSafe, false⟩

/-- The octet `=`. -/
def pad : UInt8 := 0x3D

/-- The symbol of a number below 64. -/
def Alphabet.symbol (a : Alphabet) (n : Nat) : UInt8 :=
  if n < 26 then UInt8.ofNat (0x41 + n)
  else if n < 52 then UInt8.ofNat (0x61 + (n - 26))
  else if n < 62 then UInt8.ofNat (0x30 + (n - 52))
  else if n = 62 then (match a with | .standard => 0x2B | .urlSafe => 0x2D)
  else (match a with | .standard => 0x2F | .urlSafe => 0x5F)

/-- The number that a symbol stands for. -/
def Alphabet.value? (a : Alphabet) (b : UInt8) : Option Nat :=
  if 0x41 ≤ b && b ≤ 0x5A then some (b.toNat - 0x41)
  else if 0x61 ≤ b && b ≤ 0x7A then some (b.toNat - 0x61 + 26)
  else if 0x30 ≤ b && b ≤ 0x39 then some (b.toNat - 0x30 + 52)
  else if b = (match a with | .standard => 0x2B | .urlSafe => 0x2D) then some 62
  else if b = (match a with | .standard => 0x2F | .urlSafe => 0x5F) then some 63
  else none

/-! ### Writing -/

/-- The symbols of some octets, three octets to four symbols, without padding. -/
def encode (a : Alphabet) : List UInt8 → List UInt8
  | [] => []
  | [x] => [a.symbol (x.toNat / 4), a.symbol (x.toNat % 4 * 16)]
  | [x, y] =>
    [a.symbol (x.toNat / 4), a.symbol (x.toNat % 4 * 16 + y.toNat / 16),
      a.symbol (y.toNat % 16 * 4)]
  | x :: y :: z :: r =>
    a.symbol (x.toNat / 4) :: a.symbol (x.toNat % 4 * 16 + y.toNat / 16)
      :: a.symbol (y.toNat % 16 * 4 + z.toNat / 64) :: a.symbol (z.toNat % 64) :: encode a r

/-! ### Reading -/

/-- Why a text is not the base64 form of anything. -/
inductive Fault where
  /-- An octet that is no symbol, or padding where none may stand. -/
  | symbol (octet : UInt8) (offset : Nat)
  /-- A last group of fewer than two symbols. -/
  | length (symbols : Nat)
  /-- A last symbol with bits that belong to no octet. -/
  | lastSymbol (octet : UInt8) (offset : Nat)
  /-- Padding that is missing, incomplete or not wanted. -/
  | padding
  deriving Repr, DecidableEq

/-- The wording of a fault. -/
def Fault.message : Fault → String
  | .symbol b i => s!"Invalid symbol {b.toNat}, offset {i}."
  | .length n => s!"Invalid input length: {n}"
  | .lastSymbol b i => s!"Invalid last symbol {b.toNat}, offset {i}."
  | .padding => "Invalid padding"

/-- The number of a symbol at a place in the text. -/
def Alphabet.read (a : Alphabet) (offset : Nat) (b : UInt8) : Except Fault Nat :=
  match a.value? b with
  | some v => .ok v
  | none => .error (.symbol b offset)

/-- The three octets of four numbers. -/
def octets (w x y z : Nat) : List UInt8 :=
  [UInt8.ofNat (w * 4 + x / 16), UInt8.ofNat (x % 16 * 16 + y / 4), UInt8.ofNat (y % 4 * 64 + z)]

/-- The last group split into its symbols and the number of `=` after them. A `=` may stand from the
third place on, and nothing else after one. -/
def splitTail (a : Alphabet) (offset : Nat) : List UInt8 → Except Fault (List (UInt8 × Nat) × Nat)
  | s => go 0 s
where
  /-- The rest of the group, split from a place within it. -/
  go (place : Nat) : List UInt8 → Except Fault (List (UInt8 × Nat) × Nat)
    | [] => .ok ([], 0)
    | b :: r =>
      if b = pad then
        if place < 2 then .error (.symbol b (offset + place))
        else if r.all (· = pad) then .ok ([], r.length + 1)
        else .error (.symbol pad (offset + place))
      else do
        let v ← a.read (offset + place) b
        let (symbols, pads) ← go (place + 1) r
        return ((b, v) :: symbols, pads)

/-- Whether a style takes this much padding after this many symbols. -/
def Style.takes (style : Style) (symbols pads : Nat) : Bool :=
  if style.padded then (symbols + pads) % 4 = 0 else pads = 0

/-- The octets of a last group of at most four. -/
def decodeTail (style : Style) (offset : Nat) (s : List UInt8) : Except Fault (List UInt8) := do
  let (symbols, pads) ← splitTail style.alphabet offset s
  if symbols.length < 2 then .error (.length (offset + symbols.length))
  else if !style.takes symbols.length pads then .error .padding
  else
    match symbols with
    | [(_, w), (b, x)] =>
      if x % 16 = 0 then .ok ((octets w x 0 0).take 1) else .error (.lastSymbol b (offset + 1))
    | [(_, w), (_, x), (b, y)] =>
      if y % 4 = 0 then .ok ((octets w x y 0).take 2) else .error (.lastSymbol b (offset + 2))
    | [(_, w), (_, x), (_, y), (_, z)] => .ok (octets w x y z)
    | _ => .ok []

/-- The octets of full groups followed by a last one. -/
def decodeGroups (style : Style) (offset : Nat) : List UInt8 → Except Fault (List UInt8)
  | b₀ :: b₁ :: b₂ :: b₃ :: b₄ :: r => do
    let w ← style.alphabet.read offset b₀
    let x ← style.alphabet.read (offset + 1) b₁
    let y ← style.alphabet.read (offset + 2) b₂
    let z ← style.alphabet.read (offset + 3) b₃
    let rest ← decodeGroups style (offset + 4) (b₄ :: r)
    return octets w x y z ++ rest
  | [] => return []
  | s => decodeTail style offset s

/-- The octets that a text stands for. A lone last octet that is no symbol is reported before
anything else. -/
def decode (style : Style) (s : List UInt8) : Except Fault (List UInt8) :=
  match s.getLast? with
  | some b =>
    if s.length % 4 = 1 && b ≠ pad && (style.alphabet.value? b).isNone then
      .error (.symbol b (s.length - 1))
    else decodeGroups style 0 s
  | none => .ok []

end Keyring.Base64
