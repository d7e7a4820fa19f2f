import Keyring.Json.Fault
import Keyring.Json.Value
import Keyring.Text.Utf8

/-!
The smallest parts of a JSON document: blanks, literals, numbers and texts.

Each reader takes the octets still to be read and answers what it read and the octets after it.

* `Json.skipBlank`: the octets after any blanks.
* `Json.readLiteral`: the letters of `null`, `true` or `false` after the first.
* `Json.readNumber`: a number; `Json.skipUnsigned`: its shape only, so that it may have any size.
* `Json.readText`: a text up to its closing quote; `Json.skipText`: its shape only.
-/

namespace Keyring.Json

/-- What a reader answers. -/
abbrev Reading (α : Type) := Except Fault (α × List UInt8)

/-- The octets of an ASCII text. -/
def ascii (s : String) : List UInt8 := s.toList.map fun c => UInt8.ofNat c.toNat

/-- Blank, tab, and the ends of a line. -/
def isSpace (b : UInt8) : Bool := b = 0x20 || b = 0x09 || b = 0x0A || b = 0x0D

/-- The octets after any blanks. -/
def skipBlank (s : List UInt8) : List UInt8 := s.dropWhile isSpace

/-- Whether an octet is a digit. -/
def isDigit (b : UInt8) : Bool := 0x30 ≤ b && b ≤ 0x39

/-- The number that a digit stands for. -/
def digitValue (b : UInt8) : Nat := b.toNat - 0x30

/-- Whether an octet is `e` or `E`. -/
def isExponentMark (b : UInt8) : Bool := b = 0x65 || b = 0x45

/-- The letters of a literal after its first one. -/
def readLiteral : List UInt8 → List UInt8 → Except Fault (List UInt8)
  | [], s => .ok s
  | _ :: _, [] => .error (.here .endInValue [])
  | a :: w, b :: s => if a = b then readLiteral w s else .error (.here .literalExpected s)

/-! ### Numbers -/

/-- Digits read while the number stays below `bound`: the number, and how many digits were read. -/
def readDigits (bound : Nat) : Nat → List UInt8 → Nat × Nat
  | n, [] => (n, 0)
  | n, b :: r =>
    if n * 10 + digitValue b < bound then
      let (m, count) := readDigits bound (n * 10 + digitValue b) r
      (m, count + 1)
    else (n, 0)

/-- The power 10^k as a float, for k up to 308. -/
def floatPower (k : Nat) : Float := Float.ofScientific 1 false k

/-- The float nearest to a product or quotient of `x` and 10^exponent, in steps that each stay in
the range of floats; none if the result is too large. -/
def scaled (x : Float) (exponent : Int) : Option Float :=
  if 0 ≤ exponent then
    if exponent ≤ 308 then
      let y := x * floatPower exponent.toNat
      if y.isInf then none else some y
    else if x == 0 then some x else none
  else if -308 ≤ exponent then some (x / floatPower (-exponent).toNat)
  else if x == 0 then some x
  else scaled (x / floatPower 308) (exponent + 308)
termination_by exponent.natAbs

/-- The number ± significand · 10^exponent, read up to `s`. -/
def finishFloat (negative : Bool) (significand : Nat) (exponent : Int) (s : List UInt8) :
    Reading Number :=
  match scaled (UInt64.ofNat significand).toFloat exponent with
  | some y => .ok (.float (if negative then -y else y), s)
  | none => .error (.here .numberTooLarge s)

/-- The limit of the digits of an exponent. -/
def exponentBound : Nat := 0x80000000

/-- The sign of an exponent, whether it is a minus, and the octets after it. -/
def readSign : List UInt8 → Bool × List UInt8
  | [] => (false, [])
  | b :: r => if b = 0x2B then (false, r) else if b = 0x2D then (true, r) else (false, b :: r)

/-- The part of a number after its `e`. -/
def readExponent (negative : Bool) (significand : Nat) (start : Int) (s : List UInt8) :
    Reading Number :=
  let down := (readSign s).1
  let s := (readSign s).2
  match s with
  | [] => .error (.here .endInValue [])
  | b :: r =>
    if isDigit b then
      let ds := s.takeWhile isDigit
      let (e, count) := readDigits exponentBound 0 ds
      if count < ds.length then
        if significand ≠ 0 && !down then .error (.here .numberTooLarge (s.drop (count + 1)))
        else .ok (.float (if negative then -0.0 else 0.0), s.dropWhile isDigit)
      else
        finishFloat negative significand (if down then start - e else start + e)
          (s.dropWhile isDigit)
    else .error (.here .badNumber r)

/-- The part of a number after its point. Digits that no longer fit are left out. -/
def readFraction (negative : Bool) (significand : Nat) (start : Int) (s : List UInt8) :
    Reading Number :=
  let ds := s.takeWhile isDigit
  let r := s.dropWhile isDigit
  if ds.isEmpty then
    .error (.next (if r.isEmpty then .endInValue else .badNumber) r)
  else
    let (n, count) := readDigits UInt64.size significand ds
    match r with
    | b :: t =>
      if isExponentMark b then readExponent negative n (start - count) t
      else finishFloat negative n (start - count) r
    | [] => finishFloat negative n (start - count) r

/-- A whole number that ended without point or exponent. -/
def wholeNumber (negative : Bool) (n : Nat) : Number :=
  if !negative then .natural (UInt64.ofNat n)
  else if n = 0 then .float (-0.0)
  else if n ≤ 0x8000000000000000 then .negative (-(n : Int))
  else .float (-(UInt64.ofNat n).toFloat)

/-- A number after its sign. Digits that no longer fit count into the exponent. -/
def readUnsigned (negative : Bool) (s : List UInt8) : Reading Number :=
  match s with
  | [] => .error (.here .endInValue [])
  | b :: r =>
    if !isDigit b then .error (.here .badNumber r)
    else if b = 0x30 && (r.head?.any isDigit) then .error (.next .badNumber r)
    else
      let ds := s.takeWhile isDigit
      let r := s.dropWhile isDigit
      let (n, count) := readDigits UInt64.size 0 ds
      let dropped : Int := ds.length - count
      match r with
      | 0x2E :: t => readFraction negative n dropped t
      | b :: t =>
        if isExponentMark b then readExponent negative n dropped t
        else if dropped = 0 then .ok (wholeNumber negative n, r)
        else finishFloat negative n dropped r
      | [] =>
        if dropped = 0 then .ok (wholeNumber negative n, r) else finishFloat negative n dropped r

/-- A number. -/
def readNumber : List UInt8 → Reading Number
  | 0x2D :: r => readUnsigned true r
  | s => readUnsigned false s

/-- The part of a number after its `e`, unread. -/
def skipExponent (s : List UInt8) : Except Fault (List UInt8) :=
  match (readSign s).2 with
  | [] => .error (.here .badNumber [])
  | b :: r => if isDigit b then .ok (r.dropWhile isDigit) else .error (.here .badNumber r)

/-- The part of a number after its point, unread. -/
def skipFraction (s : List UInt8) : Except Fault (List UInt8) :=
  match s with
  | [] => .error (.next .badNumber [])
  | b :: r =>
    if isDigit b then
      match r.dropWhile isDigit with
      | e :: t => if isExponentMark e then skipExponent t else .ok (e :: t)
      | [] => .ok []
    else .error (.next .badNumber s)

/-- A number after its sign, unread. -/
def skipUnsigned (s : List UInt8) : Except Fault (List UInt8) :=
  match s with
  | [] => .error (.here .badNumber [])
  | b :: r =>
    if !isDigit b then .error (.here .badNumber r)
    else if b = 0x30 && (r.head?.any isDigit) then .error (.next .badNumber r)
    else
      match r.dropWhile isDigit with
      | 0x2E :: t => skipFraction t
      | e :: t => if isExponentMark e then skipExponent t else .ok (e :: t)
      | [] => .ok []

/-! ### Texts -/

/-- Whether an octet stands for itself within a text. -/
def isPlain (b : UInt8) : Bool := 0x20 ≤ b && b ≠ 0x22 && b ≠ 0x5C

/-- Four hexadecimal digits as a number. -/
def readUnit : List UInt8 → Reading Nat
  | a :: b :: c :: d :: r =>
    match Hex.octetValue? a, Hex.octetValue? b, Hex.octetValue? c, Hex.octetValue? d with
    | some w, some x, some y, some z => .ok (((w * 16 + x) * 16 + y) * 16 + z, r)
    | _, _, _, _ => .error (.here .badEscape r)
  | _ => .error (.here .endInText [])

/-- Whether a number is the second half of a surrogate pair. -/
def isLowSurrogate (n : Nat) : Bool := 0xDC00 ≤ n && n ≤ 0xDFFF

/-- Whether a number is the first half of a surrogate pair. -/
def isHighSurrogate (n : Nat) : Bool := 0xD800 ≤ n && n ≤ 0xDBFF

/-- The second half of a pair, written as another escape, that completes a first half `n`. -/
def readSecondHalf (n : Nat) (s : List UInt8) : Reading Char :=
  match s with
  | [] => .error (.here .endInText [])
  | [0x5C] => .error (.here .endInText [])
  | 0x5C :: 0x75 :: t =>
    match readUnit t with
    | .error f => .error f
    | .ok (m, r) =>
      if isLowSurrogate m then
        .ok (Char.ofNat (0x10000 + (n - 0xD800) * 0x400 + (m - 0xDC00)), r)
      else .error (.here .loneSurrogate r)
  | 0x5C :: _ :: t => .error (.here .endOfEscape t)
  | _ :: t => .error (.here .endOfEscape t)

/-- The character of an escape after its `u`: one unit, or two that form a pair. -/
def readUnicode (s : List UInt8) : Reading Char :=
  match readUnit s with
  | .error f => .error f
  | .ok (n, r) =>
    if isLowSurrogate n then .error (.here .loneSurrogate r)
    else if isHighSurrogate n then readSecondHalf n r
    else .ok (Char.ofNat n, r)

/-- The character that a letter after a backslash stands for. -/
def escapedLetter? (b : UInt8) : Option Char :=
  if b = 0x22 then some '"'
  else if b = 0x5C then some '\\'
  else if b = 0x2F then some '/'
  else if b = 0x62 then some '\x08'
  else if b = 0x66 then some '\x0c'
  else if b = 0x6E then some '\n'
  else if b = 0x72 then some '\r'
  else if b = 0x74 then some '\t'
  else none

/-- The character of an escape after its backslash. -/
def readEscape (s : List UInt8) : Reading Char :=
  match s with
  | [] => .error (.here .endInText [])
  | b :: r =>
    if b = 0x75 then readUnicode r
    else
      match escapedLetter? b with
      | some c => .ok (c, r)
      | none => .error (.here .badEscape r)

/-- Reading four digits takes four octets. -/
theorem readUnit_length {s r : List UInt8} {n : Nat} (h : readUnit s = .ok (n, r)) :
    r.length < s.length := by
  unfold readUnit at h
  split at h
  · split at h
    · cases h; simp +arith
    · cases h
  · cases h

/-- Reading the second half of a pair takes octets. -/
theorem readSecondHalf_length {n : Nat} {s r : List UInt8} {c : Char}
    (h : readSecondHalf n s = .ok (c, r)) : r.length < s.length := by
  unfold readSecondHalf at h
  split at h
  · cases h
  · cases h
  · split at h
    · cases h
    · next hu =>
      have := readUnit_length hu
      split at h
      · obtain ⟨-, rfl⟩ := Prod.mk.inj (Except.ok.inj h)
        simp only [List.length_cons]
        omega
      · cases h
  · cases h
  · cases h

/-- Reading an escape of one unit or two takes octets. -/
theorem readUnicode_length {s r : List UInt8} {c : Char} (h : readUnicode s = .ok (c, r)) :
    r.length < s.length := by
  unfold readUnicode at h
  split at h
  · cases h
  · next hu =>
    have := readUnit_length hu
    split at h
    · cases h
    · split at h
      · have := readSecondHalf_length h
        omega
      · cases h
        assumption

/-- Reading an escape takes octets. -/
theorem readEscape_length {s r : List UInt8} {c : Char} (h : readEscape s = .ok (c, r)) :
    r.length < s.length := by
  unfold readEscape at h
  split at h
  · cases h
  · split at h
    · have := readUnicode_length h
      simp only [List.length_cons]
      omega
    · split at h
      · cases h; simp
      · cases h

/-- Dropping octets leaves no more of them. -/
theorem length_dropWhile_le {α : Type} (p : α → Bool) (s : List α) :
    (s.dropWhile p).length ≤ s.length := (s.dropWhile_suffix p).length_le

/-- The octets that a text stands for up to its closing quote. Those that are not escaped need not
be UTF-8. -/
def readOctets (s : List UInt8) : Reading (List UInt8) :=
  match _ht : s.dropWhile isPlain with
  | [] => .error (.here .endInText [])
  | b :: t =>
    if b = 0x22 then .ok (s.takeWhile isPlain, t)
    else if b = 0x5C then
      match _he : readEscape t with
      | .error f => .error f
      | .ok (c, t) =>
        (readOctets t).map fun p => (s.takeWhile isPlain ++ Utf8.encodeChar c ++ p.1, p.2)
    else .error (.here .controlCharacter t)
termination_by s.length
decreasing_by
  have h₁ := readEscape_length _he
  have h₂ := length_dropWhile_le isPlain s
  rw [_ht, List.length_cons] at h₂
  omega

/-- A text after its opening quote. Octets that are not UTF-8 are noticed last, and their place is
counted back from the closing quote in octets that the text stands for. -/
def readText (s : List UInt8) : Reading String :=
  match readOctets s with
  | .error f => .error f
  | .ok (octets, r) =>
    match Utf8.decode octets with
    | .ok cs => .ok (String.ofList cs, r)
    | .error f =>
      .error (.here .badCharacter (s.drop (s.length - r.length - (octets.length - f.offset))))

/-- An escape after its backslash, unread. -/
def skipEscape (s : List UInt8) : Except Fault (List UInt8) :=
  match s with
  | [] => .error (.here .endInText [])
  | b :: r =>
    if b = 0x75 then (readUnit r).map (·.2)
    else if (escapedLetter? b).isSome then .ok r
    else .error (.here .badEscape r)

/-- Skipping an escape takes octets. -/
theorem skipEscape_length {s r : List UInt8} (h : skipEscape s = .ok r) : r.length < s.length := by
  unfold skipEscape at h
  split at h
  · cases h
  · split at h
    · next t _ =>
      cases hu : readUnit t with
      | error f => simp [hu, Except.map] at h
      | ok p =>
        have := readUnit_length hu
        simp only [hu, Except.map, Except.ok.injEq] at h
        subst h
        simp only [List.length_cons]
        omega
    · split at h
      · cases h; simp
      · cases h

/-- A text up to its closing quote, unread: its octets need not be UTF-8 and surrogates may stand
alone. -/
def skipText (s : List UInt8) : Except Fault (List UInt8) :=
  match _ht : s.dropWhile isPlain with
  | [] => .error (.here .endInText [])
  | b :: t =>
    if b = 0x22 then .ok t
    else if b = 0x5C then
      match _he : skipEscape t with
      | .error f => .error f
      | .ok t => skipText t
    else .error (.here .controlCharacter (b :: t))
termination_by s.length
decreasing_by
  have h₁ := skipEscape_length _he
  have h₂ := length_dropWhile_le isPlain s
  rw [_ht, List.length_cons] at h₂
  omega

end Keyring.Json
