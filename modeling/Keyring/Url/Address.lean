import Keyring.Text.Hex

/-!
Numeric addresses of hosts.

* `Address.endsInNumber`: whether a host name has to be read as an address of four numbers.
* `Address.readFour?`: the 32 bits of one to four numbers in decimal, octal or hexadecimal.
* `Address.readEight?`: the eight groups of an address in brackets.
* `Address.writeFour`, `Address.writeEight`: the addresses as text.
-/

namespace Keyring.Address

/-- The number that digits of a base stand for. -/
def readDigits? (base : Nat) (cs : List Char) : Option Nat :=
  cs.foldl (fun n c => n.bind fun n => (Hex.value? c).bind fun d =>
    if d < base then some (n * base + d) else none) (some 0)

/-! ### Four numbers -/

/-- A number in hexadecimal after `0x`, in octal after `0`, and in decimal otherwise. No digits
after `0x` make zero. -/
def readNumber? (cs : List Char) : Option Nat :=
  match cs with
  | [] => none
  | '0' :: 'x' :: r => readDigits? 16 r
  | '0' :: 'X' :: r => readDigits? 16 r
  | ['0'] => some 0
  | '0' :: r => readDigits? 8 r
  | cs => readDigits? 10 cs

/-- The pieces between points; a point at the end does not open another piece. -/
def labels (cs : List Char) : List (List Char) :=
  let ps := cs.splitOn '.'
  if ps.getLast? = some [] then ps.dropLast else ps

/-- Whether a digit is decimal. -/
def isDecimal (c : Char) : Bool := '0' ≤ c && c ≤ '9'

/-- Whether the last piece of a host name is a number, which makes the name an address. -/
def endsInNumber (cs : List Char) : Bool :=
  match (labels cs).getLast? with
  | none => false
  | some l => !l.isEmpty && (l.all isDecimal || (readNumber? l).isSome)

/-- The 32 bits of one to four numbers. The last number fills what the others leave; the others are
octets. -/
def readFour? (cs : List Char) : Option Nat := do
  let numbers ← (labels cs).mapM readNumber?
  let last ← numbers.getLast?
  let octets := numbers.dropLast
  if octets.length > 3 || octets.any (255 < ·) || Nat.pow 256 (4 - octets.length) ≤ last then none
  else some (octets.foldr (fun n (acc : Nat × Nat) => (acc.1 + n * Nat.pow 256 acc.2, acc.2 + 1))
    (last, 4 - octets.length)).1

/-- 32 bits as four numbers. -/
def writeFour (n : Nat) : List Char :=
  Nat.toDigits 10 (n / 0x1000000 % 256) ++ '.' :: Nat.toDigits 10 (n / 0x10000 % 256)
    ++ '.' :: Nat.toDigits 10 (n / 0x100 % 256) ++ '.' :: Nat.toDigits 10 (n % 256)

/-! ### Eight groups -/

/-- One to four hexadecimal digits. -/
def readGroup? (cs : List Char) : Option Nat :=
  if cs.isEmpty || 4 < cs.length then none else readDigits? 16 cs

/-- A decimal number below 256 without leading zeros. -/
def readOctet? (cs : List Char) : Option Nat :=
  if cs.isEmpty || 3 < cs.length || (1 < cs.length && cs.head? = some '0') then none
  else (readDigits? 10 cs).bind fun n => if n < 256 then some n else none

/-- The two groups of four octets with points between them. -/
def readOctets? (cs : List Char) : Option (List Nat) :=
  match (cs.splitOn '.').mapM readOctet? with
  | some [a, b, c, d] => some [a * 256 + b, c * 256 + d]
  | _ => none

/-- The groups of pieces between colons; only the last piece may be four octets. -/
def readGroups? : List (List Char) → Option (List Nat)
  | [] => some []
  | [p] => if p.contains '.' then readOctets? p else (readGroup? p).map ([·])
  | p :: q :: r => do
    let g ← readGroup? p
    let gs ← readGroups? (q :: r)
    some (g :: gs)

/-- The eight groups of an address. A double colon stands for at least one group of zero. -/
def readEight? (cs : List Char) : Option (List Nat) := do
  let ps := cs.splitOn ':'
  let ps ←
    match ps with
    | [] :: [] :: p :: r => some ([] :: p :: r)
    | [] :: _ => none
    | ps => some ps
  let ps ←
    match ps.reverse with
    | [] :: [] :: r => some ([] :: r).reverse
    | [] :: _ => none
    | _ => some ps
  match ps.findIdx? List.isEmpty with
  | none =>
    let gs ← readGroups? ps
    if gs.length = 8 then some gs else none
  | some i =>
    let before ← (ps.take i).mapM readGroup?
    let after ← readGroups? (ps.drop (i + 1))
    let n := before.length + after.length
    if n ≤ 7 then some (before ++ List.replicate (8 - n) 0 ++ after) else none

/-- The length of the run of zeros at the front. -/
def zeroRun (gs : List Nat) : Nat := (gs.takeWhile (· = 0)).length

/-- The first of the longest runs of at least two zeros: where it begins, and its length. -/
def longestRun (gs : List Nat) : Option (Nat × Nat) :=
  (List.range gs.length).foldl
    (fun best i =>
      let n := zeroRun (gs.drop i)
      match best with
      | some (_, m) => if m < n then some (i, n) else best
      | none => if 2 ≤ n then some (i, n) else none)
    none

/-- Groups with colons between them. -/
def writeGroups (gs : List Nat) : List Char :=
  (gs.map Hex.digits).intersperse [':'] |>.flatten

/-- Eight groups, the longest run of zeros left out. -/
def writeEight (gs : List Nat) : List Char :=
  match longestRun gs with
  | none => writeGroups gs
  | some (i, n) => writeGroups (gs.take i) ++ [':', ':'] ++ writeGroups (gs.drop (i + n))

end Keyring.Address
