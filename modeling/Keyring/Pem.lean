import Keyring.Text.Base64
import Keyring.Text.Blank
import Keyring.Text.Utf8

/-!
Armoured blocks: octets in base64 between a line that begins and a line that ends them.

* `Pem.find`: the text before and after the first place where a marker is found.
* `Pem.frame?`: the parts of the first block in some octets.
* `Pem.contents`: the octets that the first block holds.
* `Pem.Fault.message`: the wording of what is wrong with a block.
-/

namespace Keyring.Pem

/-- Why octets hold no block. -/
inductive Fault where
  /-- There is no block. -/
  | frame
  /-- The block begins without a label. -/
  | noBegin
  /-- The block ends without a label. -/
  | noEnd
  /-- The labels differ. -/
  | labels (first last : String)
  /-- A part of the block is not UTF-8. -/
  | text (fault : Utf8.Fault)
  /-- The data are not base64. -/
  | data (fault : Base64.Fault)
  /-- A line before the data has no colon. -/
  | header (line : String)
  deriving Repr, DecidableEq

/-- The wording of a fault. -/
def Fault.message : Fault → String
  | .frame => "malformedframing"
  | .noBegin => "missing BEGIN tag"
  | .noEnd => "missing END tag"
  | .labels a b => "mismatching BEGIN (\"" ++ a ++ "\") and END (\"" ++ b ++ "\") tags"
  | .text f => "invalid utf-8 value: " ++ f.message
  | .data f => "invalid data: " ++ f.message
  | .header l => "invalid header: " ++ l

/-! ### The parts of a block -/

/-- Five hyphens. -/
def hyphens : List UInt8 := List.replicate 5 0x2D

/-- What opens a block, up to its label. -/
def beginMarker : List UInt8 := hyphens ++ [0x42, 0x45, 0x47, 0x49, 0x4E, 0x20]

/-- What closes a block, up to its label. -/
def endMarker : List UInt8 := hyphens ++ [0x45, 0x4E, 0x44, 0x20]

/-- The octets after the first complete match of a marker, `left` being what is still to be matched.
An octet that does not fit starts the match anew and is not tried again as the first of one. -/
def afterMarker (marker : List UInt8) : (left : List UInt8) → List UInt8 → Option (List UInt8)
  | [], s => some s
  | _ :: _, [] => none
  | m :: ms, b :: r =>
    if b = m then (if ms.isEmpty then some r else afterMarker marker ms r)
    else afterMarker marker marker r

/-- The octets before and after a marker. -/
def find (marker s : List UInt8) : Option (List UInt8 × List UInt8) :=
  (afterMarker marker marker s).map fun rest =>
    (s.take (s.length - rest.length - marker.length), rest)

/-- Blanks, tabs and line ends. -/
def isSpace (b : UInt8) : Bool := b = 0x20 || b = 0x09 || b = 0x0A || b = 0x0D

/-- The parts of a block. -/
structure Frame where
  /-- the label at the beginning -/
  first : List UInt8
  /-- what lies between the labels -/
  body : List UInt8
  /-- the label at the end -/
  last : List UInt8
  deriving Repr, DecidableEq

/-- The parts of the first block. -/
def frame? (s : List UInt8) : Option Frame := do
  let (_, s) ← find beginMarker s
  let (first, s) ← find hyphens s
  let (body, s) ← find endMarker (s.dropWhile isSpace)
  let (last, _) ← find hyphens s
  return ⟨first, body, last⟩

/-- The lines before the data, which an empty line ends, and the data. -/
def splitBody (body : List UInt8) : List UInt8 × List UInt8 :=
  match find [0x0A, 0x0A] body with
  | some p => p
  | none => (find [0x0D, 0x0A, 0x0D, 0x0A] body).getD ([], body)

/-! ### What a block holds -/

/-- The lines of a text without their ends. -/
def lines (cs : List Char) : List (List Char) :=
  match cs with
  | [] => []
  | cs => go [] cs
where
  /-- The lines, `line` being the beginning of the first one in reverse. -/
  go (line : List Char) : List Char → List (List Char)
    | [] => if line.isEmpty then [] else [line.reverse]
    | '\n' :: r => (if line.head? = some '\r' then line.tail else line).reverse :: go [] r
    | c :: r => go (c :: line) r

/-- The text of a part of a block. -/
def text (s : List UInt8) : Except Fault (List Char) := (Utf8.decode s).mapError .text

/-- The octets of base64 data, white space left out. -/
def decodeData (cs : List Char) : Except Fault (List UInt8) :=
  (Base64.decode .padded64 (Utf8.encode (cs.filter (!isBlank ·)))).mapError .data

/-- The first line without a colon is a fault. -/
def checkHeaders (cs : List Char) : Except Fault Unit :=
  match (lines cs).find? (!·.contains ':') with
  | some l => .error (.header (String.ofList l))
  | none => .ok ()

/-- The octets that a block holds. -/
def Frame.contents (f : Frame) : Except Fault (List UInt8) := do
  let first ← text f.first
  if first.isEmpty then .error .noBegin
  else
    let last ← text f.last
    if last.isEmpty then .error .noEnd
    else if first ≠ last then .error (.labels (String.ofList first) (String.ofList last))
    else
      let (headers, data) := splitBody f.body
      let octets ← decodeData (← text data)
      checkHeaders (← text headers)
      return octets

/-- The octets that the first block holds. -/
def contents (s : List UInt8) : Except Fault (List UInt8) :=
  match frame? s with
  | some f => f.contents
  | none => .error .frame

end Keyring.Pem
