import Keyring.Json.Skip

/-!
Readers for values of a known kind.

Each reader takes the octets still to be read. Lists and objects settle the places of faults that
come from within: such a fault is reported after the closing octet, if that is what follows.

* `Json.readString`, `Json.readBool`, `Json.readNatural`, `Json.readOptional`, `Json.readVariant`:
  single values.
* `Json.readObject`, `Json.readField`, `Json.skipMember`: objects, member after member.
* `Json.readList`, `Json.readElement`: lists with a fixed sequence of elements.
* `Json.readRecord`: a value that may be written either way.
* `Json.readDocument`: one value and nothing after it.
-/

namespace Keyring.Json

/-- The octets of punctuation. -/
def comma : UInt8 := 0x2C
def colon : UInt8 := 0x3A
def quote : UInt8 := 0x22
def openList : UInt8 := 0x5B
def closeList : UInt8 := 0x5D
def openObject : UInt8 := 0x7B
def closeObject : UInt8 := 0x7D

/-! ### Values of the wrong kind -/

/-- What a number is called. -/
def Number.found : Number → Found
  | .natural n => .integer n.toNat
  | .negative n => .integer n
  | .float x => .float x

/-- The fault of a value that is not of the expected kind. The value is read, so that it can be
named, unless it is a list or an object. -/
def wrongKind (expected : String) (s : List UInt8) : Fault :=
  match s with
  | [] => .here .endInValue []
  | b :: r =>
    let literal (letters : String) (found : Found) : Fault :=
      match readLiteral (ascii letters) r with
      | .error f => f
      | .ok t => .here (.wrongType found expected) t
    if b = 0x6E then literal "ull" .null
    else if b = 0x74 then literal "rue" (.bool true)
    else if b = 0x66 then literal "alse" (.bool false)
    else if b = 0x2D || isDigit b then
      match readNumber s with
      | .error f => f
      | .ok (n, t) => .here (.wrongType n.found expected) t
    else if b = quote then
      match readText r with
      | .error f => f
      | .ok (v, t) => .here (.wrongType (.text v) expected) t
    else if b = openList then .here (.wrongType .list expected) s
    else if b = openObject then .here (.wrongType .object expected) s
    else .here .valueExpected r

/-! ### Single values -/

/-- A text that `accept` makes a value of. -/
def readTextAs {α : Type} (expected : String) (accept : String → Except Cause α) (s : List UInt8) :
    Reading α :=
  match skipBlank s with
  | [] => .error (.here .endInValue [])
  | b :: r =>
    if b = quote then
      match readText r with
      | .error f => .error f
      | .ok (v, t) =>
        match accept v with
        | .error c => .error (.here c t)
        | .ok a => .ok (a, t)
    else .error (wrongKind expected (b :: r))

/-- A text. -/
def readString (s : List UInt8) : Reading String := readTextAs "a string" .ok s

/-- `true` or `false`. -/
def readBool (s : List UInt8) : Reading Bool :=
  match skipBlank s with
  | [] => .error (.here .endInValue [])
  | b :: r =>
    if b = 0x74 then (readLiteral (ascii "rue") r).map fun t => (true, t)
    else if b = 0x66 then (readLiteral (ascii "alse") r).map fun t => (false, t)
    else .error (wrongKind "a boolean" (b :: r))

/-- A whole number below `bound`. -/
def readNatural (bound : Nat) (expected : String) (s : List UInt8) : Reading Nat :=
  match skipBlank s with
  | [] => .error (.here .endInValue [])
  | b :: r =>
    if b = 0x2D || isDigit b then
      match readNumber (b :: r) with
      | .error f => .error f
      | .ok (.natural n, t) =>
        if n.toNat < bound then .ok (n.toNat, t)
        else .error (.here (.wrongValue (.integer n.toNat) expected) t)
      | .ok (.negative n, t) => .error (.here (.wrongValue (.integer n) expected) t)
      | .ok (.float x, t) => .error (.here (.wrongType (.float x) expected) t)
    else .error (wrongKind expected (b :: r))

/-- `null`, or a value. -/
def readOptional {α : Type} (read : List UInt8 → Reading α) (s : List UInt8) : Reading (Option α) :=
  match skipBlank s with
  | [] => .error (.here .endInValue [])
  | b :: r =>
    if b = 0x6E then (readLiteral (ascii "ull") r).map fun t => (none, t)
    else (read (b :: r)).map fun p => (some p.1, p.2)

/-- The colon between a name and its value. -/
def readColon (s : List UInt8) : Except Fault (List UInt8) :=
  match skipBlank s with
  | [] => .error (.here .endInObject [])
  | b :: r => if b = colon then .ok r else .error (.here .colonExpected r)

/-- `null`. -/
def readNull (s : List UInt8) : Except Fault (List UInt8) :=
  match skipBlank s with
  | [] => .error (.here .endInValue [])
  | b :: r =>
    if b = 0x6E then readLiteral (ascii "ull") r else .error (wrongKind "unit" (b :: r))

/-- The end of an object after its only member. -/
def closeVariant (s : List UInt8) : Except Fault (List UInt8) :=
  match skipBlank s with
  | [] => .error (.here .endInObject [])
  | b :: r => if b = closeObject then .ok r else .error (.here .valueExpected (b :: r))

/-- The object of a name of a variant and `null`, after its opening brace. -/
def readVariantObject {α : Type} (accept : String → Except Cause α) (s : List UInt8) : Reading α :=
  match skipBlank s with
  | [] => .error (.here .endInObject [])
  | b :: r =>
    if b = quote then
      match readTextAs "variant identifier" accept (b :: r) with
      | .error f => .error f
      | .ok (a, t) =>
        ((readColon t).bind readNull).bind closeVariant |>.map fun t => (a, t)
    else .error (.here .keyNotText r)

/-- One of several variants: its name, or an object with that name and `null`. -/
def readVariant {α : Type} (accept : String → Except Cause α) (s : List UInt8) : Reading α :=
  match skipBlank s with
  | [] => .error (.here .endInValue [])
  | b :: r =>
    if b = quote then readTextAs "variant identifier" accept (b :: r)
    else if b = openObject then readVariantObject accept r
    else .error (.here .valueExpected r)

/-! ### Objects -/

/-- The name of the next member, or none at the closing brace, which is left. -/
def nextName (first : Bool) (s : List UInt8) : Reading (Option String) :=
  match skipBlank s with
  | [] => .error (.here .endInObject [])
  | b :: r =>
    if b = closeObject then .ok (none, b :: r)
    else if first then
      if b = quote then (readText r).map fun p => (some p.1, p.2) else .error (.here .keyNotText r)
    else if b = comma then
      match skipBlank r with
      | [] => .error (.here .endInValue [])
      | c :: t =>
        if c = quote then (readText t).map fun p => (some p.1, p.2)
        else .error (.here (if c = closeObject then .trailingComma else .keyNotText) t)
    else .error (.here .objectEndExpected r)

/-- Member after member up to the closing brace, which is left. There are fewer members than octets,
so `fuel` need not exceed their number. -/
def readMembers {σ : Type} (member : σ → String → List UInt8 → Reading σ) :
    (fuel : Nat) → (first : Bool) → σ → List UInt8 → Reading σ
  | 0, _, _, s => .error (.here .endInObject s)
  | fuel + 1, first, state, s =>
    match nextName first s with
    | .error f => .error f
    | .ok (none, r) => .ok (state, r)
    | .ok (some name, r) =>
      match member state name r with
      | .error f => .error f
      | .ok (state, t) => readMembers member fuel false state t

/-- The octets after the closing brace, if that is what follows. -/
def leaveObject (s : List UInt8) : List UInt8 :=
  match skipBlank s with
  | [] => []
  | b :: r => if b = closeObject then r else b :: r

/-- An object after its opening brace: its members taken into a state, and what the state makes. -/
def readObject {σ α : Type} (member : σ → String → List UInt8 → Reading σ) (start : σ)
    (finish : σ → Except Cause α) (s : List UInt8) : Reading α :=
  match readMembers member (s.length + 1) true start s with
  | .error f => .error (if f.settled then f else .here f.cause (leaveObject f.rest))
  | .ok (state, r) =>
    match finish state with
    | .error c => .error (.here c (leaveObject r))
    | .ok a => .ok (a, leaveObject r)

/-- The value of a member that may occur only once. -/
def readField {α : Type} (name : String) (seen : Bool) (read : List UInt8 → Reading α)
    (s : List UInt8) : Reading α :=
  if seen then .error (.unsettled (.duplicateField name) s)
  else
    match readColon s with
    | .error f => .error f
    | .ok r => read r

/-- The value of a member that is not read. -/
def skipMember (s : List UInt8) : Except Fault (List UInt8) :=
  match readColon s with
  | .error f => .error f
  | .ok r => skipValue r

/-! ### Lists -/

/-- Whether another element follows; the closing bracket is left. -/
def nextElement (first : Bool) (s : List UInt8) : Reading Bool :=
  match skipBlank s with
  | [] => .error (.here .endInList [])
  | b :: r =>
    if b = closeList then .ok (false, b :: r)
    else if first then .ok (true, b :: r)
    else if b = comma then
      match skipBlank r with
      | [] => .error (.here .endInValue [])
      | c :: t => if c = closeList then .error (.here .trailingComma t) else .ok (true, c :: t)
    else .error (.here .listEndExpected r)

/-- The next element, if there is one. -/
def readElement {α : Type} (first : Bool) (read : List UInt8 → Reading α) (s : List UInt8) :
    Reading (Option α) :=
  match nextElement first s with
  | .error f => .error f
  | .ok (false, r) => .ok (none, r)
  | .ok (true, r) => (read r).map fun p => (some p.1, p.2)

/-- The octets after the closing bracket. -/
def leaveList (s : List UInt8) : Except Fault (List UInt8) :=
  match skipBlank s with
  | [] => .error (.here .endInList [])
  | b :: r =>
    if b = closeList then .ok r
    else if b = comma then
      let t := skipBlank r
      .error (.next (if t.head? = some closeList then .trailingComma else .trailingCharacters) t)
    else .error (.here .trailingCharacters r)

/-- The octets after the end of a list that is not read any further. -/
def abandonList (s : List UInt8) : List UInt8 :=
  match skipBlank s with
  | [] => []
  | b :: r => if b = closeList then r else if b = comma then skipBlank r else b :: r

/-- A list after its opening bracket. -/
def readList {α : Type} (elements : List UInt8 → Reading α) (s : List UInt8) : Reading α :=
  match elements s with
  | .error f => .error (if f.settled then f else .here f.cause (abandonList f.rest))
  | .ok (a, r) => (leaveList r).map fun t => (a, t)

/-! ### Records and documents -/

/-- A record, written as an object or as the list of its fields; both readers begin after the
opening octet. -/
def readRecord {α : Type} (expected : String) (ofObject ofList : List UInt8 → Reading α)
    (s : List UInt8) : Reading α :=
  match skipBlank s with
  | [] => .error (.here .endInValue [])
  | b :: r =>
    if b = openObject then ofObject r
    else if b = openList then ofList r
    else .error (wrongKind expected (b :: r))

/-- An object whose values are all texts: its members in order, repeated names too. -/
def readTextMap (s : List UInt8) : Reading (List (String × String)) :=
  match skipBlank s with
  | [] => .error (.here .endInValue [])
  | b :: r =>
    if b = openObject then
      readObject
        (fun (seen : List (String × String)) name s =>
          (readField name false readString s).map fun p => ((name, p.1) :: seen, p.2))
        [] (fun seen => .ok seen.reverse) r
    else .error (wrongKind "a map" (b :: r))

/-- One value and nothing but blanks after it. -/
def readDocument {α : Type} (read : List UInt8 → Reading α) (document : List UInt8) :
    Except Failure α :=
  match read document with
  | .error f => .error (f.locate document)
  | .ok (a, r) =>
    match skipBlank r with
    | [] => .ok a
    | _ :: t => .error ((Fault.here .trailingCharacters t).locate document)

end Keyring.Json
