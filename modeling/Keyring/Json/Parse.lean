import Keyring.Json.Decode

/-!
Documents of any kind.

* `Json.parse`: the value of a document. Lists and objects may be nested 127 deep.
-/

namespace Keyring.Json

/-- The deepest nesting that is refused. -/
def depthLimit : Nat := 128

/-- Element after element up to the closing bracket, which is left. -/
def readElements (read : List UInt8 → Reading Value) :
    (fuel : Nat) → (first : Bool) → List UInt8 → Reading (List Value)
  | 0, _, s => .error (.here .endInList s)
  | fuel + 1, first, s =>
    match readElement first read s with
    | .error f => .error f
    | .ok (none, r) => .ok ([], r)
    | .ok (some v, r) => (readElements read fuel false r).map fun p => (v :: p.1, p.2)

/-- A scalar that begins with `b`. -/
def readScalar (b : UInt8) (r : List UInt8) : Reading Value :=
  if b = 0x6E then (readLiteral (ascii "ull") r).map fun t => (.null, t)
  else if b = 0x74 then (readLiteral (ascii "rue") r).map fun t => (.bool true, t)
  else if b = 0x66 then (readLiteral (ascii "alse") r).map fun t => (.bool false, t)
  else if b = quote then (readText r).map fun p => (.text p.1, p.2)
  else if b = 0x2D || isDigit b then (readNumber (b :: r)).map fun p => (.number p.1, p.2)
  else .error (.here .valueExpected r)

/-- A value with fewer than `depth` levels of nesting. -/
def readValue : (depth : Nat) → List UInt8 → Reading Value
  | 0, s => .error (.next .tooDeep (skipBlank s))
  | depth + 1, s =>
    match skipBlank s with
    | [] => .error (.here .endInValue [])
    | b :: r =>
      if b = openList then
        if depth = 0 then .error (.here .tooDeep r)
        else readList (fun s => (readElements (readValue depth) (s.length + 1) true s).map
          fun p => (.list p.1, p.2)) r
      else if b = openObject then
        if depth = 0 then .error (.here .tooDeep r)
        else readObject
          (fun (seen : List (String × Value)) name s =>
            (readField name false (readValue depth) s).map fun p => ((name, p.1) :: seen, p.2))
          [] (fun seen => .ok (.object seen.reverse)) r
      else readScalar b r

/-- The value of a document. -/
def parse (document : List UInt8) : Except Failure Value :=
  readDocument (readValue depthLimit) document

end Keyring.Json
