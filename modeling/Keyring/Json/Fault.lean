import Keyring.Decimal.Shortest
import Keyring.Text.Quoted

/-!
What is wrong with a JSON document, and where.

* `Json.Cause`: what is wrong.
* `Json.Fault`: a cause and the part of the document that was still to be read. A reader may leave
  the place open (`settled = false`); the innermost reader that knows it settles it.
* `Json.Failure`: a cause with a line and a column, as it is reported.
-/

namespace Keyring.Json

/-- What stands where something else is expected. -/
inductive Found where
  | null
  | bool (b : Bool)
  | integer (n : Int)
  | float (x : Float)
  | text (s : String)
  | list
  | object
  deriving Repr, BEq

/-- The wording of what stands there. -/
def Found.message : Found → String
  | .null => "null"
  | .bool b => "boolean `" ++ (if b then "true" else "false") ++ "`"
  | .integer n => "integer `" ++ toString n ++ "`"
  | .float x => "floating point `" ++ Decimal.render .message x ++ "`"
  | .text s => "string " ++ quoted s
  | .list => "sequence"
  | .object => "map"

/-- What is wrong with a document. -/
inductive Cause where
  | endInList
  | endInObject
  | endInText
  | endInValue
  | colonExpected
  | listEndExpected
  | objectEndExpected
  | literalExpected
  | valueExpected
  | badEscape
  | badNumber
  | numberTooLarge
  | badCharacter
  | controlCharacter
  | keyNotText
  | loneSurrogate
  | endOfEscape
  | trailingComma
  | trailingCharacters
  | tooDeep
  /-- A value of another kind than the expected one. -/
  | wrongType (found : Found) (expected : String)
  /-- A value of the right kind that is out of range. -/
  | wrongValue (found : Found) (expected : String)
  /-- A list with too few elements. -/
  | wrongLength (length : Nat) (expected : String)
  | missingField (name : String)
  | duplicateField (name : String)
  | unknownField (name : String) (expected : String)
  | unknownVariant (name : String) (expected : String)
  /-- A text or a number that its own rules refuse, in their words. -/
  | refused (reason : String)
  deriving Repr, BEq

/-- The wording of a cause. -/
def Cause.message : Cause → String
  | .endInList => "EOF while parsing a list"
  | .endInObject => "EOF while parsing an object"
  | .endInText => "EOF while parsing a string"
  | .endInValue => "EOF while parsing a value"
  | .colonExpected => "expected `:`"
  | .listEndExpected => "expected `,` or `]`"
  | .objectEndExpected => "expected `,` or `\x7d`"
  | .literalExpected => "expected ident"
  | .valueExpected => "expected value"
  | .badEscape => "invalid escape"
  | .badNumber => "invalid number"
  | .numberTooLarge => "number out of range"
  | .badCharacter => "invalid unicode code point"
  | .controlCharacter => "control character (\\u0000-\\u001F) found while parsing a string"
  | .keyNotText => "key must be a string"
  | .loneSurrogate => "lone leading surrogate in hex escape"
  | .endOfEscape => "unexpected end of hex escape"
  | .trailingComma => "trailing comma"
  | .trailingCharacters => "trailing characters"
  | .tooDeep => "recursion limit exceeded"
  | .wrongType f e => "invalid type: " ++ f.message ++ ", expected " ++ e
  | .wrongValue f e => "invalid value: " ++ f.message ++ ", expected " ++ e
  | .wrongLength n e => "invalid length " ++ toString n ++ ", expected " ++ e
  | .missingField n => "missing field `" ++ n ++ "`"
  | .duplicateField n => "duplicate field `" ++ n ++ "`"
  | .unknownField n e => "unknown field `" ++ n ++ "`, expected " ++ e
  | .unknownVariant n e => "unknown variant `" ++ n ++ "`, expected " ++ e
  | .refused reason => reason

/-- A cause and what was still to be read. -/
structure Fault where
  /-- what is wrong -/
  cause : Cause
  /-- the octets after the place -/
  rest : List UInt8
  /-- whether the place is final -/
  settled : Bool
  deriving Repr, BEq

/-- A fault at the place reached. -/
def Fault.here (cause : Cause) (rest : List UInt8) : Fault := ⟨cause, rest, true⟩

/-- A fault at the next octet. -/
def Fault.next (cause : Cause) (rest : List UInt8) : Fault := ⟨cause, rest.tail, true⟩

/-- A fault whose place an enclosing reader decides. -/
def Fault.unsettled (cause : Cause) (rest : List UInt8) : Fault := ⟨cause, rest, false⟩

/-- A fault settled at the place it has. -/
def Fault.settle (f : Fault) : Fault := { f with settled := true }

/-- A cause with its place. -/
structure Failure where
  /-- what is wrong -/
  cause : Cause
  /-- the line, counted from one -/
  line : Nat
  /-- the octets of that line up to the place -/
  column : Nat
  deriving Repr, BEq

/-- The wording of a failure. -/
def Failure.message (f : Failure) : String :=
  f.cause.message ++ " at line " ++ toString f.line ++ " column " ++ toString f.column

/-- The line and column reached after some octets. -/
def placeAfter (s : List UInt8) : Nat × Nat :=
  s.foldl (fun (p : Nat × Nat) b => if b = 0x0A then (p.1 + 1, 0) else (p.1, p.2 + 1)) (1, 0)

/-- A fault of a document with its line and column. -/
def Fault.locate (document : List UInt8) (f : Fault) : Failure :=
  let (line, column) := placeAfter (document.take (document.length - f.rest.length))
  ⟨f.cause, line, column⟩

end Keyring.Json
