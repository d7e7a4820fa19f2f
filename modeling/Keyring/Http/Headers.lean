import Keyring.Error
import Keyring.Text.Blank

/-!
Headers of answers, and how long an answer may be kept.

* `Http.Headers`: names and values in the order of their arrival.
* `Http.Headers.get?`: the first value of a name, whatever its case.
* `Http.Headers.cacheControl?`: the first value of `Cache-Control` as a text.
* `Http.Headers.maxAge`: the seconds of the first `max-age` directive.
-/

namespace Keyring.Http

/-- A name and a value. -/
structure Header where
  /-- the name -/
  name : String
  /-- the octets of the value -/
  value : List UInt8
  deriving Repr, DecidableEq

/-- Headers in the order of their arrival. -/
abbrev Headers := List Header

namespace Headers

/-- A name in lower case. -/
def lower (name : String) : List Char := name.toList.map Char.toLower

/-- The first value of a name, whatever its case. -/
def get? (headers : Headers) (name : String) : Option (List UInt8) :=
  (headers.find? fun h => lower h.name = lower name).map (·.value)

/-- Whether an octet may stand in a value that is read as a text: a tab, or a visible ASCII
character. -/
def isVisible (b : UInt8) : Bool := b = 0x09 || (0x20 ≤ b && b ≤ 0x7E)

/-- A value as a text. -/
def visibleText? (value : List UInt8) : Option (List Char) :=
  if value.all isVisible then some (value.map fun b => Char.ofNat b.toNat) else none

/-- The first value of `Cache-Control`, if it is a text. Later values do not count. -/
def cacheControl? (headers : Headers) : Option (List Char) :=
  (headers.get? "cache-control").bind visibleText?

/-- What begins the directive that is looked for. -/
def maxAgeMark : List Char := "max-age=".toList

/-- The directives of a value, without the blanks around them. -/
def directives (value : List Char) : List (List Char) :=
  (value.splitOn ',').map trimBlank

/-- The seconds of a directive. -/
def directiveSeconds (directive : List Char) : Except Error UInt64 :=
  match Decimal.parse64 (directive.drop maxAgeMark.length) with
  | .ok n => .ok (UInt64.ofNat n)
  | .error f => .error (.format (.maxAge (String.ofList directive) f))

/-- How long an answer may be kept: the first directive with the mark decides, right or wrong. -/
def maxAge (headers : Headers) : Except Error Duration :=
  match (directives (headers.cacheControl?.getD [])).find? maxAgeMark.isPrefixOf with
  | some d => (directiveSeconds d).map Duration.ofSeconds
  | none => .error (.config .noMaxAge)

end Headers

end Keyring.Http
