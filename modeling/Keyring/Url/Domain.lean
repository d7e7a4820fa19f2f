import Keyring.Text.NormalForm
import Keyring.Text.Utf8
import Keyring.Url.Domain.Direction
import Keyring.Url.Domain.Joining
import Keyring.Url.Domain.Mapping
import Keyring.Url.Punycode

/-!
Domain names (UTS #46).

A name may be written with any characters. Its ASCII form writes each label that needs it in
punycode, behind a mark.

* `Domain.labels?`: the labels of a name, in characters.
* `Domain.isAllowed`: the rules for labels with characters other than ASCII.
* `Domain.toAscii?`: the ASCII form of a domain name, if it has one.
-/

namespace Keyring.Domain

/-- Whether a character is ASCII. -/
def isAscii (c : Char) : Bool := c.toNat < 0x80

/-- Whether a character may not stand in the ASCII form of a domain name. -/
def isForbidden (c : Char) : Bool :=
  c.toNat ≤ 0x20 || c.toNat = 0x7F
    || ['#', '/', ':', '<', '>', '?', '@', '[', '\\', ']', '^', '|', '%'].contains c

/-! ### Labels -/

/-- What marks a label in punycode. -/
def codeMark : List Char := "xn--".toList

/-- The longest code that is read. -/
def longestCode : Nat := 2000

/-- The longest label that is written in punycode. -/
def longestLabel : Nat := 1000

/-- The label of a code. It needs a code, it is in normal form, and no character of it would be
changed or refused. -/
def ofCode? (code : List Char) : Option (List Char) :=
  if longestCode < code.length then none
  else
    (Punycode.decode? code).filter fun label =>
      !label.all isAscii && label.all (effect · = .keep) && NormalForm.ofText label = label

/-- A label in characters. -/
def decodeLabel? (label : List Char) : Option (List Char) :=
  if codeMark.isPrefixOf label then ofCode? (label.drop codeMark.length) else some label

/-- The labels of a name, in characters. -/
def labels? (name : List Char) : Option (List (List Char)) := do
  let mapped ← map? name
  ((NormalForm.ofText mapped).splitOn '.').mapM decodeLabel?

/-- Whether a label with characters other than ASCII begins as it may and has its joiners where they
are allowed. -/
def isAllowed (label : List Char) : Bool :=
  label.all isAscii || (!label.head?.any isMark && Joining.joinersFit [] label)

/-- Whether the labels of a name are orderly, if the name has to keep the rules for directions. -/
def isOrderly (labels : List (List Char)) : Bool :=
  let directions := labels.map (·.map directionOf)
  !directions.any (·.any Direction.isRight) || directions.all Direction.isOrderly

/-- A label in ASCII. -/
def encodeLabel? (label : List Char) : Option (List Char) :=
  if label.all isAscii then some label
  else if longestLabel < label.length then none
  else some (codeMark ++ Punycode.encode label)

/-! ### Names -/

/-- The ASCII form of a domain name. -/
def toAscii? (octets : List UInt8) : Option (List Char) := do
  let name ← (Utf8.decode octets).toOption
  let labels ← labels? name
  if labels.all isAllowed && isOrderly labels then
    let name := ['.'].intercalate (← labels.mapM encodeLabel?)
    if name.any isForbidden then none else some name
  else none

end Keyring.Domain
