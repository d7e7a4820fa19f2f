/-!
Times as certificates write them.

* `Asn1.isShortTime`: a year of two digits, with or without seconds, and the distance from UTC.
* `Asn1.isLongTime`: a year of four digits, in UTC.
-/

namespace Keyring.Asn1

/-- Whether an octet is a digit. -/
def isTimeDigit (b : UInt8) : Bool := 0x30 ≤ b && b ≤ 0x39

/-- A number of two digits, and what follows it. -/
def readTwo? : List UInt8 → Option (Nat × List UInt8)
  | a :: b :: r =>
    if isTimeDigit a && isTimeDigit b then some ((a.toNat - 0x30) * 10 + (b.toNat - 0x30), r)
    else none
  | _ => none

/-- Whether a year has a day more. -/
def isLeap (year : Nat) : Bool := year % 4 = 0 && (year % 100 ≠ 0 || year % 400 = 0)

/-- The days of a month. -/
def daysOf (year month : Nat) : Nat :=
  if month = 2 then (if isLeap year then 29 else 28)
  else if month = 4 || month = 6 || month = 9 || month = 11 then 30
  else 31

/-- Whether there is such a day. -/
def isDay (year month day : Nat) : Bool :=
  1 ≤ month && month ≤ 12 && 1 ≤ day && day ≤ daysOf year month

/-- A month, a day and an hour that there are, and what follows them. -/
def readHour? (year : Nat) (s : List UInt8) : Option (List UInt8) := do
  let (month, s) ← readTwo? s
  let (day, s) ← readTwo? s
  let (hour, s) ← readTwo? s
  if isDay year month day && hour < 24 then some s else none

/-- A minute or a second, and what follows it. -/
def readSixtieth? (s : List UInt8) : Option (List UInt8) := do
  let (n, s) ← readTwo? s
  if n < 60 then some s else none

/-- What follows a minute or a second that may be missing. It is missing where fewer than two octets
are left. -/
def skipSixtieth? (s : List UInt8) : Option (List UInt8) :=
  if s.length < 2 then some s else readSixtieth? s

/-- The greatest distance from UTC, in hours. -/
def farthestZone : Nat := 25

/-- The letter `Z`, or a sign, hours and minutes. -/
def isZone : List UInt8 → Bool
  | [0x5A] => true
  | b :: r =>
    (b = 0x2B || b = 0x2D) &&
      match readTwo? r with
      | some (h, r) => h ≤ farthestZone && (readSixtieth? r).any List.isEmpty
      | none => false
  | [] => false

/-- Whether octets can be shown. -/
def isVisible (s : List UInt8) : Bool := s.all fun b => 0x20 ≤ b && b ≤ 0x7F

/-- Whether octets are a time with a year of two digits. Years from 50 on are of the century before.
-/
def isShortTime (s : List UInt8) : Bool :=
  isVisible s &&
    ((readTwo? s).bind fun (y, r) =>
      (readHour? (if 50 ≤ y then 1900 + y else 2000 + y) r).bind fun r =>
        (readSixtieth? r).bind skipSixtieth?).any isZone

/-- The end of a time in UTC: `Z`, or a point, at most three digits and `Z`. -/
def isUtcEnd : List UInt8 → Bool
  | [0x5A] => true
  | 0x2E :: r => (r.takeWhile isTimeDigit).length ≤ 3 && r.dropWhile isTimeDigit = [0x5A]
  | _ => false

/-- Whether octets are a time with a year of four digits. Minutes and seconds may be missing. -/
def isLongTime (s : List UInt8) : Bool :=
  isVisible s &&
    ((readTwo? s).bind fun (century, r) => (readTwo? r).bind fun (year, r) =>
      (readHour? (century * 100 + year) r).bind fun r =>
        (skipSixtieth? r).bind skipSixtieth?).any isUtcEnd

end Keyring.Asn1
