/-!
The fewest decimal digits that read back as a binary number.

A binary number m · 2^q is what every real between the midpoints to its neighbours rounds to. Of the
decimals in that interval, those with the fewest digits are looked for, and the nearest of them.

* `Decimal`: digits and a power of ten.
* `Decimal.shortest`: the shortest decimal of m · 2^q.
* `Decimal.ofFloat`: the shortest decimal of a positive finite float.
* `Decimal.render`: a float as text, positional where the exponent is small.
-/

namespace Keyring

/-- The number `digits · 10^exponent`. -/
structure Decimal where
  /-- the digits as one number -/
  digits : Nat
  /-- the power of ten -/
  exponent : Int
  deriving Repr, DecidableEq

namespace Decimal

/-- The largest k with 10^k ≤ num / den, for positive numbers. -/
def floorLog (num den : Nat) : Int :=
  if den ≤ num then ((Nat.toDigits 10 (num / den)).length : Int) - 1
  else -((Nat.toDigits 10 ((den - 1) / num)).length : Int)

/-- The numbers of an interval and a point in it, over one denominator. -/
structure Interval where
  /-- the lower end -/
  low : Nat
  /-- the point -/
  mid : Nat
  /-- the upper end -/
  high : Nat
  /-- what all three are divided by -/
  den : Nat
  /-- whether the ends belong to the interval -/
  closed : Bool

/-- What rounds to m · 2^q. Below a power of two (`narrow`) the neighbour is half as far away. -/
def Interval.ofBinary (m : Nat) (q : Int) (narrow : Bool) : Interval :=
  let scale := Nat.pow 2 (q - 2).toNat
  { low := (4 * m - (if narrow then 1 else 2)) * scale
    mid := 4 * m * scale
    high := (4 * m + 2) * scale
    den := Nat.pow 2 (2 - q).toNat
    closed := m % 2 = 0 }

/-- Whether c · 10^k is in the interval. -/
def Interval.holds (i : Interval) (c : Nat) (k : Int) : Bool :=
  let x := c * Nat.pow 10 k.toNat * i.den
  let s := Nat.pow 10 (-k).toNat
  if i.closed then i.low * s ≤ x && x ≤ i.high * s else i.low * s < x && x < i.high * s

/-- The nearest point of the grid of step 10^k that lies in the interval; an even one if two are as
near. -/
def Interval.onGrid (i : Interval) (k : Int) : Option Nat :=
  let num := i.mid * Nat.pow 10 (-k).toNat
  let den := i.den * Nat.pow 10 k.toNat
  let c := num / den
  let r := 2 * (num % den)
  let up := den < r || (r = den && c % 2 = 1)
  let (near, far) := if up then (c + 1, c) else (c, c + 1)
  if i.holds near k then some near else if i.holds far k then some far else none

/-- The first grid, of steps 10^k, 10^(k−1), …, that has a point in the interval. -/
def Interval.firstGrid (i : Interval) : Nat → Int → Decimal
  | 0, k => ⟨i.mid / i.den, k⟩
  | n + 1, k =>
    match i.onGrid k with
    | some c => ⟨c, k⟩
    | none => i.firstGrid n (k - 1)

/-- The shortest decimal of m · 2^q, for positive m. Seventeen digits always suffice. -/
def shortest (m : Nat) (q : Int) (narrow : Bool) : Decimal :=
  let i := Interval.ofBinary m q narrow
  i.firstGrid 18 (floorLog i.mid i.den)

/-- A decimal without zeros at the end of its digits. -/
def trimmed (d : Decimal) : Decimal :=
  go (Nat.toDigits 10 d.digits).length d
where
  /-- Takes off at most so many zeros. -/
  go : Nat → Decimal → Decimal
    | 0, d => d
    | n + 1, d =>
      if d.digits % 10 = 0 && d.digits ≠ 0 then go n ⟨d.digits / 10, d.exponent + 1⟩ else d

/-- The shortest decimal of a positive finite float. -/
def ofFloat (x : Float) : Decimal :=
  let bits : Nat := x.toBits.toNat
  let e : Nat := bits / 0x10000000000000 % 0x800
  let f : Nat := bits % 0x10000000000000
  trimmed (if e = 0 then shortest f (-1074) false
    else shortest (0x10000000000000 + f) ((e : Int) - 1075) (f = 0 && 1 < e))

/-- How a number is laid out: positional if its leading digit stands at a place from `lowest` to
`highest`, with an exponent otherwise. -/
structure Layout where
  /-- the lowest place of a leading digit that is written positionally -/
  lowest : Int
  /-- the highest place of a leading digit that is written positionally -/
  highest : Int

/-- Numbers in messages. -/
def Layout.message : Layout := ⟨-5, 15⟩

/-- A decimal as text. A positional number always has a point, an exponent always a sign. -/
def layOut (l : Layout) (d : Decimal) : String :=
  let ds := Nat.toDigits 10 d.digits
  let place : Int := ds.length + d.exponent - 1
  if l.lowest ≤ place && place ≤ l.highest then
    if 0 ≤ d.exponent then
      String.ofList (ds ++ List.replicate d.exponent.toNat '0') ++ ".0"
    else if 0 ≤ place then
      String.ofList (ds.take (place + 1).toNat) ++ "." ++ String.ofList (ds.drop (place + 1).toNat)
    else
      "0." ++ String.ofList (List.replicate (-place - 1).toNat '0' ++ ds)
  else
    String.ofList (ds.take 1)
      ++ (if ds.length = 1 then "" else "." ++ String.ofList (ds.drop 1))
      ++ "e" ++ (if place < 0 then "-" else "+")
      ++ String.ofList (Nat.toDigits 10 place.natAbs)

/-- A finite float as text. -/
def render (l : Layout) (x : Float) : String :=
  let sign := if 0x8000000000000000 ≤ x.toBits.toNat then "-" else ""
  if x == 0 then sign ++ "0.0" else sign ++ layOut l (ofFloat x.abs)

end Decimal

end Keyring
