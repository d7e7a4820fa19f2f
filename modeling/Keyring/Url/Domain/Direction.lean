import Keyring.Text.Table

/-!
Directions of writing in domain names (RFC 5893).

A name in which a character is written from right to left has to keep rules that make the order of
its labels plain.

* `Direction`, `directionOf`: the direction of a character (the property Bidi_Class).
* `Direction.isRight`: whether a character makes the rules apply.
* `Direction.isOrderly`: the rules for a label.
-/

namespace Keyring

/-- The direction of a character. -/
inductive Direction where
  | left
  | right
  | arabicLetter
  | arabicNumber
  | europeanNumber
  | europeanSeparator
  | europeanTerminator
  | commonSeparator
  | neutral
  | boundary
  | attached
  | other
  deriving Repr, DecidableEq

/-- The directions of all characters, each a letter. -/
def directions : List Table.Stretch := Table.stretches [
  "9y 5z ey 5z 2o 3t 5o 1s 1k 1s 2k am 1k 26o 1al 4o 22y 1o 4t ao 6t 29o 18l 1o 1c1l 2o 7l eo 2l",
  "1co 1l 11o 71x 4l 2o 7fl 2o 8bl 8x ffl 5o 2t 2dx 1r 1x 1r 2x 1r 2x 1r 9x 36r 2o 1j 2t 1j 1k 1j",
  "2o bx 30j 15x an 1t 2n 3j 1x 65j 8x 1o 6x 2j 2x 1o 4x 2j am 17j 1x 1ej 1dx 59j bx fj 2br 9x 2r",
  "4o 3r 1x 18r 4x 1r 9x 1r 3x 1r 7x 29r 5x 2r 37j 9x 2aj 39x 37l 1x 1l 1x 4l 8x 4l 1x 3l fx 2l 2x",
  "1dl 1x 3al 1x 4l 6x 6l 1x 14l 4x cl 2t 7l 1t 2l 5x 39l 2x 3l 1bx 14l 2x 3l 1x bl 2x 39l 1x 4l",
  "8x 4l 3x 12l 4x bl 8t 1l 8x 3al 1x 2l 1x 1l 6x 6l ax bl 4x 1cl 1x 3dl 1x cl 3x 23l 6o 1t 6o 1x",
  "3l 1x 37l 1x 1l 3x 5l 12x al 4x 12l 7o 2l 1x 3al 1x fl 9x dl 4x 1al 2x 39l 2x 4l 5x 7l 1x 14l",
  "4x 1bl 1x 48l 5x 3l 6x 59l 1x 2l bx 1t 7l 8x 62l 1x 2l 9x bl 8x 48l 2x 1bl 1x 1l 1x 1l 1x 4o",
  "33l ex 1l 5x 1l 2x 5l 31x 8l 1x 66l 4x 1l 6x 1l 2x 2l 2x 19l 2x 4l 3x 10l 4x dl 1x 2l 2x 6l 1x",
  "fl 1x 2bfl 3x 30l 10o 60l 1o 29al 5o 72l 3x 1dl 2x 1el ex 12l ex 37l 7x 8l 1x 2l bx 7l 1t 1l 3x",
  "10l 20o 75l 2x 22l 1x 76l 3x 4l 2x 9l 1x 6l 7x 6o 98l 22o 17l 2x 2l 3x 38l 1x 1l 9x 1l 1x 2l 8x",
  "6l dx 30l 54x 30l 1x 1l 4x 31l 9x cl 2x 20l 4x 2l 2x 1l 3x 38l 1x 1l 2x 3l 1x 1l 3x 3al 8x 2l",
  "5x 95l 3x 1l dx 1l 7x 4l 1x 6l 1x 3l 2x c6l 41x 20bl 4y 20o 5t fo 1k 5bo 30t 34x 2ao ct 14o 3cl",
  "88o 1s 1t 122o 45l 1ao 1l 316o 1l 153o 100l 330o b5l 7o 3l 4x 6l 7o 7fl 1x 60l 20x 205o 3l 19o",
  "9l 4x 2l 1o 6l 4o 2l 4o 58l 4x 3l 1o 5al 1o c4l 30o 1bd0l 40o 5690l 40o 13dl 3o 5fl 4x 1o ax 3o",
  "1dl 2x 50l 2x el 23o 65l 1o 79l 1x 3l 1x 4l 1x 19l 2x 1l 4o 4x 8l 8t 34l co 44l ax 12l 12x dl",
  "1x 26l 8x 19l bx 2el 3x 30l 1x 2l 4x 2l 2x 27l 1x 43l 6x 2l 2x 2l bx 3l 1x 8l 1x 2fl 1x 33l 1x",
  "1l 3x 2l 2x 5l 2x 1l 1x 2al 2x 8l bx 69l 56o 25l 1x 2l 1x 4l 3x 4f2el 94x 11j 25do 25x 2eo 18dj",
  "101l 1o 3el 4do 3l 40o 2dl 83x 60l 1x 1fm 76l ax 480l 11fr 1o e1r fx 28r 8x a5r 6x 4er 7o 1c0r",
  "24j cx 1an 1fr 5x f2r 20n 2br 2x 15r fj 29o 6x 30r 16j bx 1fj 12r 4x 7ar 1l 1x 36l fx bl 14o al",
  "1x 2l 2x al 3x 31l 4x 2l 2x 7l ex 30l 3x 24l 5x 1l 9x 3dl 1x cl 2x 34l 9x al 4x 2l 1x 5fl 3x 2l",
  "1x 1l 2x 6l 1x 2l 3fx 5fl 1x 3l dx 10l 2x 39l 2x 3l 1x 25l 1ax 3bl 7x cl 1x 1l 1x 1l 1x el 1fx",
  "38l 8x 2l 3x 1l 1x 17l 1x 54l 6x 1l 1x 4l 2x 1l 2x eel 6x 4l 2x 1l 2x 1bl 24x 33l 8x 2l 1x 1l",
  "2x 1fl 20o 2bl 1x 1l 1x 2l 6x 1l 1x 65l 1x 1l 1x 2l 4x 1l 9x ffl 9x 1l 2x 100l 2x 1l 1x 4l 1x",
  "90l 8x 4l 1x 20l 6x 2l 2x 28l 6x 2l 4x 8l 9x 1l 6x 2l 3x 2el dx 1l 2x c6l 1x 1l 3x 1l 1x c9l ex",
  "54l 17x 1l 7x 1l 2x 1l 4bx 31l 15x 1l 9x 40l 3x 2l 1x 1l 1x 15bl 2x bl 2x 34l 8x 2l 1x 1l 1x",
  "17l 56x 25l 8o 4t 1eo 1441l 1x 6l 19x 2cbel cx 3l 3x 9c0l 5x 3bl 7x 418l 1x 3fl 4x 4fl 1o 1l cx",
  "4cadl 2x f61l 300o 50x 217l 3x 11l 8x 2l 7x 1el 4x 3bl 59o 3x bo 40l 30o 40l 60o 6a0l 37x 4l",
  "32x 8l 1x el 1x 16l 65x 100o 300x 100l 100x 30l 7x 177l 12x 2cl 4x fl 1d1t 1cl 4x fel 2x f3l 1x",
  "2l 1x 7l 2x 5l 9x 102l d0r 52x 22r 7x 326r 27fj 260o 1dl 3o 3dl 39o 7al da0o"]

namespace Direction

/-- The direction that a letter stands for in the table. -/
def ofLetter : Char → Direction
  | 'l' => .left
  | 'r' => .right
  | 'j' => .arabicLetter
  | 'n' => .arabicNumber
  | 'm' => .europeanNumber
  | 's' => .europeanSeparator
  | 't' => .europeanTerminator
  | 'k' => .commonSeparator
  | 'o' => .neutral
  | 'y' => .boundary
  | 'x' => .attached
  | _ => .other

/-- Whether a character is written from right to left. -/
def isRight (d : Direction) : Bool := [right, arabicLetter, arabicNumber].contains d

/-- What may stand in labels of both directions. -/
def shared : List Direction :=
  [europeanNumber, europeanSeparator, europeanTerminator, commonSeparator, neutral, boundary,
    attached]

/-- The last direction of a label, attached marks not counted. -/
def last? (ds : List Direction) : Option Direction := (ds.reverse.dropWhile (· = attached)).head?

/-- Whether a label that begins from the right is orderly: it holds no characters from the left,
ends with a letter or a number, and does not mix the two kinds of numbers. -/
def isOrderlyRight (ds : List Direction) : Bool :=
  ds.all (fun d => d.isRight || shared.contains d)
    && (last? ds).any (fun d => d.isRight || d = europeanNumber)
    && !(ds.contains europeanNumber && ds.contains arabicNumber)

/-- Whether a label that begins from the left is orderly: it holds no characters from the right and
ends with a letter or a number. -/
def isOrderlyLeft (ds : List Direction) : Bool :=
  ds.all (fun d => d = left || shared.contains d)
    && (last? ds).any (fun d => d = left || d = europeanNumber)

/-- Whether a label begins with a letter and is orderly in its direction. An empty label is. -/
def isOrderly (ds : List Direction) : Bool :=
  match ds with
  | [] => true
  | .left :: _ => isOrderlyLeft ds
  | .right :: _ => isOrderlyRight ds
  | .arabicLetter :: _ => isOrderlyRight ds
  | _ => false

end Direction

/-- The direction of a character. -/
def directionOf (c : Char) : Direction :=
  match Table.find? directions c.toNat with
  | some (s, _) => .ofLetter s.kind
  | none => .other

end Keyring
