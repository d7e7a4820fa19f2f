import Keyring.Text.Hex

/-!
Tables of code points written as text.

A table is a list of lines, and a line is a list of words with single blanks between them. Numbers
are hexadecimal.

* `Table.words`, `Table.number`, `Table.numbers`: the words of a table and the numbers of a word.
* `Table.Stretch`: neighbouring code points of one kind. It is written as how many they are, a
  letter for the kind and numbers that tell more about it: `2m61,62`.
* `Table.find?`: the stretch of a code point and its place there.
-/

namespace Keyring.Table

/-- The words of a table. -/
def words (lines : List String) : List (List Char) := lines.flatMap fun s => s.toList.splitOn ' '

/-- The number that a word stands for. -/
def number (word : List Char) : Nat := word.foldl (fun n c => n * 16 + (Hex.value? c).getD 0) 0

/-- The numbers of a word with commas between them. An empty word has none. -/
def numbers (word : List Char) : List Nat :=
  if word.isEmpty then [] else (word.splitOn ',').map number

/-- Neighbouring code points of one kind. -/
structure Stretch where
  /-- how many they are -/
  length : Nat
  /-- a letter for the kind, which is no digit -/
  kind : Char
  /-- what else is known about the kind -/
  numbers : List Nat
  deriving Repr, DecidableEq

/-- The stretch that a word stands for. -/
def Stretch.ofWord (word : List Char) : Stretch :=
  let isDigit (c : Char) : Bool := (Hex.value? c).isSome
  { length := number (word.takeWhile isDigit)
    kind := (word.dropWhile isDigit).headD ' '
    numbers := Table.numbers (word.dropWhile isDigit).tail }

/-- The stretches of a table, the first of which begins with zero. -/
def stretches (lines : List String) : List Stretch := (words lines).map Stretch.ofWord

/-- The stretch of a code point and its place there. -/
def find? : List Stretch → Nat → Option (Stretch × Nat)
  | [], _ => none
  | s :: r, x => if x < s.length then some (s, x) else find? r (x - s.length)

end Keyring.Table
