import Keyring.Text.Combining
import Keyring.Text.Composition

/-!
The composed normal form of a text (UAX #15, form C).

Texts that differ only in how characters are composed, or in the order of marks that do not touch,
have one normal form.

* `NormalForm.sortMarks`: marks by their classes.
* `NormalForm.compose`: characters that make another one put together.
* `NormalForm.ofText`: the normal form of a text.
-/

namespace Keyring.NormalForm

/-- Puts a character in front of a text. A mark moves behind the marks of lower classes. -/
def putMark (c : Char) : List Char → List Char
  | [] => [c]
  | d :: r =>
    if 0 < combiningClass d && combiningClass d < combiningClass c then d :: putMark c r
    else c :: d :: r

/-- A text with its marks by their classes. Marks of one class keep their order. -/
def sortMarks (cs : List Char) : List Char := cs.foldr putMark []

/-- Whether a character is cut off from the one that it might combine with by the last of the marks
between them, given in reverse. -/
def isBlocked (between : List Char) (c : Char) : Bool :=
  between.head?.any fun d => combiningClass c ≤ combiningClass d

/-- Puts together what makes one character with `start`. The marks after `start` that do not combine
with it are `between`, in reverse. -/
def composeFrom (start : Char) (between : List Char) : List Char → List Char
  | [] => start :: between.reverse
  | c :: r =>
    match if isBlocked between c then none else compose? start c with
    | some whole => composeFrom whole between r
    | none =>
      if combiningClass c = 0 then start :: between.reverse ++ composeFrom c [] r
      else composeFrom start (c :: between) r

/-- A text with all characters put together that make another one. -/
def compose : List Char → List Char
  | [] => []
  | c :: r => composeFrom c [] r

/-- The normal form of a text. -/
def ofText (cs : List Char) : List Char := compose (sortMarks (cs.flatMap decompose))

end Keyring.NormalForm
