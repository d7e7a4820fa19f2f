import Keyring.Text.Combining

/-!
Joiners in domain names (RFC 5892, appendix A).

A joiner changes only the shape of the characters around it. It is allowed where that shape makes a
difference to a reader.

* `Joining`, `joiningOf`: on which sides a character joins its neighbours (the property
  Joining_Type).
* `Joining.joinersFit`: whether all joiners of a label are allowed.
-/

namespace Keyring

/-- On which sides a character joins its neighbours. A transparent one lets them join across it. -/
inductive Joining where
  | neither
  | left
  | right
  | both
  | transparent
  deriving Repr, DecidableEq

/-- How all characters join, each way a letter. -/
def joinings : List Table.Stretch := Table.stretches [
  "300o 71t 112o 8t 106o 2dt 1o 1t 1o 2t 1o 2t 1o 9t 40o bt 5o 1w 1o 4r 1w 1r 1w 1r 5w 4r dw 1o 7w",
  "1r 2w 15t eo 2w 1t 3r 5o fw 12r 26w 1r 2w 9r 1w 1r 1w 1r 2w 2r 1o 1r 8t 1o 6t 2o 2t 1o 4t 2r ao",
  "3w 2o 1w 10o 1r 1t 3w 5r 4w 1r 9w 1r 1w 1r 1w 1r 2w 1r 1dt 1r bw 3r fw 2r 4w 1r 1w 2r 3w 2r 6w",
  "26o bt 19o 21w 9t 9o 1t 18o 4t 1o 9t 1o 3t 1o 7t 10o 1r 5w 2r 1w 1r aw 1r 1w 3r 5t 2o 1w 1o 4w",
  "1o 1r 1w 1ar 3o 1w 2o 5w 1r 8w 9t aw 3r 1o 1r 2w 2r 6w 1r fw 1o 39t 37o 1t 1o 1t 4o 8t 4o 1t 3o",
  "ft 2o 2t 1do 1t 3ao 1t 4o 6t 6o 1t 14o 4t 18o 5t 39o 2t 3o 1bt 14o 2t 3o 1t bo 2t 39o 1t 4o 8t",
  "4o 3t 12o 4t 14o 8t 3ao 1t 2o 1t 1o 6t 6o at bo 4t 1co 1t 3do 1t co 3t 30o 1t 3o 1t 37o 1t 1o",
  "3t 5o 12t ao 4t 1bo 1t 3ao 1t 2o 1t 6o 1t 5o 9t do 4t 1ao 2t 39o 2t 4o 5t 7o 1t 14o 4t 1bo 1t",
  "48o 5t 3o 6t 59o 1t 2o bt 8o 8t 62o 1t 2o 9t bo 8t 48o 2t 1bo 1t 1o 1t 1o 1t 37o et 1o 5t 1o 2t",
  "5o 31t 8o 1t 66o 4t 1o 6t 1o 2t 2o 2t 19o 2t 4o 3t 10o 4t do 1t 2o 2t 6o 1t fo 1t 2bfo 3t 3b2o",
  "3t 1do 2t 1eo et 12o et 37o 7t 8o 1t 2o bt 9o 3t 27o 1w 18o 60w 5o 2t 22w 1t 6w 70o 3t 4o 2t 9o",
  "1t 6o 7t d7o 2t 2o 3t 38o 1t 1o 9t 1o 1t 2o 8t 6o dt 30o 54t 30o 1t 1o 4t 31o 9t co 2t 20o 4t",
  "2o 2t 1o 3t 38o 1t 1o 2t 3o 1t 1o 3t 3ao 8t 2o 5t 95o 3t 1o dt 1o 7t 4o 1t 6o 1t 3o 2t c6o 41t",
  "2cfo 34t bebo 4t 8co 1t 60o 20t 22ao 4t 6bo 4t 75d2o 4t 1o at 20o 2t 50o 2t 110o 1t 3o 1t 4o 1t",
  "19o 2t 5o 4t 10o 32w 1l 51o at 12o 12t do 1t 26o 8t 19o bt 2eo 3t 30o 1t 2o 4t 2o 2t 27o 1t 43o",
  "6t 2o 2t 2o bt 3o 1t 8o 1t 2fo 1t 33o 1t 1o 3t 2o 2t 5o 2t 1o 1t 2ao 2t 8o bt e4o 1t 2o 1t 4o",
  "3t 4f2eo 94t 26eo 25t 3b8o 83t 60o 1t 95o at 681o ft 28o 8t 80o 5w 1r 1o 1r 1o 2r 2o 1l 5r 4w",
  "1l 5w 1r 3w 1r 2o 1r 6t 4w 1r 90o 1w 1r 1w 3r 3w 1r 2w 1r 1w 2r 1w 8r 10o 4r 2w 151o 1l 21w 1r",
  "1w ct 39o 5t 13do 2t 15o 1r 2w 1o aw 2ao 6t 30o 3w 1r 11w 1o bt 3w 1r 1bo 4w 2r cw 4t 2ao 1w 1o",
  "2w 3r 1o 1w 2r 2w 1r 2w 1o 1w 2r 1w 4o 1r 1w 15l 21o 1t 36o ft 29o 1t 2o 2t ao 3t 31o 4t 2o 2t",
  "7o et 30o 3t 24o 5t 1o 9t 3do 1t co 2t 34o 9t ao 4t 2o 1t 5fo 3t 2o 1t 1o 2t 6o 1t 2o 3ft 5fo",
  "1t 3o dt 10o 2t 39o 2t 3o 1t 25o 1at 3bo 7t co 1t 1o 1t 1o 1t eo 1ft 38o 8t 2o 3t 1o 1t 17o 1t",
  "54o 6t 1o 1t 4o 2t 1o 2t eeo 6t 4o 2t 1o 2t 1bo 24t 33o 8t 2o 1t 1o 2t 6ao 1t 1o 1t 2o 6t 1o 1t",
  "65o 1t 1o 1t 2o 4t 1o 9t ffo 9t 1o 2t 100o 2t 1o 1t 4o 1t 90o 8t 4o 1t 20o at 28o 6t 2o 4t 8o",
  "9t 1o 6t 2o 3t 2eo dt 1o 2t c6o 1t 1o 3t 1o 1t c9o et 1o 1t 52o 17t 1o 7t 1o 2t 1o 4bt 31o 15t",
  "1o 9t 40o 3t 2o 1t 1o 1t 15bo 2t bo 2t 34o 8t 2o 1t 1o 1t 17o 56t 1490o 1t 6o 19t 2cbeo ct 3o",
  "3t 9c0o 5t 3bo 7t 418o 1t 3fo 4t 51o ct 4cado 2t 1261o 50t 217o 3t 11o 8t 2o 7t 1eo 4t 94o 3t",
  "7bbo 37t 4o 32t 8o 1t eo 1t 16o 465t 100o 100t 30o 7t 177o 12t 2co 4t 1fco 4t feo 2t f3o 1t 2o",
  "1t 7o 2t 5o 9t 1d2o 52t 22w ct"]

namespace Joining

/-- What a letter stands for in the table. -/
def ofLetter : Char → Joining
  | 'l' => .left
  | 'r' => .right
  | 'w' => .both
  | 't' => .transparent
  | _ => .neither

end Joining

/-- How a character joins. -/
def joiningOf (c : Char) : Joining :=
  match Table.find? joinings c.toNat with
  | some (s, _) => .ofLetter s.kind
  | none => .neither

namespace Joining

/-- How the first character joins that is not transparent. -/
def firstOf? (cs : List Char) : Option Joining :=
  (cs.map joiningOf).find? (· ≠ .transparent)

/-- Whether a character of the text, given in reverse, would join what follows it. -/
def joinsNext (before : List Char) : Bool :=
  (firstOf? before).any fun j => j = .left || j = .both

/-- Whether a character of the text would join what precedes it. -/
def joinsPrevious (after : List Char) : Bool :=
  (firstOf? after).any fun j => j = .right || j = .both

/-- Whether the joiners of a text are allowed; `before` precedes it, in reverse. Both joiners may
follow a virama, and the one that keeps characters apart may stand where they would join. -/
def joinersFit (before : List Char) : List Char → Bool
  | [] => true
  | c :: r =>
    (if c = '\u200C' then before.head?.any isVirama || (joinsNext before && joinsPrevious r)
      else if c = '\u200D' then before.head?.any isVirama
      else true)
      && joinersFit (c :: before) r

end Joining

end Keyring
