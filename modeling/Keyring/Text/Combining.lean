import Keyring.Text.Runs

/-!
Characters that combine with the one before them.

* `isMark`: whether a character is a mark (the general category M).
* `combiningClass`: where a mark attaches (the property Canonical_Combining_Class). Marks of
  different classes do not touch, so their order does not matter. Zero stands for a character that
  starts anew.
* `isVirama`: whether a mark suppresses the vowel of a consonant.
-/

namespace Keyring

/-- The marks. -/
def markRuns : List Nat := Runs.ofLines [
  "300 70 113 7 107 2d 1 1 1 2 1 2 1 1 48 b 30 15 10 1 65 7 2 6 2 2 1 4 23 1 1e 1b 5b b 3a 9 9 1",
  "18 4 1 9 1 3 1 5 2b 3 3b 9 2a 18 1 21 36 3 1 12 1 7 a 2 1d 3 38 1 1 7 2 2 2 3 9 1 a 2 1a 1 2 3",
  "38 1 1 5 4 2 2 3 3 1 1e 2 3 1 b 3 38 1 1 8 1 3 1 3 14 2 16 6 1 3 38 1 1 7 2 2 2 3 7 3 a 2 1e 1",
  "3b 5 3 3 1 4 9 1 28 5 37 1 1 7 1 3 1 4 7 2 b 2 1d 3 38 1 1 7 1 3 1 4 7 2 b 2 f 1 c 4 37 2 1 7",
  "1 3 1 4 9 1 a 2 1d 3 46 1 4 6 1 1 1 8 12 2 3d 1 2 7 c 8 62 1 2 9 b 7 49 2 1b 1 1 1 1 1 4 2 31",
  "14 1 2 5 b 1 24 9 1 64 14 17 4 4 3 1 3 2 7 3 4 d c 1 1 a 4 2bf 3 3b2 4 1c 3 1d 2 1e 2 40 20 9",
  "1 2d 3 1 1 75 2 22 1 76 c 4 c db 5 39 a 1 1d 2 1 30 2e 2 c 14 5 2f 11 26 9 c 3 1e d 38 e 30 14",
  "98 3 1 15 4 1 6 1 2 3 c6 40 2d0 21 bfe 3 8d 1 60 20 22a 6 69 2 75d4 4 1 a 20 2 50 2 110 1 3 1",
  "4 1 17 5 4 1 53 2 32 12 1a 12 d 1 26 8 19 d 2c 4 2f e 24 1 43 e c 1 8 2 2d 3 32 1 1 3 2 2 5 2",
  "1 1 29 5 5 2 ec 8 1 2 4f30 1 2e1 10 10 10 3cd 1 e2 1 95 5 686 3 1 2 5 4 28 3 4 1 a5 2 23d 4 41",
  "5 13d 2 4d 6 46 b 31 4 7a 3 35 f 29 1 2 2 a 4 2d b 7 1 3d 3 24 e 10 2 2c 1 c 3 30 e 8 4 1 2 5c",
  "c 6 1 2 1 9d c 15 4 37 2 1 7 2 2 2 3 9 1 a 2 2 7 3 5 43 9 1 1 2 1 1 4 1 5 1 1 e 2 52 12 17 1",
  "51 14 eb 7 2 9 1b 2 52 11 6a d 65 f 100 f f5 6 1 2 2 4 1 1 1 2 8d 7 2 7 3 1 1c a 28 7 1 4 8 1",
  "9 b 2e 10 c6 8 c7 8 1 8 52 16 1 e 7a 6 3 1 1 2 1 7 1 1 42 5 1 2 1 5 15b 4 9 2 1 1 30 7 3 5 17",
  "1 14e5 1 6 f 2cc8 12 9c0 5 3b 7 418 1 1 37 7 4 51 1 b 2 4cab 2 1261 2e 2 17 21e 5 3 6 8 8 2 7",
  "1e 4 94 3 7bb 37 4 32 8 1 e 1 16 5 1 f 550 7 1 11 2 7 1 2 1 5 64 1 a0 7 177 1 3d 4 1fc 4 fe 2",
  "f3 1 2 1 7 2 5 1 1da 7 6d 7 c17b5 f0"]

/-- Whether a character is a mark. -/
def isMark (c : Char) : Bool := Runs.contains markRuns c.toNat

/-- The classes of all characters. The kind `k` has the class as its number, the kind `z` is class
zero. -/
def combiningClasses : List Table.Stretch := Table.stretches [
  "300z 15ke6 1ke8 4kdc 1ke8 1kd8 5kdc 2kca 4kdc 2kca bkdc 5k1 4kdc 3ke6 2z 1ke6 2z 1kf0 1ke6 3kdc",
  "3ke6 2kdc 1z 3ke6 4kdc 1ke6 1ke8 2kdc 1ke6 1ke9 2kea 1ke9 2kea 1ke9 dke6 113z 5ke6 109z 1kdc",
  "4ke6 1kdc 3ke6 1kde 1kdc 6ke6 6kdc 2ke6 1kdc 2ke6 1kde 1ke4 1ke6 1ka 1kb 1kc 1kd 1ke 1kf 1k10",
  "1k11 1k12 2k13 1k14 1k15 1k16 1z 1k17 1z 1k18 1k19 1z 1ke6 1kdc 1z 1k12 48z 8ke6 1k1e 1k1f 1k20",
  "30z 1k1b 1k1c 1k1d 1k1e 1k1f 1k20 1k21 1k22 2ke6 2kdc 5ke6 1kdc 2ke6 1kdc 10z 1k23 65z 7ke6 2z",
  "4ke6 1kdc 1ke6 2z 2ke6 1z 1kdc 2ke6 1kdc 23z 1k24 1ez 1ke6 1kdc 2ke6 1kdc 2ke6 3kdc 1ke6 2kdc",
  "1ke6 1kdc 3ke6 1kdc 1ke6 1kdc 1ke6 1kdc 1ke6 1kdc 2ke6 a0z 7ke6 1kdc 1ke6 9z 1kdc 18z 4ke6 1z",
  "9ke6 1z 3ke6 1z 5ke6 2bz 3kdc 3bz 2ke6 3kdc 4ke6 2az 5ke6 5kdc eke6 1z 1kdc 2ke6 1kdc 2ke6 1kdc",
  "3ke6 3kdc 1k1b 1k1c 1k1d 3ke6 1kdc 2ke6 2kdc 5ke6 3cz 1k7 10z 1k9 3z 1ke6 1kdc 2ke6 67z 1k7 10z",
  "1k9 30z 1ke6 3dz 1k7 10z 1k9 6ez 1k7 10z 1k9 6ez 1k7 10z 1k9 7fz 1k9 6ez 1k7 10z 1k9 7z 1k54",
  "1k5b 65z 1k7 10z 1k9 6dz 2k9 10z 1k9 7cz 1k9 6dz 2k67 1k9 dz 4k6b 6cz 2k76 1k9 dz 4k7a 4cz 2kdc",
  "1bz 1kdc 1z 1kdc 1z 1kd8 37z 1k81 1k82 1z 1k84 5z 4k82 2z 1k82 1z 2ke6 1k9 1z 2ke6 3ez 1kdc 70z",
  "1k7 1z 2k9 52z 1kdc 2cfz 3ke6 3b4z 2k9 1ez 1k9 9dz 1k9 az 1ke6 cbz 1ke4 8fz 1kde 1ke6 1kdc dbz",
  "1ke6 1kdc 47z 1k9 14z 8ke6 2z 1kdc 30z 5ke6 6kdc 2ke6 1kdc 1z 2kdc 2ke6 2kdc 5ke6 1kdc 12ke6",
  "1kdc 1ke6 1z 6ke6 1kdc 4ke6 1kea 48z 1k7 fz 1k9 26z 1ke6 1kdc 7ke6 36z 2k9 3az 1k7 bz 2k9 43z",
  "1k7 98z 3ke6 1z 1k1 5kdc 2ke6 4kdc 1ke6 1z 7k1 4z 1kdc 6z 1ke6 3z 2ke6 c6z 2ke6 1kdc 7ke6 1kdc",
  "2ke6 1kea 1kd6 1kdc 1kca 25ke6 1ke8 2ke4 1kdc 1kda 1ke6 1ke9 1kdc 1ke6 1kdc 2d0z 2ke6 2k1 4ke6",
  "3k1 2ke6 4z 1ke6 3z 2k1 1ke6 1kdc 1ke6 2k1 4kdc 1ke6 bfez 3ke6 8dz 1k9 60z 20ke6 22az 1kda 1ke4",
  "1ke8 1kde 2ke0 69z 2k8 75d4z 1ke6 4z ake6 20z 2ke6 50z 2ke6 114z 1k9 25z 1k9 97z 1k9 1bz 12ke6",
  "39z 3kdc 25z 1k9 5fz 1k7 cz 1k9 efz 1ke6 1z 2ke6 1kdc 2z 2ke6 5z 2ke6 1z 1ke6 34z 1k9 f6z 1k9",
  "4f30z 1k1a 301z 7ke6 7kdc 2ke6 3cdz 1kdc e2z 1kdc 95z 5ke6 692z 1kdc 1z 1ke6 28z 1ke6 1k1 1kdc",
  "4z 1k9 a5z 1ke6 1kdc 23dz 4ke6 41z 5ke6 13dz 2ke6 4dz 2kdc 1z 3kdc 46z 2kdc 3ke6 1kdc 1ke6 4kdc",
  "31z 1ke6 1kdc 1ke6 1kdc c0z 1k9 29z 1k9 ez 1k9 39z 1k9 1k7 45z 3ke6 30z 2k9 3ez 1k7 4cz 1k9 9z",
  "1k7 6az 1k9 1k7 b2z 1k7 1k9 50z 2k7 10z 1k9 18z 7ke6 3z 5ke6 59z 3k9 71z 1k9 3z 1k7 17z 1ke6",
  "63z 1k9 1k7 fbz 1k9 1k7 7ez 1k9 76z 1k9 1k7 73z 1k9 10dz 1k9 1k7 102z 2k9 4z 1k7 9cz 1k9 53z",
  "1k9 12z 1k9 51z 1k9 1a5z 1k9 102z 1k7 1z 2k9 51z 1k9 1a9z 2k9 41ecz 1k9 9c0z 5k1 3bz 7ke6 4b9z",
  "2k6 4cacz 1k1 14c6z 2kd8 3k1 3z 1ke2 5kd8 8z 8kdc 2z 5ke6 2kdc 1ez 4ke6 94z 3ke6 dbbz 7ke6 1z",
  "11ke6 2z 7ke6 1z 2ke6 1z 5ke6 64z 1ke6 a0z 7ke6 177z 1ke6 3dz 4ke6 1fcz 2ke8 1kdc 1ke6 fez 1ke6",
  "1kdc f3z 1ke6 2z 1ke6 7z 2ke6 5z 1ke6 1daz 7kdc 6dz 6ke6 1k7"]

/-- The class of a character. -/
def combiningClass (c : Char) : Nat :=
  match Table.find? combiningClasses c.toNat with
  | some (s, _) => s.numbers.headD 0
  | none => 0

/-- Whether a mark suppresses the vowel of a consonant. -/
def isVirama (c : Char) : Bool := combiningClass c = 9

end Keyring
