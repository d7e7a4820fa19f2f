import Keyring.Json.Lexeme

/-!
Values that are passed over.

A member that is not read is only followed to its end: its numbers may have any size, its texts
need not be UTF-8, and it may be nested to any depth. The lists and objects that are open are kept
on a stack.

* `Json.skipScalar`: a literal, a number or a text.
* `Json.skipFrom`: the octets after everything that is open has been closed.
* `Json.skipValue`: the octets after one value.
-/

namespace Keyring.Json

/-- What is open. -/
inductive Frame where
  | list
  | object
  deriving Repr, DecidableEq

/-- The octet that closes a list or an object. -/
def Frame.close : Frame → UInt8
  | .list => 0x5D
  | .object => 0x7D

/-- The cause if the document ends inside a list or an object. -/
def Frame.unclosed : Frame → Cause
  | .list => .endInList
  | .object => .endInObject

/-- The cause if neither a comma nor the closing octet follows an item. -/
def Frame.endExpected : Frame → Cause
  | .list => .listEndExpected
  | .object => .objectEndExpected

/-! ### Single steps -/

/-- A literal, a number or a text that begins with `b`. -/
def skipScalar (b : UInt8) (r : List UInt8) : Except Fault (List UInt8) :=
  if b = 0x6E then readLiteral (ascii "ull") r
  else if b = 0x74 then readLiteral (ascii "rue") r
  else if b = 0x66 then readLiteral (ascii "alse") r
  else if b = 0x22 then skipText r
  else if b = 0x2D then skipUnsigned r
  else if isDigit b then skipUnsigned (b :: r)
  else .error (.here .valueExpected r)

/-- The name of a member and the colon after it. -/
def skipName (s : List UInt8) : Except Fault (List UInt8) :=
  match skipBlank s with
  | [] => .error (.here .endInObject [])
  | b :: r =>
    if b = 0x22 then
      match skipText r with
      | .error f => .error f
      | .ok t =>
        match skipBlank t with
        | [] => .error (.here .endInObject [])
        | c :: u => if c = 0x3A then .ok u else .error (.here .colonExpected u)
    else .error (.here .keyNotText r)

/-- What precedes the next value in an open list or object. -/
def Frame.skipName : Frame → List UInt8 → Except Fault (List UInt8)
  | .list, s => .ok s
  | .object, s => Json.skipName s

/-! ### Every step shortens the document -/

/-- Skipping blanks leaves no more octets. -/
theorem skipBlank_length (s : List UInt8) : (skipBlank s).length ≤ s.length :=
  length_dropWhile_le _ _

/-- The octets after blanks are no more than those before. -/
theorem length_lt_of_skipBlank {s r : List UInt8} {b : UInt8} (h : skipBlank s = b :: r) :
    r.length < s.length := by
  have := skipBlank_length s
  rw [h, List.length_cons] at this
  omega

/-- A literal leaves no more octets. -/
theorem readLiteral_length {w s r : List UInt8} (h : readLiteral w s = .ok r) :
    r.length ≤ s.length := by
  induction w generalizing s with
  | nil => cases h; exact Nat.le_refl _
  | cons a w ih =>
    cases s with
    | nil => cases h
    | cons b s =>
      simp only [readLiteral] at h
      split at h
      · exact Nat.le_succ_of_le (ih h)
      · cases h

/-- A text leaves no more octets. -/
theorem skipText_length {s r : List UInt8} (h : skipText s = .ok r) : r.length ≤ s.length := by
  fun_induction skipText s with
  | case1 => cases h
  | case2 s t ht =>
    cases h
    have := length_dropWhile_le isPlain s
    rw [ht, List.length_cons] at this
    omega
  | case3 => cases h
  | case4 s t t' he ht _ ih =>
    have h₁ := skipEscape_length he
    have h₂ := length_dropWhile_le isPlain s
    rw [ht, List.length_cons] at h₂
    have h₃ := ih h
    omega
  | case5 => cases h

/-- A sign leaves no more octets. -/
theorem readSign_length (s : List UInt8) : (readSign s).2.length ≤ s.length := by
  unfold readSign
  split
  · simp
  · repeat' split
    all_goals simp

/-- The part of a number after its `e` leaves no more octets. -/
theorem skipExponent_length {s r : List UInt8} (h : skipExponent s = .ok r) :
    r.length ≤ s.length := by
  have hs := readSign_length s
  unfold skipExponent at h
  split at h
  · cases h
  · next b t ht =>
    rw [ht, List.length_cons] at hs
    split at h
    · cases h
      have := length_dropWhile_le isDigit t
      omega
    · cases h

/-- The part of a number after its point leaves no more octets. -/
theorem skipFraction_length {s r : List UInt8} (h : skipFraction s = .ok r) :
    r.length ≤ s.length := by
  unfold skipFraction at h
  split at h
  · cases h
  · next b t =>
    split at h
    · have ht := length_dropWhile_le isDigit t
      split at h
      · next hd =>
        rw [hd, List.length_cons] at ht
        split at h
        · have := skipExponent_length h
          simp only [List.length_cons]
          omega
        · cases h
          simp only [List.length_cons]
          omega
      · cases h
        simp
    · cases h

/-- A number leaves no more octets. -/
theorem skipUnsigned_length {s r : List UInt8} (h : skipUnsigned s = .ok r) :
    r.length < s.length := by
  unfold skipUnsigned at h
  split at h
  · cases h
  · next b t =>
    have ht := length_dropWhile_le isDigit t
    split at h
    · cases h
    · split at h
      · cases h
      · split at h
        · next hd =>
          rw [hd, List.length_cons] at ht
          have := skipFraction_length h
          simp only [List.length_cons]
          omega
        · next hd =>
          rw [hd, List.length_cons] at ht
          split at h
          · have := skipExponent_length h
            simp only [List.length_cons]
            omega
          · cases h
            simp only [List.length_cons]
            omega
        · cases h
          simp

/-- A scalar leaves no more octets. -/
theorem skipScalar_length {b : UInt8} {s r : List UInt8} (h : skipScalar b s = .ok r) :
    r.length ≤ s.length := by
  unfold skipScalar at h
  split at h
  · exact readLiteral_length h
  · split at h
    · exact readLiteral_length h
    · split at h
      · exact readLiteral_length h
      · split at h
        · exact skipText_length h
        · split at h
          · exact Nat.le_of_lt (skipUnsigned_length h)
          · split at h
            · exact Nat.le_of_lt_succ (skipUnsigned_length h)
            · cases h

/-- The name of a member takes octets. -/
theorem skipName_length {s r : List UInt8} (h : skipName s = .ok r) : r.length ≤ s.length := by
  unfold skipName at h
  split at h
  · cases h
  · next h₁ =>
    have h₁ := length_lt_of_skipBlank h₁
    split at h
    · split at h
      · cases h
      · next h₂ =>
        have h₂ := skipText_length h₂
        split at h
        · cases h
        · next h₃ =>
          have h₃ := length_lt_of_skipBlank h₃
          split at h
          · cases h
            omega
          · cases h
    · cases h

/-- What precedes a value leaves no more octets. -/
theorem Frame.skipName_length {f : Frame} {s r : List UInt8} (h : f.skipName s = .ok r) :
    r.length ≤ s.length := by
  cases f with
  | list => cases h; exact Nat.le_refl _
  | object => exact Json.skipName_length h

/-! ### Whole values -/

/-- Where a reader stands. -/
inductive Place where
  /-- Before a value. -/
  | value
  /-- After the opening octet of the innermost list or object. -/
  | opened
  /-- After a value. -/
  | after
  deriving Repr, DecidableEq

/-- Places before a value come last, as nothing is read on the way to them. -/
def Place.rank : Place → Nat
  | .value => 0
  | .opened => 1
  | .after => 1

/-- The octets after the end of everything that is open. -/
def skipFrom (place : Place) (stack : List Frame) (s : List UInt8) : Except Fault (List UInt8) :=
  match place, stack with
  | .value, stack =>
    match _h : skipBlank s with
    | [] => .error (.here .endInValue [])
    | b :: r =>
      if b = 0x5B then skipFrom .opened (.list :: stack) r
      else if b = 0x7B then skipFrom .opened (.object :: stack) r
      else
        match _k : skipScalar b r with
        | .error f => .error f
        | .ok t => skipFrom .after stack t
  | _, [] => .ok s
  | .opened, f :: stack =>
    match _h : skipBlank s with
    | [] => .error (.here f.unclosed [])
    | b :: r =>
      if b = f.close then skipFrom .after stack r
      else
        match _k : f.skipName (b :: r) with
        | .error e => .error e
        | .ok t => skipFrom .value (f :: stack) t
  | .after, f :: stack =>
    match _h : skipBlank s with
    | [] => .error (.here f.unclosed [])
    | b :: r =>
      if b = 0x2C then
        match _k : f.skipName r with
        | .error e => .error e
        | .ok t => skipFrom .value (f :: stack) t
      else if b = f.close then skipFrom .after stack r
      else .error (.here f.endExpected r)
termination_by (s.length, place.rank)
decreasing_by
  all_goals
    have hb := length_lt_of_skipBlank _h
    first
    | exact Prod.Lex.left _ _ hb
    | exact Prod.Lex.left _ _ (Nat.lt_of_le_of_lt (skipScalar_length _k) hb)
    | exact Prod.Lex.left _ _ (Nat.lt_of_le_of_lt (Frame.skipName_length _k) hb)
    | have hk := Frame.skipName_length _k
      rw [List.length_cons] at hk
      rcases Nat.lt_or_eq_of_le (Nat.le_trans hk hb) with hl | hl
      · exact Prod.Lex.left _ _ hl
      · rw [hl]
        exact Prod.Lex.right _ (by decide)

/-- The octets after one value. -/
def skipValue (s : List UInt8) : Except Fault (List UInt8) := skipFrom .value [] s

end Keyring.Json
