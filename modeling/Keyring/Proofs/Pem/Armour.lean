import Mathlib.Tactic
import Keyring.Pem
import Keyring.Proofs.Text.Padding
import Keyring.Proofs.Text.Utf8

/-!
What is armoured is held by the block, whatever its label and however long its lines.

* `find_append`, `IsLabel.find_hyphens`: markers are found, although the search does not go back.
* `eq_append_of_find`: and where one is found, it stands.
* `IsLabel`, `isLabel_of_not_mem`: what may be a label.
* `Frame.Labelled`, `Frame.contents_congr`: labels do not matter.
* `Armoured`: octets that are armoured as one block.
* `frame?_block`, `Armoured.contents_eq`: the parts of the block are found, and it holds the octets.
-/

namespace Keyring.Pem

variable {s r before rest marker : List UInt8} {m : UInt8}

/-! ### Searching -/

/-- What is left to be matched is matched where it stands. -/
lemma afterMarker_left (marker left r : List UInt8) :
    afterMarker marker left (left ++ r) = some r := by
  induction left with
  | nil => rw [List.nil_append, afterMarker]
  | cons m left ih =>
      rw [List.cons_append, afterMarker, if_pos rfl]
      split_ifs with hend
      · rw [List.isEmpty_iff.mp hend, List.nil_append]
      · exact ih

/-- A marker is found behind octets that it does not begin with. -/
lemma find_append (h : m ∉ before) (marker rest : List UInt8) :
    find (m :: marker) (before ++ (m :: marker ++ rest)) = some (before, rest) := by
  have hafter : afterMarker (m :: marker) (m :: marker) (before ++ (m :: marker ++ rest))
      = some rest := by
    induction before with
    | nil => exact afterMarker_left _ _ _
    | cons b before ih =>
        have hb : b ≠ m := fun hb => h (hb ▸ List.mem_cons_self)
        rw [List.cons_append, afterMarker, if_neg hb]
        exact ih fun hm => h (List.mem_cons_of_mem _ hm)
  have hlength : (before ++ (m :: marker ++ rest)).length - rest.length - (m :: marker).length
      = before.length := by
    simp only [List.length_append]
    omega
  rw [find, hafter, Option.map_some, hlength, List.take_left]

/-- Where a marker has been matched, it stands. -/
lemma eq_append_of_afterMarker (seen : List UInt8) {left : List UInt8}
    (hmarker : marker = seen ++ left) (h : afterMarker marker left s = some r) :
    ∃ p, seen ++ s = p ++ (marker ++ r) := by
  induction s generalizing seen left with
  | nil =>
      cases left with
      | nil =>
          rw [afterMarker] at h
          obtain rfl := Option.some.inj h
          exact ⟨[], by simp [hmarker]⟩
      | cons => cases h
  | cons b s ih =>
      cases left with
      | nil =>
          rw [afterMarker] at h
          obtain rfl := Option.some.inj h
          exact ⟨[], by simp [hmarker]⟩
      | cons m left =>
          rw [afterMarker] at h
          split_ifs at h with hb hend
          · obtain rfl := Option.some.inj h
            rw [List.isEmpty_iff.mp hend] at hmarker
            exact ⟨[], by simp [hmarker, hb]⟩
          · obtain ⟨p, hp⟩ := ih (seen ++ [m]) (by simp [hmarker]) h
            exact ⟨p, by simpa [hb] using hp⟩
          · obtain ⟨p, hp⟩ := ih [] rfl h
            exact ⟨seen ++ b :: p, by simpa using congrArg (fun t => seen ++ b :: t) hp⟩

/-- **Where a marker is found, it stands.** -/
lemma eq_append_of_find (h : find marker s = some (before, rest)) :
    ∃ p, s = p ++ (marker ++ rest) := by
  obtain ⟨r, hr, hp⟩ := Option.map_eq_some_iff.mp h
  obtain ⟨-, rfl⟩ := Prod.mk.inj hp
  exact eq_append_of_afterMarker [] rfl hr

/-! ### Labels -/

/-- A label: there is one, and the five hyphens after it are the first five in a row. -/
structure IsLabel (label : List Char) : Prop where
  ne_nil : label ≠ []
  first : ∀ p q, Utf8.encode label ++ hyphens = p ++ (hyphens ++ q) → q = []

/-- A text without hyphens is one. -/
lemma isLabel_of_not_mem {label : List Char} (hne : label ≠ []) (h : '-' ∉ label) :
    IsLabel label := by
  have hno : 0x2D ∉ Utf8.encode label := by
    intro hmem
    obtain ⟨x, hx, hb⟩ := List.mem_flatMap.mp hmem
    rcases Utf8.of_mem_encodeChar hb with heq | hlarge
    · have hhyphen : x = '-' := Char.toNat_inj.mp heq.symm
      exact h (hhyphen ▸ hx)
    · exact absurd hlarge (by decide)
  refine ⟨hne, fun p q heq => ?_⟩
  rcases List.append_eq_append_iff.mp heq with ⟨a, -, ha⟩ | ⟨a, ha, hrest⟩
  · have hlength := congrArg List.length ha
    simp only [List.length_append] at hlength
    exact List.length_eq_zero_iff.mp (by omega)
  · cases a with
    | nil => simpa using hrest
    | cons b a =>
        obtain rfl : 0x2D = b := (List.cons.inj hrest).1
        exact absurd (ha ▸ List.mem_append_right _ List.mem_cons_self) hno

/-- Hyphens are matched although some precede them, if these and what follows do not make five
before the end. -/
lemma afterMarker_hyphens {k : ℕ} (hk : k < 5) (s rest : List UInt8)
    (h : ∀ p q, List.replicate k 0x2D ++ (s ++ hyphens) = p ++ (hyphens ++ q) → q = []) :
    afterMarker hyphens (List.replicate (5 - k) 0x2D) (s ++ (hyphens ++ rest)) = some rest := by
  have hswap : ∀ t : List UInt8, List.replicate k 0x2D ++ 0x2D :: t
      = List.replicate (k + 1) 0x2D ++ t := fun t => by
    rw [List.replicate_succ', List.append_assoc, List.singleton_append]
  -- `k` counts the hyphens that were matched before `s`
  induction s generalizing k with
  | nil =>
      obtain rfl : k = 0 := by
        by_contra hpos
        have hnil := h [] (List.replicate k 0x2D) (by
          simp only [hyphens, List.nil_append, ← List.replicate_add, Nat.add_comm])
        exact hpos (by simpa using hnil)
      exact afterMarker_left hyphens hyphens rest
  | cons b s ih =>
      obtain ⟨j, hj⟩ : ∃ j, 5 - k = j + 1 := ⟨4 - k, by omega⟩
      rw [hj, List.replicate_succ, List.cons_append, afterMarker]
      split_ifs with hb hend
      · -- five in a row before the end
        subst hb
        have hk4 : k + 1 = 5 := by
          have hzero : j = 0 := by simpa using hend
          omega
        have hnil := h [] (s ++ hyphens) (by
          rw [List.cons_append, hswap, hk4]
          rfl)
        simp [hyphens] at hnil
      · -- one more in a row
        subst hb
        have hk' : k + 1 < 5 := by
          have hpos : j ≠ 0 := by simpa using hend
          omega
        have hj' : j = 5 - (k + 1) := by omega
        rw [hj']
        refine ih hk' (fun p q hpq => h p q ?_) fun t => ?_
        · rw [List.cons_append, hswap, hpq]
        · rw [List.replicate_succ' (n := k + 1), List.append_assoc, List.singleton_append]
      · -- another octet: the count begins anew
        exact ih (k := 0) (by decide)
          (fun p q hpq => h (List.replicate k 0x2D ++ b :: p) q (by
            rw [List.replicate_zero, List.nil_append] at hpq
            simp [hpq])) fun t => rfl

/-- **The hyphens after a label are found.** -/
lemma IsLabel.find_hyphens {label : List Char} (h : IsLabel label) (rest : List UInt8) :
    find hyphens (Utf8.encode label ++ (hyphens ++ rest)) = some (Utf8.encode label, rest) := by
  have hafter : afterMarker hyphens hyphens (Utf8.encode label ++ (hyphens ++ rest)) = some rest :=
    afterMarker_hyphens (k := 0) (by decide) _ rest h.first
  have hlength : (Utf8.encode label ++ (hyphens ++ rest)).length - rest.length - hyphens.length
      = (Utf8.encode label).length := by
    simp only [List.length_append]
    omega
  rw [find, hafter, Option.map_some, hlength, List.take_left]

/-! ### Blocks with a label -/

namespace Frame

variable {f f' : Frame} {label label' : List Char}

/-- A block with this label, which is not empty, at both ends. -/
structure Labelled (f : Frame) (label : List Char) : Prop where
  ne_nil : label ≠ []
  first : f.first = Utf8.encode label
  last : f.last = Utf8.encode label

/-- What a block with a label holds is decided by what lies between the labels. -/
lemma Labelled.contents_eq (h : f.Labelled label) : f.contents = (do
    let (headers, data) := splitBody f.body
    let octets ← decodeData (← text data)
    checkHeaders (← text headers)
    return octets) := by
  have htext : text (Utf8.encode label) = .ok label := by
    rw [text, Utf8.decode_encode]
    rfl
  rw [contents, h.first, h.last, htext]
  have hne : label.isEmpty = false := List.isEmpty_eq_false_iff.mpr h.ne_nil
  simp only [bind, Except.bind, hne]
  simp

/-- **The label does not matter.** -/
lemma contents_congr (h : f.Labelled label) (h' : f'.Labelled label') (hbody : f.body = f'.body) :
    f.contents = f'.contents := by
  rw [h.contents_eq, h'.contents_eq, hbody]

/-- The text of a part is that of its octets. -/
lemma eq_encode_of_text {octets : List UInt8} {cs : List Char} (h : text octets = .ok cs) :
    octets = Utf8.encode cs := by
  rw [text] at h
  cases hd : Utf8.decode octets with
  | error e => simp [hd, Except.mapError] at h
  | ok cs' =>
      obtain rfl : cs' = cs := by simpa [hd, Except.mapError] using h
      exact Utf8.eq_encode_of_decode hd

/-- A block whose octets can be read has a label. -/
lemma exists_labelled {octets : List UInt8} (h : f.contents = .ok octets) :
    ∃ label, f.Labelled label := by
  rw [contents] at h
  cases hfirst : text f.first with
  | error e => simp [hfirst, bind, Except.bind] at h
  | ok first =>
      simp only [hfirst, bind, Except.bind] at h
      split_ifs at h with hempty
      cases hlast : text f.last with
      | error e => simp [hlast] at h
      | ok last =>
          simp only [hlast] at h
          split_ifs at h with hempty' hdiffer
          obtain rfl := not_ne_iff.mp hdiffer
          exact ⟨first, by simpa using hempty, eq_encode_of_text hfirst, eq_encode_of_text hlast⟩

end Frame

/-! ### Armour -/

/-- The ends of lines. -/
inductive IsLineEnd : List UInt8 → Prop where
  | newline : IsLineEnd [0x0A]
  | returned : IsLineEnd [0x0D, 0x0A]

/-- **Octets that are armoured as one block**: a line that begins it, lines of base64, however long
they are, and a line that ends it, with the same label in both. Text may precede it, if there is no
hyphen in it, and follow it. -/
inductive Armoured (octets : List UInt8) : List UInt8 → Prop where
  | block {before after eol : List UInt8} {label : List Char} {ls : List (List UInt8)}
      (hbefore : 0x2D ∉ before) (hlabel : IsLabel label) (heol : IsLineEnd eol)
      (hls : ∀ l ∈ ls, l ≠ []) (hdata : ls.flatten = Base64.fill .standard octets) :
      Armoured octets (before ++ (beginMarker ++ (Utf8.encode label ++ (hyphens ++ (eol
        ++ (ls.flatMap (· ++ eol) ++ (endMarker ++ (Utf8.encode label ++ (hyphens ++ after)))))))))

variable {octets eol data : List UInt8} {ls : List (List UInt8)} {b : UInt8}

lemma IsLineEnd.isSpace (h : IsLineEnd eol) : ∀ b ∈ eol, isSpace b = true := by
  cases h <;> simp [Pem.isSpace]

/-- White space is written in ASCII, and left out of the data. -/
lemma isSpace_spec (h : isSpace b = true) :
    b.toNat < 0x80 ∧ b ≠ 0x2D ∧ isBlank (Char.ofNat b.toNat) = true := by
  simp only [isSpace, Bool.or_eq_true, decide_eq_true_eq] at h
  rcases h with ((rfl | rfl) | rfl) | rfl <;> decide

/-- A symbol of base64, or the sign of padding: a character of ASCII, but no hyphen and no white
space. -/
structure IsVisible (b : UInt8) : Prop where
  ascii : b.toNat < 0x80
  ne_hyphen : b ≠ 0x2D
  not_isBlank : isBlank (Char.ofNat b.toNat) = false

lemma IsVisible.not_isSpace (h : IsVisible b) : isSpace b = false := by
  rw [← Bool.not_eq_true]
  intro hspace
  exact Bool.false_ne_true (h.not_isBlank.symm.trans (isSpace_spec hspace).2.2)

/-- The octets of data in base64 are visible. -/
lemma isVisible_of_mem_fill (h : b ∈ Base64.fill .standard octets) : IsVisible b := by
  rcases Base64.isSymbol_of_mem_fill h with ⟨n, rfl⟩ | rfl
  · have hall : ∀ n : Fin 64, (Base64.Alphabet.standard.symbol n).toNat < 0x80
        ∧ Base64.Alphabet.standard.symbol n ≠ 0x2D
        ∧ isBlank (Char.ofNat (Base64.Alphabet.standard.symbol n).toNat) = false := by decide
    by_cases hn : n < 64
    · obtain ⟨hascii, hne, hblank⟩ := hall ⟨n, hn⟩
      exact ⟨hascii, hne, hblank⟩
    · have hlast : Base64.Alphabet.standard.symbol n = Base64.Alphabet.standard.symbol 63 := by
        simp [Base64.Alphabet.symbol, show ¬ n < 26 by omega, show ¬ n < 52 by omega,
          show ¬ n < 62 by omega, show n ≠ 62 by omega]
      obtain ⟨hascii, hne, hblank⟩ := hall 63
      rw [hlast]
      exact ⟨hascii, hne, hblank⟩
  · exact ⟨by decide, by decide, by decide⟩

/-! ### The lines of a block -/

/-- Lines and their ends are written in ASCII without hyphens. -/
lemma mem_lines (heol : IsLineEnd eol) (hls : ∀ b ∈ ls.flatten, IsVisible b)
    (h : b ∈ ls.flatMap (· ++ eol)) : b.toNat < 0x80 ∧ b ≠ 0x2D := by
  obtain ⟨l, hl, hb⟩ := List.mem_flatMap.mp h
  rcases List.mem_append.mp hb with hb | hb
  · have hvisible := hls b (List.mem_flatten.mpr ⟨l, hl, hb⟩)
    exact ⟨hvisible.ascii, hvisible.ne_hyphen⟩
  · obtain ⟨hascii, hne, -⟩ := isSpace_spec (heol.isSpace b hb)
    exact ⟨hascii, hne⟩

/-- Without the blanks the lines are what they hold. -/
lemma filter_lines (heol : IsLineEnd eol) (hls : ∀ b ∈ ls.flatten, IsVisible b) :
    (ls.flatMap (· ++ eol)).filter (fun b => !isBlank (Char.ofNat b.toNat)) = ls.flatten := by
  induction ls with
  | nil => rfl
  | cons l ls ih =>
      rw [List.flatten_cons] at hls ⊢
      have hl : l.filter (fun b => !isBlank (Char.ofNat b.toNat)) = l :=
        List.filter_eq_self.mpr fun b hb => by
          simp [(hls b (List.mem_append_left _ hb)).not_isBlank]
      have heol' : eol.filter (fun b => !isBlank (Char.ofNat b.toNat)) = [] :=
        List.filter_eq_nil_iff.mpr fun b hb => by simp [(isSpace_spec (heol.isSpace b hb)).2.2]
      rw [List.flatMap_cons, List.filter_append, List.filter_append, hl, heol', List.append_nil,
        ih fun b hb => hls b (List.mem_append_right _ hb)]

/-- What may follow an octet so that no line is empty: no line end after a newline. -/
def Continues (a b : UInt8) : Prop := a = 0x0A → isSpace b = false

/-- Lines begin with no white space. -/
lemma head_lines (hne : ∀ l ∈ ls, l ≠ []) (hls : ∀ b ∈ ls.flatten, IsVisible b)
    (h : b ∈ (ls.flatMap (· ++ eol)).head?) : isSpace b = false := by
  cases ls with
  | nil => cases h
  | cons l ls =>
      obtain ⟨a, l, rfl⟩ := List.exists_cons_of_ne_nil (hne l List.mem_cons_self)
      obtain rfl : a = b := by simpa using h
      exact (hls a (by simp)).not_isSpace

/-- **No line end is followed by white space**, as no line is empty. -/
lemma isChain_lines (heol : IsLineEnd eol) (hne : ∀ l ∈ ls, l ≠ [])
    (hls : ∀ b ∈ ls.flatten, IsVisible b) : (ls.flatMap (· ++ eol)).IsChain Continues := by
  induction ls with
  | nil => exact .nil
  | cons l ls ih =>
      have hne' : ∀ l ∈ ls, l ≠ [] := fun l hl => hne l (List.mem_cons_of_mem _ hl)
      have hls' : ∀ b ∈ ls.flatten, IsVisible b := fun b hb => hls b (List.mem_append_right _ hb)
      have hends : (eol ++ ls.flatMap (· ++ eol)).IsChain Continues := by
        have hnext : (0x0A :: ls.flatMap (· ++ eol)).IsChain Continues :=
          List.isChain_cons.mpr ⟨fun b hb _ => head_lines hne' hls' hb, ih hne' hls'⟩
        cases heol with
        | newline => exact hnext
        | returned => exact List.isChain_cons.mpr ⟨fun _ _ h => absurd h (by decide), hnext⟩
      have hline : ∀ m : List UInt8, (∀ b ∈ m, b ≠ 0x0A) →
          (m ++ (eol ++ ls.flatMap (· ++ eol))).IsChain Continues := by
        intro m hm
        induction m with
        | nil => exact hends
        | cons b m ihm =>
            exact List.isChain_cons.mpr ⟨fun _ _ h => absurd h (hm b List.mem_cons_self),
              ihm fun b hb => hm b (List.mem_cons_of_mem _ hb)⟩
      rw [List.flatMap_cons, List.append_assoc]
      refine hline l fun b hb heq => ?_
      have hspace := (hls b (List.mem_append_left _ hb)).not_isSpace
      rw [heq] at hspace
      exact absurd hspace (by decide)

/-- In lines of data there are no headers, since no line of them is empty. -/
lemma splitBody_lines (heol : IsLineEnd eol) (hne : ∀ l ∈ ls, l ≠ [])
    (hls : ∀ b ∈ ls.flatten, IsVisible b) :
    splitBody (ls.flatMap (· ++ eol)) = ([], ls.flatMap (· ++ eol)) := by
  have hchain := isChain_lines heol hne hls
  have hno : ∀ (p rest : List UInt8) (b : UInt8), isSpace b = true →
      ls.flatMap (· ++ eol) ≠ p ++ (0x0A :: b :: rest) := by
    intro p rest b hb heq
    rw [heq, List.isChain_append] at hchain
    have hstep := (List.isChain_cons_cons.mp hchain.2.1).1 rfl
    exact Bool.false_ne_true (hstep.symm.trans hb)
  have hfirst : find [0x0A, 0x0A] (ls.flatMap (· ++ eol)) = none := by
    refine Option.eq_none_iff_forall_ne_some.mpr fun ⟨_, rest⟩ hfind => ?_
    obtain ⟨p, hp⟩ := eq_append_of_find hfind
    exact hno p rest 0x0A rfl hp
  have hsecond : find [0x0D, 0x0A, 0x0D, 0x0A] (ls.flatMap (· ++ eol)) = none := by
    refine Option.eq_none_iff_forall_ne_some.mpr fun ⟨_, rest⟩ hfind => ?_
    obtain ⟨p, hp⟩ := eq_append_of_find hfind
    exact hno (p ++ [0x0D]) (0x0A :: rest) 0x0D rfl (by simpa using hp)
  rw [splitBody, hfirst, hsecond]
  rfl

/-- Octets of ASCII are those of their characters. -/
lemma encode_ascii (h : ∀ b ∈ data, b.toNat < 0x80) :
    Utf8.encode (data.map fun b => Char.ofNat b.toNat) = data := by
  rw [Utf8.encode, List.flatMap_map]
  calc data.flatMap (fun b => Utf8.encodeChar (Char.ofNat b.toNat))
      = data.flatMap (fun b => [b]) :=
        List.flatMap_congr fun b hb => Utf8.encodeChar_ascii (h b hb)
    _ = data := List.flatMap_singleton' data

lemma text_ascii (data : List UInt8) (h : ∀ b ∈ data, b.toNat < 0x80) :
    text data = .ok (data.map fun b => Char.ofNat b.toNat) := by
  rw [text, ← encode_ascii h, Utf8.decode_encode, encode_ascii h]
  rfl

/-- **The lines of data hold the octets** that they were written for. -/
lemma contents_lines (heol : IsLineEnd eol) (hne : ∀ l ∈ ls, l ≠ [])
    (hdata : ls.flatten = Base64.fill .standard octets) :
    (do let (headers, data) := splitBody (ls.flatMap (· ++ eol))
        let octets ← decodeData (← text data)
        checkHeaders (← text headers)
        return octets) = .ok octets := by
  have hls : ∀ b ∈ ls.flatten, IsVisible b := fun b hb => isVisible_of_mem_fill (hdata ▸ hb)
  have htext := text_ascii (ls.flatMap (· ++ eol)) fun b hb => (mem_lines heol hls hb).1
  have hheaders : text [] = .ok [] := text_ascii [] (by simp)
  have hencode : Utf8.encode (ls.flatten.map fun b => Char.ofNat b.toNat) = ls.flatten :=
    encode_ascii fun b hb => (hls b hb).ascii
  have hread : decodeData ((ls.flatMap (· ++ eol)).map fun b => Char.ofNat b.toNat)
      = .ok octets := by
    rw [decodeData, List.filter_map, Function.comp_def, filter_lines heol hls, hencode, hdata]
    rw [show Base64.Style.padded64 = Base64.Alphabet.standard.filled from rfl, Base64.decode_fill]
    rfl
  rw [splitBody_lines heol hne hls]
  simp only [htext, hheaders, hread, bind, Except.bind]
  rfl

/-- **The parts of the block are found.** -/
lemma frame?_block {before after : List UInt8} {label : List Char} (hbefore : 0x2D ∉ before)
    (hlabel : IsLabel label) (heol : IsLineEnd eol) (hls : ∀ b ∈ ls.flatten, IsVisible b)
    (hne : ∀ l ∈ ls, l ≠ []) :
    frame? (before ++ (beginMarker ++ (Utf8.encode label ++ (hyphens ++ (eol
      ++ (ls.flatMap (· ++ eol) ++ (endMarker ++ (Utf8.encode label ++ (hyphens ++ after)))))))))
      = some ⟨Utf8.encode label, ls.flatMap (· ++ eol), Utf8.encode label⟩ := by
  have hdata : 0x2D ∉ ls.flatMap (· ++ eol) := fun hmem => (mem_lines heol hls hmem).2 rfl
  have hskip : ∀ t : List UInt8,
      (eol ++ (ls.flatMap (· ++ eol) ++ (endMarker ++ t))).dropWhile isSpace
        = ls.flatMap (· ++ eol) ++ (endMarker ++ t) := by
    intro t
    rw [List.dropWhile_append_of_pos heol.isSpace]
    cases hhead : ls.flatMap (· ++ eol) with
    | nil => rfl
    | cons b r =>
        have hb : b ∈ (ls.flatMap (· ++ eol)).head? := by simp [hhead]
        rw [List.cons_append, List.dropWhile_cons_of_neg (by simp [head_lines hne hls hb])]
  have hbegin := find_append hbefore beginMarker.tail
  have hend := find_append hdata endMarker.tail
  rw [show 0x2D :: beginMarker.tail = beginMarker from rfl] at hbegin
  rw [show 0x2D :: endMarker.tail = endMarker from rfl] at hend
  rw [frame?]
  simp only [hbegin, hlabel.find_hyphens, hskip, hend, Option.bind_eq_bind, Option.bind_some]
  rfl

/-- **What is armoured is held by the block.** -/
theorem Armoured.contents_eq {s : List UInt8} (h : Armoured octets s) :
    contents s = .ok octets := by
  cases h with
  | @block before after eol label ls hbefore hlabel heol hne hdata =>
      have hls : ∀ b ∈ ls.flatten, IsVisible b := fun b hb => isVisible_of_mem_fill (hdata ▸ hb)
      have hlabelled : Frame.Labelled
          ⟨Utf8.encode label, ls.flatMap (· ++ eol), Utf8.encode label⟩ label :=
        ⟨hlabel.ne_nil, rfl, rfl⟩
      rw [contents, frame?_block hbefore hlabel heol hls hne]
      exact hlabelled.contents_eq.trans (contents_lines heol hne hdata)

end Keyring.Pem
