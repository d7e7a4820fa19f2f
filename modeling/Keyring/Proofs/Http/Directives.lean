import Mathlib.Tactic
import Keyring.Proofs.Decimal.Natural
import Keyring.Proofs.Http.MaxAge
import Keyring.Proofs.Text.Utf8

/-!
Which headers say how long an answer may be kept, by the shape of what is written in them.

* `FirstValue`: the first value of `Cache-Control`.
* `Strips`: a piece of text without the blanks and tabs around it; `trimBlank_eq_iff`.
* `Settles`: what follows the mark in the first piece, cut at commas, that has it.
* `decides_iff_settles`, `undecided_iff`: that piece is the directive that decides, and there is
  none exactly if there is no value, or it is not made of visible characters, or no piece has the
  mark.
* `Tells`: a number of seconds, or what is wrong.
* `maxAge_tells`: this is what is read, and nothing else in the headers matters.
-/

namespace Keyring

/-! ### Blanks around a piece -/

/-- A blank or a tab. -/
def IsPad (c : Char) : Prop := c = ' ' ∨ c = '\t'

/-- **A piece without the blanks and tabs at its ends.** -/
def Strips (piece d : List Char) : Prop :=
  ∃ l r, piece = l ++ (d ++ r) ∧ (∀ c ∈ l, IsPad c) ∧ (∀ c ∈ r, IsPad c)
    ∧ (∀ c ∈ d.head?, ¬ IsPad c) ∧ ∀ c ∈ d.getLast?, ¬ IsPad c

section Strips

variable {piece d : List Char}

/-- A text of visible characters and tabs has no other white space. -/
def IsVisibleText (cs : List Char) : Prop := ∀ c ∈ cs, c = '\t' ∨ 0x20 ≤ c.toNat ∧ c.toNat ≤ 0x7E

lemma isBlank_iff_isPad (h : IsVisibleText piece) {c : Char} (hc : c ∈ piece) :
    isBlank c = true ↔ IsPad c := by
  constructor
  · intro hb
    rcases h c hc with rfl | hrange
    · exact .inr rfl
    · refine .inl (Char.toNat_inj.mp ?_)
      simp only [isBlank, Bool.or_eq_true, Bool.and_eq_true, decide_eq_true_eq] at hb
      show c.toNat = 0x20
      omega
  · rintro (rfl | rfl) <;> decide

/-- What is left after blanks have been dropped does not begin with one. -/
lemma not_isBlank_of_head {cs : List Char} {c : Char} (hc : c ∈ (cs.dropWhile isBlank).head?) :
    isBlank c = false := by
  have hhead := List.head?_dropWhile_not isBlank cs
  rw [Option.mem_def] at hc
  rw [hc] at hhead
  simpa using hhead

/-- Nothing but blanks is dropped. -/
lemma exists_blanks (cs : List Char) :
    ∃ l, cs = l ++ cs.dropWhile isBlank ∧ ∀ c ∈ l, isBlank c = true :=
  ⟨cs.takeWhile isBlank, List.takeWhile_append_dropWhile.symm, fun _ hc =>
    List.mem_takeWhile_imp hc⟩

lemma strips_trimBlank (h : IsVisibleText piece) : Strips piece (trimBlank piece) := by
  obtain ⟨l, hl, hlblank⟩ := exists_blanks piece
  obtain ⟨r, hr, hrblank⟩ := exists_blanks (piece.dropWhile isBlank).reverse
  have hsplit : piece.dropWhile isBlank = trimBlank piece ++ r.reverse := by
    rw [trimBlank, ← List.reverse_append, ← hr, List.reverse_reverse]
  have hpiece : piece = l ++ (trimBlank piece ++ r.reverse) := by rw [← hsplit, ← hl]
  have hmem : ∀ c ∈ trimBlank piece, c ∈ piece := fun c hc => by
    rw [hpiece]
    simp [hc]
  refine ⟨l, r.reverse, hpiece, fun c hc => ?_, fun c hc => ?_, fun c hc => ?_, fun c hc => ?_⟩
  · exact (isBlank_iff_isPad h (hl ▸ List.mem_append_left _ hc)).mp (hlblank c hc)
  · refine (isBlank_iff_isPad h ?_).mp (hrblank c (List.mem_reverse.mp hc))
    rw [hpiece]
    simp [List.mem_reverse.mp hc]
  · rw [← isBlank_iff_isPad h (hmem c (List.mem_of_mem_head? hc))]
    -- the first character of what is left is that of the piece without its first blanks
    have hhead : c ∈ (piece.dropWhile isBlank).head? := by
      rw [hsplit, List.head?_append]
      simp [Option.mem_def.mp hc]
    simp [not_isBlank_of_head hhead]
  · rw [← isBlank_iff_isPad h (hmem c (List.mem_of_mem_getLast? hc))]
    rw [trimBlank, List.getLast?_reverse] at hc
    simp [not_isBlank_of_head hc]

lemma Strips.trimBlank_eq (h : IsVisibleText piece) (hd : Strips piece d) :
    trimBlank piece = d := by
  obtain ⟨l, r, rfl, hl, hr, hhead, hlast⟩ := hd
  have hblank : ∀ {c}, c ∈ l ++ (d ++ r) → IsPad c → isBlank c = true := fun hc =>
    (isBlank_iff_isPad h hc).mpr
  have hno : ∀ {c}, c ∈ l ++ (d ++ r) → ¬ IsPad c → isBlank c = false := fun hc hp => by
    simpa using mt (isBlank_iff_isPad h hc).mp hp
  have hl' : ∀ c ∈ l, isBlank c = true := fun c hc => hblank (by simp [hc]) (hl c hc)
  have hr' : ∀ c ∈ r.reverse, isBlank c = true := fun c hc =>
    hblank (by simp [List.mem_reverse.mp hc]) (hr c (List.mem_reverse.mp hc))
  rw [trimBlank, List.dropWhile_append_of_pos hl']
  cases d with
  | nil =>
      have hnone : r.dropWhile isBlank = [] := by
        simpa using fun c hc => hr' c (List.mem_reverse.mpr hc)
      rw [List.nil_append, hnone]
      rfl
  | cons c d =>
      -- neither end of what is kept is blank, so that trimming stops there
      have hc : isBlank c = false := hno (by simp) (hhead c rfl)
      have hend : ∀ x ∈ (c :: d).reverse.head?, isBlank x = false := fun x hx => by
        rw [List.head?_reverse] at hx
        have hmem := List.mem_of_mem_getLast? hx
        exact hno (List.mem_append_right _ (List.mem_append_left _ hmem)) (hlast x hx)
      have hkeep : (c :: d).reverse.dropWhile isBlank = (c :: d).reverse := by
        cases hrev : (c :: d).reverse with
        | nil => rfl
        | cons x xs =>
            rw [hrev] at hend
            exact List.dropWhile_cons_of_neg (by simp [hend x rfl])
      rw [List.cons_append, List.dropWhile_cons_of_neg (by simp [hc]), ← List.cons_append,
        List.reverse_append, List.dropWhile_append_of_pos hr', hkeep, List.reverse_reverse]

/-- **Trimming a text of visible characters strips it.** -/
lemma trimBlank_eq_iff (h : IsVisibleText piece) : trimBlank piece = d ↔ Strips piece d :=
  ⟨fun heq => heq ▸ strips_trimBlank h, Strips.trimBlank_eq h⟩

end Strips

namespace Http.Headers

variable {headers headers' : Headers} {value more : List UInt8} {d rest piece : List Char}

/-! ### The first value -/

/-- **The first value of `Cache-Control`**, whatever the case of the name. -/
def FirstValue (headers : Headers) (value : List UInt8) : Prop :=
  ∃ before h after, headers = before ++ h :: after ∧ lower h.name = "cache-control".toList
    ∧ h.value = value ∧ ∀ b ∈ before, lower b.name ≠ "cache-control".toList

/-- The first header of a name. -/
lemma find?_name_eq_some_iff {name : List Char} {h : Header} :
    (headers.find? fun h => lower h.name = name) = some h ↔ ∃ before after,
      headers = before ++ h :: after ∧ lower h.name = name ∧ ∀ b ∈ before, lower b.name ≠ name := by
  rw [List.find?_eq_some_iff_append]
  simp only [decide_eq_true_eq, Bool.not_eq_true', decide_eq_false_iff_not]
  constructor
  · exact fun ⟨hname, before, after, hall, hbefore⟩ => ⟨before, after, hall, hname, hbefore⟩
  · exact fun ⟨before, after, hall, hname, hbefore⟩ => ⟨hname, before, after, hall, hbefore⟩

lemma get?_eq_some_iff : headers.get? "cache-control" = some value ↔ headers.FirstValue value := by
  have hlower : lower "cache-control" = "cache-control".toList := by decide
  rw [get?, hlower, Option.map_eq_some_iff]
  constructor
  · rintro ⟨h, hfind, hvalue⟩
    obtain ⟨before, after, hall, hname, hbefore⟩ := find?_name_eq_some_iff.mp hfind
    exact ⟨before, h, after, hall, hname, hvalue, hbefore⟩
  · rintro ⟨before, h, after, hall, hname, hvalue, hbefore⟩
    exact ⟨h, find?_name_eq_some_iff.mpr ⟨before, after, hall, hname, hbefore⟩, hvalue⟩

lemma FirstValue.eq {value' : List UInt8} (h : headers.FirstValue value)
    (h' : headers.FirstValue value') : value = value' :=
  Option.some.inj ((get?_eq_some_iff.mpr h).symm.trans (get?_eq_some_iff.mpr h'))

/-- A value of visible ASCII characters and tabs. -/
def IsLegible (value : List UInt8) : Prop := ∀ b ∈ value, b = 0x09 ∨ 0x20 ≤ b ∧ b ≤ 0x7E

/-- The characters of a value. -/
def chars (value : List UInt8) : List Char := value.map fun b => Char.ofNat b.toNat

lemma visibleText?_eq_some_iff {cs : List Char} :
    visibleText? value = some cs ↔ IsLegible value ∧ cs = chars value := by
  have hall : value.all isVisible = true ↔ IsLegible value := by
    simp [List.all_eq_true, isVisible, IsLegible]
  rw [visibleText?, ← hall]
  split_ifs with h
  · simp [h, chars, eq_comm]
  · simp [h]

lemma cacheControl?_eq_some_iff {cs : List Char} : headers.cacheControl? = some cs
    ↔ ∃ value, headers.FirstValue value ∧ IsLegible value ∧ cs = chars value := by
  simp only [cacheControl?, Option.bind_eq_some_iff, get?_eq_some_iff, visibleText?_eq_some_iff]

/-! ### The piece that settles it -/

/-- A character of a piece is a character of the whole text. -/
lemma mem_of_mem_splitOn {a c : Char} {l : List Char} (hp : piece ∈ l.splitOn a) (hc : c ∈ piece) :
    c ∈ l := by
  induction l generalizing piece with
  | nil => simp_all [List.splitOn_nil]
  | cons b l ih =>
      obtain ⟨first, others, hl⟩ := List.exists_cons_of_ne_nil (List.splitOn_ne_nil a l)
      rw [hl] at ih
      rw [List.splitOn_cons_eq_if_modifyHead, hl] at hp
      by_cases hb : b = a
      · rw [if_pos (by simp [hb])] at hp
        rcases List.mem_cons.mp hp with rfl | hp
        · cases hc
        · exact List.mem_cons_of_mem _ (ih hp hc)
      · rw [if_neg (by simp [hb])] at hp
        rcases List.mem_cons.mp hp with rfl | hp
        · rcases List.mem_cons.mp hc with rfl | hc
          · exact List.mem_cons_self
          · exact List.mem_cons_of_mem _ (ih List.mem_cons_self hc)
        · exact List.mem_cons_of_mem _ (ih (List.mem_cons_of_mem _ hp) hc)

/-- The pieces of a legible value are visible. -/
lemma isVisibleText_of_mem (h : IsLegible value) (hp : piece ∈ (chars value).splitOn ',') :
    IsVisibleText piece := by
  intro c hc
  obtain ⟨b, hb, rfl⟩ := List.mem_map.mp (mem_of_mem_splitOn hp hc)
  rcases h b hb with rfl | hrange
  · exact .inl rfl
  · rw [UInt8.le_iff_toNat_le, UInt8.le_iff_toNat_le] at hrange
    have hlow : b.toNat ≤ 0x7E := hrange.2
    rw [Utf8.toNat_char (by omega)]
    exact .inr hrange

/-- **What follows the mark in the piece that settles it**: the first one, of the pieces between the
commas of a legible value, that has the mark when it is stripped. -/
structure Settles (value : List UInt8) (rest : List Char) : Prop where
  legible : IsLegible value
  piece : ∃ before piece after, (chars value).splitOn ',' = before ++ piece :: after
    ∧ Strips piece (maxAgeMark ++ rest) ∧ ∀ b ∈ before, ∀ r, ¬ Strips b (maxAgeMark ++ r)

/-- No piece between the commas has the mark when it is stripped. -/
def Unmarked (value : List UInt8) : Prop :=
  ∀ piece ∈ (chars value).splitOn ',', ∀ rest, ¬ Strips piece (maxAgeMark ++ rest)

/-- A piece has the mark when it is stripped exactly if its directive has. -/
lemma isPrefix_trimBlank_iff (h : IsVisibleText piece) :
    maxAgeMark <+: trimBlank piece ↔ ∃ rest, Strips piece (maxAgeMark ++ rest) := by
  simp only [← trimBlank_eq_iff h]
  exact ⟨fun ⟨rest, hrest⟩ => ⟨rest, hrest.symm⟩, fun ⟨rest, hrest⟩ => ⟨rest, hrest.symm⟩⟩

/-- There are no directives without a legible value. -/
lemma undecided_of_cacheControl? (h : headers.cacheControl? = none) : headers.Undecided := by
  intro d hd
  have hnil : d = [] := by simpa [h, directives, trimBlank] using hd
  rw [hnil]
  decide

/-- **The directive that decides is that of the piece that settles it.** -/
lemma decides_iff_settles : headers.Decides d
    ↔ ∃ value rest, headers.FirstValue value ∧ Settles value rest ∧ d = maxAgeMark ++ rest := by
  cases hc : headers.cacheControl? with
  | none =>
      constructor
      · rintro ⟨before, after, hall, hmark, -⟩
        exact absurd hmark (undecided_of_cacheControl? hc d (by simp [hall]))
      · rintro ⟨value, rest, hvalue, hsettles, -⟩
        have hsome := cacheControl?_eq_some_iff.mpr ⟨value, hvalue, hsettles.legible, rfl⟩
        rw [hc] at hsome
        cases hsome
  | some cs =>
      obtain ⟨value, hvalue, hlegible, rfl⟩ := cacheControl?_eq_some_iff.mp hc
      have hvisible : ∀ piece ∈ (chars value).splitOn ',', IsVisibleText piece := fun piece hp =>
        isVisibleText_of_mem hlegible hp
      rw [Decides, hc, Option.getD_some, directives]
      constructor
      -- directives are trimmed pieces, so that their places are those of the pieces
      · rintro ⟨before, after, hall, ⟨rest, rfl⟩, hbefore⟩
        obtain ⟨before, others, hpieces, rfl, hothers⟩ := List.map_eq_append_iff.mp hall
        obtain ⟨piece, after, rfl, htrim, rfl⟩ := List.map_eq_cons_iff.mp hothers
        rw [hpieces] at hvisible
        refine ⟨value, rest, hvalue, ⟨hlegible, before, piece, after, hpieces, ?_, ?_⟩, rfl⟩
        · exact (trimBlank_eq_iff (hvisible piece (by simp))).mp htrim
        · intro b hb r hstrips
          refine hbefore _ (List.mem_map_of_mem hb) ?_
          exact (isPrefix_trimBlank_iff (hvisible b (by simp [hb]))).mpr ⟨r, hstrips⟩
      · rintro ⟨value', rest, hvalue', ⟨-, before, piece, after, hpieces, hstrips, hbefore⟩, rfl⟩
        obtain rfl := hvalue.eq hvalue'
        rw [hpieces] at hvisible ⊢
        have htrim := (trimBlank_eq_iff (hvisible piece (by simp))).mpr hstrips
        refine ⟨before.map trimBlank, after.map trimBlank, by simp [htrim], ⟨rest, rfl⟩, ?_⟩
        intro d hd hmark
        obtain ⟨b, hb, rfl⟩ := List.mem_map.mp hd
        obtain ⟨r, hr⟩ := (isPrefix_trimBlank_iff (hvisible b (by simp [hb]))).mp hmark
        exact hbefore b hb r hr

/-- No directive decides exactly if no piece settles it. -/
lemma undecided_iff :
    headers.Undecided ↔ ∀ value rest, headers.FirstValue value → ¬ Settles value rest := by
  rw [← find?_eq_none_iff, Option.eq_none_iff_forall_ne_some]
  simp only [ne_eq, find?_eq_some_iff, decides_iff_settles]
  constructor
  · exact fun h value rest hvalue hsettles => h _ ⟨value, rest, hvalue, hsettles, rfl⟩
  · rintro h d ⟨value, rest, hvalue, hsettles, -⟩
    exact h value rest hvalue hsettles

/-- Of a legible value with a marked piece, a first one settles it. -/
lemma exists_settles (hl : IsLegible value) (h : ¬ Unmarked value) :
    ∃ rest, Settles value rest := by
  classical
  have hsome : ((chars value).splitOn ',').find?
      (fun piece => decide (∃ rest, Strips piece (maxAgeMark ++ rest))) ≠ none := by
    simpa [List.find?_eq_none, Unmarked] using h
  obtain ⟨piece, hpiece⟩ := Option.ne_none_iff_exists'.mp hsome
  obtain ⟨hmark, before, after, hpieces, hbefore⟩ := List.find?_eq_some_iff_append.mp hpiece
  obtain ⟨rest, hrest⟩ := of_decide_eq_true hmark
  exact ⟨rest, hl, before, piece, after, hpieces, hrest, by simpa using hbefore⟩

/-- Another piece after a comma settles nothing any more. -/
lemma Settles.append (h : Settles value rest) (hmore : IsLegible more) :
    Settles (value ++ 0x2C :: more) rest := by
  obtain ⟨hlegible, before, piece, after, hpieces, hstrips, hbefore⟩ := h
  refine ⟨?_, before, piece, after ++ (chars more).splitOn ',', ?_, hstrips, hbefore⟩
  · intro b hb
    rcases List.mem_append.mp hb with hb | hb
    · exact hlegible b hb
    · rcases List.mem_cons.mp hb with rfl | hb
      · exact .inr (by decide)
      · exact hmore b hb
  · have hchars : chars (value ++ 0x2C :: more) = chars value ++ ',' :: chars more := by
      rw [chars, List.map_append, List.map_cons]
      rfl
    rw [hchars, List.splitOn_append_cons_self, hpieces, List.append_assoc, List.cons_append]

/-! ### What the headers say -/

/-- **What headers say about how long an answer may be kept.** -/
inductive Tells (headers : Headers) : Except Error Duration → Prop where
  /-- There is no value. -/
  | absent (h : ∀ value, ¬ headers.FirstValue value) : Tells headers (.error (.config .noMaxAge))
  /-- The first value is not legible. -/
  | illegible {value : List UInt8} (hv : headers.FirstValue value) (hl : ¬ IsLegible value) :
      Tells headers (.error (.config .noMaxAge))
  /-- No piece of the first value has the mark. -/
  | unmarked {value : List UInt8} (hv : headers.FirstValue value) (hl : IsLegible value)
      (hn : Unmarked value) : Tells headers (.error (.config .noMaxAge))
  /-- The piece that settles it has a number of 64 bits after the mark. -/
  | seconds {value : List UInt8} {rest : List Char} {n : ℕ} (hv : headers.FirstValue value)
      (hs : Settles value rest) (hn : Decimal.Reads rest (.ok n)) :
      Tells headers (.ok (Duration.ofSeconds (UInt64.ofNat n)))
  /-- The piece that settles it has something else after the mark. -/
  | malformed {value : List UInt8} {rest : List Char} {f : Decimal.NaturalFault}
      (hv : headers.FirstValue value) (hs : Settles value rest)
      (hf : Decimal.Reads rest (.error f)) :
      Tells headers (.error (.format (.maxAge (String.ofList (maxAgeMark ++ rest)) f)))

lemma drop_mark (rest : List Char) : (maxAgeMark ++ rest).drop maxAgeMark.length = rest :=
  List.drop_left

/-- **What is read is what the headers say.** -/
lemma Tells.maxAge_eq {r : Except Error Duration} (h : Tells headers r) : headers.maxAge = r := by
  have hnone : (∀ value rest, headers.FirstValue value → ¬ Settles value rest) →
      headers.maxAge = .error (.config .noMaxAge) := fun h =>
    maxAge_eq_error_iff.mpr (.inl ⟨undecided_iff.mpr h, rfl⟩)
  cases h with
  | absent h => exact hnone fun value _ hvalue => absurd hvalue (h value)
  | illegible hv hl =>
      exact hnone fun value rest hvalue hs => hl (hv.eq hvalue ▸ hs.legible)
  | unmarked hv hl hn =>
      refine hnone fun value rest hvalue hs => ?_
      obtain rfl := hv.eq hvalue
      obtain ⟨before, piece, after, hpieces, hstrips, -⟩ := hs.piece
      exact hn piece (by simp [hpieces]) rest hstrips
  | @seconds value rest n hv hs hn =>
      refine maxAge_eq_ok_iff.mpr
        ⟨_, n, decides_iff_settles.mpr ⟨value, rest, hv, hs, rfl⟩, ?_, rfl⟩
      rw [drop_mark]
      exact hn.parse64_eq
  | @malformed value rest f hv hs hf =>
      refine maxAge_eq_error_iff.mpr
        (.inr ⟨_, f, decides_iff_settles.mpr ⟨value, rest, hv, hs, rfl⟩, ?_, rfl⟩)
      rw [drop_mark]
      exact hf.parse64_eq

/-- Headers always say something. -/
lemma exists_tells (headers : Headers) : ∃ r, Tells headers r := by
  by_cases hv : ∃ value, headers.FirstValue value
  · obtain ⟨value, hv⟩ := hv
    by_cases hl : IsLegible value
    · by_cases hn : Unmarked value
      · exact ⟨_, .unmarked hv hl hn⟩
      · obtain ⟨rest, hs⟩ := exists_settles hl hn
        obtain ⟨r, hr⟩ := Decimal.exists_reads rest
        cases r with
        | ok n => exact ⟨_, .seconds hv hs hr⟩
        | error f => exact ⟨_, .malformed hv hs hr⟩
    · exact ⟨_, .illegible hv hl⟩
  · push Not at hv
    exact ⟨_, .absent hv⟩

lemma maxAge_eq_iff {r : Except Error Duration} : headers.maxAge = r ↔ Tells headers r := by
  constructor
  · rintro rfl
    obtain ⟨r, hr⟩ := exists_tells headers
    rwa [hr.maxAge_eq]
  · exact Tells.maxAge_eq

/-- Only the first value matters. -/
lemma maxAge_congr (h : ∀ value, headers.FirstValue value ↔ headers'.FirstValue value) :
    headers'.maxAge = headers.maxAge := by
  have hget : headers'.get? "cache-control" = headers.get? "cache-control" := by
    refine Option.ext fun value => ?_
    rw [get?_eq_some_iff, get?_eq_some_iff, h]
  rw [maxAge, maxAge, cacheControl?, cacheControl?, hget]

/-- **How long an answer may be kept is what its headers say**, for all headers. If the first value
of `Cache-Control` is missing, or not made of visible characters and tabs, or if none of its pieces
begins with the mark, that is the error; otherwise the first such piece decides, by a number of 64
bits or by something that is none. The other headers and later values do not matter, and neither
does what follows the piece that decides. -/
theorem maxAge_tells :
    (∀ (headers : Headers) (r : Except Error Duration), headers.maxAge = r ↔ Tells headers r)
      ∧ (∀ headers headers' : Headers,
        (∀ value, headers.FirstValue value ↔ headers'.FirstValue value) →
        headers'.maxAge = headers.maxAge)
      ∧ ∀ (headers headers' : Headers) (value more : List UInt8) (rest : List Char),
        headers.FirstValue value → Settles value rest → IsLegible more →
        headers'.FirstValue (value ++ 0x2C :: more) → headers'.maxAge = headers.maxAge := by
  refine ⟨fun headers r => maxAge_eq_iff, fun headers headers' => maxAge_congr,
    fun headers headers' value more rest hv hs hmore hv' => ?_⟩
  obtain ⟨r, hr⟩ := Decimal.exists_reads rest
  cases r with
  | ok n =>
      have htells : Tells headers _ := .seconds hv hs hr
      have htells' : Tells headers' _ := .seconds hv' (hs.append hmore) hr
      rw [htells.maxAge_eq, htells'.maxAge_eq]
  | error f =>
      have htells : Tells headers _ := .malformed hv hs hr
      have htells' : Tells headers' _ := .malformed hv' (hs.append hmore) hr
      rw [htells.maxAge_eq, htells'.maxAge_eq]

/-- A value whose second piece settles it. -/
def sampleValue : List UInt8 := "public,\tmax-age=+007 ,max-age=x".toUTF8.toList

lemma settles_sampleValue : Settles sampleValue "+007".toList := by
  have hlegible : IsLegible sampleValue := by
    unfold IsLegible
    decide +kernel
  have hpieces : (chars sampleValue).splitOn ','
      = ["public".toList] ++ "\tmax-age=+007 ".toList :: ["max-age=x".toList] := by decide +kernel
  have hvisible : ∀ piece ∈ (chars sampleValue).splitOn ',', IsVisibleText piece :=
    fun _ hp => isVisibleText_of_mem hlegible hp
  rw [hpieces] at hvisible
  refine ⟨hlegible, _, _, _, hpieces, ?_, ?_⟩
  · exact (trimBlank_eq_iff (hvisible _ (by simp))).mp (by decide)
  · intro b hb r hr
    obtain rfl := List.mem_singleton.mp hb
    exact absurd ((isPrefix_trimBlank_iff (hvisible _ (by simp))).mpr ⟨r, hr⟩) (by decide)

/-- Headers with that value, after others and before another value. -/
def sampleHeaders (value : List UInt8) : Headers :=
  [⟨"Age", [0x31]⟩, ⟨"CACHE-control", value⟩, ⟨"Cache-Control", []⟩]

lemma firstValue_sampleHeaders (value : List UInt8) : FirstValue (sampleHeaders value) value :=
  have hname : lower "CACHE-control" = "cache-control".toList := by decide
  ⟨[⟨"Age", [0x31]⟩], _, [⟨"Cache-Control", []⟩], rfl, hname, rfl, by decide⟩

/-- A piece that settles a value, among other pieces, values and headers. -/
theorem maxAge_tells_sample :
    FirstValue (sampleHeaders sampleValue) sampleValue ∧ Settles sampleValue "+007".toList
      ∧ IsLegible [0x61] ∧ (sampleHeaders sampleValue).maxAge = .ok (Duration.ofSeconds 7)
      ∧ (∀ value, (sampleHeaders sampleValue).FirstValue value
        ↔ FirstValue [⟨"Cache-Control", sampleValue⟩] value)
      ∧ maxAge [⟨"Cache-Control", sampleValue⟩] = (sampleHeaders sampleValue).maxAge
      ∧ (sampleHeaders (sampleValue ++ 0x2C :: [0x61])).maxAge
        = (sampleHeaders sampleValue).maxAge := by
  have hlegible : IsLegible [0x61] := by
    unfold IsLegible
    decide +kernel
  have hall : ("007".toList.all fun c => decide (Decimal.IsDigit c)) = true := by decide
  have hdigits : ∀ c ∈ "007".toList, Decimal.IsDigit c := fun c hc =>
    of_decide_eq_true (List.all_eq_true.mp hall c hc)
  have hreads : Decimal.Reads "+007".toList (.ok 7) :=
    @Decimal.Reads.number ['+'] "007".toList (.inr rfl) (by decide) hdigits (by decide +kernel)
  have hname : lower "Cache-Control" = "cache-control".toList := by decide
  have halone : FirstValue [⟨"Cache-Control", sampleValue⟩] sampleValue :=
    ⟨[], _, [], rfl, hname, rfl, by simp⟩
  have hsame : ∀ value, (sampleHeaders sampleValue).FirstValue value
      ↔ FirstValue [⟨"Cache-Control", sampleValue⟩] value := fun value =>
    ⟨fun h => h.eq (firstValue_sampleHeaders _) ▸ halone,
      fun h => h.eq halone ▸ firstValue_sampleHeaders _⟩
  refine ⟨firstValue_sampleHeaders _, settles_sampleValue, hlegible, ?_, hsame,
    maxAge_tells.2.1 _ _ hsame, ?_⟩
  · exact (maxAge_tells.1 _ _).mpr
      (.seconds (firstValue_sampleHeaders _) settles_sampleValue hreads)
  · exact maxAge_tells.2.2 _ _ _ _ _ (firstValue_sampleHeaders _) settles_sampleValue hlegible
      (firstValue_sampleHeaders _)

end Http.Headers

end Keyring
