import Mathlib.Tactic.Lemma
import Mathlib.Data.Nat.Bitwise
import FrameworkBindings.Text.Alphanumeric
import FrameworkBindings.Text.Case
import FrameworkBindings.Proofs.Text.Words

/-!
# What the case maps make of a character

A case map begins the image of a character with one that it leaves alone from then on, and it makes
letters of letters.  Behind that first character an image may have a combining mark, which is no
letter; the characters with such an image are listed.

The tables are compared as sets of code points.  A set is a number with a bit for each of its
members, so that two tables are compared by one operation on numbers and not entry against entry.

* `maskOf`, `Ranges.mask` — the numbers for a list of codes and for ranges.
* `CaseMap.sources`, `CaseMap.images` — the codes that a map changes, and what it begins their
  images with.
* **`settles_upper`, `settles_lower`** — the first character of an image is left alone.
* **`marksOf_upper`, `marksOf_lower`** — which images have a mark.

**From tables to characters.**  What is checked of the tables is collected in two structures, one
for the first characters of images (`TablesSettle`) and one for the marks (`TablesMark`).  Their
fields are closed statements on numbers, which the kernel evaluates; each of them is turned into a
statement on all characters once, for any map, and then used for both of them.  ASCII is checked
character by character, as the maps of core are in charge there.
-/

namespace FrameworkBindings.Text

/-! ## Sets of code points as numbers -/

/-- The number with a bit for each of the codes, as which a list is compared with another at
once. -/
def maskOf (codes : List Nat) : Nat :=
  codes.foldr (fun code mask => mask ||| 1 <<< code) 0

/-- The number with a bit for each code point of the ranges; a range is a block of bits. -/
def Ranges.mask (ranges : Ranges) : Nat :=
  ranges.foldr (fun range mask => mask ||| (2 ^ (range.2 + 1 - range.1) - 1) <<< range.1) 0

lemma testBit_maskOf (codes : List Nat) (code : Nat) :
    (maskOf codes).testBit code = decide (code ∈ codes) := by
  induction codes with
  | nil => simp [maskOf]
  | cons first codes ih =>
      rw [maskOf, List.foldr_cons, ← maskOf, Nat.testBit_or, ih, Nat.one_shiftLeft,
        Nat.testBit_two_pow, ← Bool.decide_or]
      exact decide_eq_decide.2 (by rw [List.mem_cons, or_comm, eq_comm])

lemma Ranges.testBit_mask (ranges : Ranges) (code : Nat) :
    ranges.mask.testBit code = ranges.contains code := by
  induction ranges with
  | nil => simp [mask, contains]
  | cons range ranges ih =>
      have hrange : (decide (code ≥ range.1) && decide (code - range.1 < range.2 + 1 - range.1)) =
          (decide (range.1 ≤ code) && decide (code ≤ range.2)) := by
        rw [← Bool.decide_and, ← Bool.decide_and]
        exact decide_eq_decide.2 (by omega)
      rw [mask, List.foldr_cons, ← mask, Nat.testBit_or, ih, Nat.testBit_shiftLeft,
        Nat.testBit_two_pow_sub_one, hrange, Bool.or_comm]
      rfl

/-- Two lists of codes have nothing in common, if their numbers have no bit in common. -/
lemma not_mem_of_masks {codes others : List Nat} (h : maskOf codes &&& maskOf others = 0)
    {code : Nat} (hcode : code ∈ codes) : code ∉ others := by
  have hbit := congrArg (Nat.testBit · code) h
  simpa [Nat.testBit_and, testBit_maskOf, hcode] using hbit

/-- All codes of a list lie in the ranges, if their bits add nothing to those of the ranges. -/
lemma contains_of_masks {codes : List Nat} {ranges : Ranges}
    (h : maskOf codes ||| ranges.mask = ranges.mask) {code : Nat} (hcode : code ∈ codes) :
    ranges.contains code = true := by
  have hbit := congrArg (Nat.testBit · code) h
  simpa [Nat.testBit_or, testBit_maskOf, Ranges.testBit_mask, hcode] using hbit

/-! ## Letters -/

/-- The letters of ASCII, and all alphanumeric code points above: what a name may have, digits of
ASCII and the underscore apart. -/
def letterRanges : Ranges := [(0x41, 0x5A), (0x61, 0x7A)] ++ alphanumericRanges

/-- What is checked for all codes of ASCII holds of its characters, of which there are few
enough. -/
lemma forall_ascii {P : Char → Prop} (h : ∀ code < 0x80, P (Char.ofNat code)) {c : Char}
    (hc : c.toNat < 0x80) : P c :=
  Char.ofNat_toNat c ▸ h c.toNat hc

lemma toNat_lt_of_isAlphanum {c : Char} (h : c.isAlphanum = true) : c.toNat < 0x80 := by
  have htable : ∀ range ∈ asciiRanges, range.2 < 0x80 := by decide
  obtain ⟨range, hrange, -, hlast⟩ := Ranges.contains_iff.1 (contains_of_isAlphanum h)
  exact lt_of_le_of_lt hlast (htable range hrange)

/-- Below `0x80` there are only the letters and digits of ASCII. -/
lemma isAlphanumeric_of_ascii {c : Char} (h : c.toNat < 0x80) :
    isAlphanumeric c = c.isAlphanum := by
  have htable : ∀ range ∈ alphanumericRanges, 0x80 ≤ range.1 := by decide +kernel
  have hcontains : alphanumericRanges.contains c.toNat = false := by
    rw [← Bool.not_eq_true, Ranges.contains_iff]
    rintro ⟨range, hrange, hfirst, -⟩
    have := htable range hrange
    omega
  rw [isAlphanumeric, hcontains, Bool.or_false]

lemma isWordChar_of_ascii {c : Char} (h : c.toNat < 0x80) :
    isWordChar c = isAsciiWord [c] := by
  rw [isWordChar, isAlphanumeric_of_ascii h, isAsciiWord, List.all_cons, List.all_nil,
    Bool.and_true]

/-- A code of `letterRanges` is that of a word character, and of no digit of ASCII. -/
lemma isWordChar_of_letterRanges {code : Nat} (h : letterRanges.contains code = true) :
    (Char.ofNat code).toNat = code ∧ isWordChar (Char.ofNat code) = true ∧
      (Char.ofNat code).isDigit = false := by
  have htable : ∀ range ∈ letterRanges,
      0x3A ≤ range.1 ∧ (range.2 < 0xD800 ∨ 0xDFFF < range.1 ∧ range.2 < 0x110000) := by
    decide +kernel
  have hascii : ∀ code < 0x80, Ranges.contains [(0x41, 0x5A), (0x61, 0x7A)] code = true →
      (Char.ofNat code).isAlphanum = true := by decide +kernel
  obtain ⟨range, hrange, hfirst, hlast⟩ := Ranges.contains_iff.1 h
  obtain ⟨hdigits, hvalid⟩ := htable range hrange
  have hcode : (Char.ofNat code).toNat = code := by
    have hcodeValid : code.isValidChar := by
      rcases hvalid with hlow | ⟨hhigh, hend⟩
      · exact .inl (by omega)
      · exact .inr ⟨by omega, by omega⟩
    rw [Char.ofNat, dif_pos hcodeValid]
    rfl
  have hword : isAlphanumeric (Char.ofNat code) = true := by
    rw [letterRanges, Ranges.contains, List.any_append, Bool.or_eq_true] at h
    rcases h with hletter | hbeyond
    · refine isAlphanumeric_of_isAlphanum (hascii code ?_ hletter)
      simp only [List.any_cons, List.any_nil, Bool.or_false, Bool.or_eq_true, Bool.and_eq_true,
        decide_eq_true_eq] at hletter
      omega
    · rw [isAlphanumeric, hcode, Ranges.contains, hbeyond, Bool.or_true]
  refine ⟨hcode, by rw [isWordChar, hword, Bool.true_or], ?_⟩
  rw [← Bool.not_eq_true, Char.isDigit_iff_toNat, hcode]
  rintro ⟨-, hnine⟩
  have : ('9' : Char).toNat = 0x39 := rfl
  omega

/-- The marks that stand behind a letter in an image.  None of them is a word character. -/
def combining : List Nat := [0x300, 0x301, 0x307, 0x308, 0x30A, 0x30C, 0x313, 0x331, 0x342]

lemma isWordChar_combining : ∀ code ∈ combining, isWordChar (Char.ofNat code) = false := by
  decide +kernel

/-! ## What a map changes -/

namespace CaseRun

/-- The code points that a run maps, one after the other. -/
def codes (run : CaseRun) : List Nat :=
  List.range' run.first ((run.last - run.first) / run.stride + 1) run.stride

lemma mem_codes {run : CaseRun} {code : Nat} (h : run.covers code = true) : code ∈ run.codes := by
  simp only [covers, Bool.and_eq_true, decide_eq_true_eq, beq_iff_eq] at h
  obtain ⟨⟨hfirst, hlast⟩, hstep⟩ := h
  refine List.mem_range'.2 ⟨(code - run.first) / run.stride, ?_, ?_⟩
  · exact Nat.lt_succ_of_le (Nat.div_le_div_right (Nat.sub_le_sub_right hlast _))
  · rw [Nat.mul_div_cancel' (Nat.dvd_of_mod_eq_zero hstep)]
    omega

end CaseRun

namespace CaseMap

/-- The code points that the map changes. -/
def sources (map : CaseMap) : List Nat :=
  map.runs.flatMap (·.codes) ++ map.expansions.map (·.1)

/-- The code points that the images of those begin with; what stands behind them is looked at
separately. -/
def images (map : CaseMap) : List Nat :=
  (map.runs.flatMap fun run => run.codes.map run.apply) ++ map.expansions.filterMap (·.2.head?)

variable {map : CaseMap} {c : Char}

lemma mem_expansions_of_lookup {code : Nat} {codes : List Nat}
    (h : map.expansions.lookup code = some codes) : (code, codes) ∈ map.expansions := by
  obtain ⟨before, after, hentries, -⟩ := List.lookup_eq_some_iff.1 h
  simp [hentries]

/-- What has no expansion becomes one character, whether a run maps it or not. -/
lemma exists_apply_of_lookup (h : map.expansions.lookup c.toNat = none) :
    ∃ d, map.apply c = [d] := by
  cases hrun : map.runs.find? (·.covers c.toNat) <;> exact ⟨_, by rw [apply, h, hrun]⟩

/-- A map leaves alone what it does not list. -/
lemma apply_of_not_mem_sources (h : c.toNat ∉ map.sources) : map.apply c = [c] := by
  rw [sources, List.mem_append, not_or] at h
  have hlookup : map.expansions.lookup c.toNat = none :=
    List.lookup_eq_none_iff.2 fun entry hentry => bne_iff_ne.2 fun hkey =>
      h.2 (hkey ▸ List.mem_map_of_mem hentry)
  have hfind : map.runs.find? (·.covers c.toNat) = none :=
    List.find?_eq_none.2 fun run hrun hcovers =>
      h.1 (List.mem_flatMap.2 ⟨run, hrun, CaseRun.mem_codes hcovers⟩)
  rw [apply, hlookup, hfind]

/-- A character is left alone, or its image begins with one of `images`. -/
lemma apply_cases (hne : ∀ entry ∈ map.expansions, entry.2 ≠ []) (c : Char) :
    map.apply c = [c] ∨ ∃ code ∈ map.images, ∃ rest, map.apply c = Char.ofNat code :: rest := by
  rw [apply]
  split
  · rename_i codes hlookup
    have hentry := mem_expansions_of_lookup hlookup
    obtain ⟨code, more, rfl⟩ := List.exists_cons_of_ne_nil (hne _ hentry)
    refine .inr ⟨code, List.mem_append_right _ ?_, _, List.map_cons⟩
    exact List.mem_filterMap.2 ⟨_, hentry, rfl⟩
  · split
    · rename_i run hrun
      have hcovers : run.covers c.toNat = true :=
        List.find?_some (p := (CaseRun.covers · c.toNat)) hrun
      refine .inr ⟨run.apply c.toNat, List.mem_append_left _ ?_, [], rfl⟩
      exact List.mem_flatMap.2 ⟨run, List.mem_of_find?_eq_some hrun,
        List.mem_map_of_mem (CaseRun.mem_codes hcovers)⟩
    · exact .inl rfl

end CaseMap

/-! ## The first character of an image -/

/-- A change of case begins the image of a character with one that it leaves alone from then on.
That is a word character for a word character, and a digit for a digit only. -/
def Settles (change : Char → List Char) : Prop :=
  ∀ c, ∃ first rest, change c = first :: rest ∧ change first = [first] ∧
    (isWordChar c = true → isWordChar first = true) ∧ (first.isDigit = true → c.isDigit = true)

/-- What is checked of a character of ASCII: the change of case stays within ASCII and does not move
what it has moved, it moves only the characters of `moved`, and it makes word characters of word
characters and no digits. -/
structure AsciiSettles (ascii : Char → Char) (moved : List Nat) (c : Char) : Prop where
  bound : (ascii c).toNat < 0x80
  again : ascii (ascii c) = ascii c
  unmoved : c.toNat ∉ moved → ascii c = c
  word : isAsciiWord [c] = true → isAsciiWord [ascii c] = true
  digit : (ascii c).isDigit = true → c.isDigit = true

instance (ascii : Char → Char) (moved : List Nat) (c : Char) :
    Decidable (AsciiSettles ascii moved c) :=
  decidable_of_iff ((ascii c).toNat < 0x80 ∧ ascii (ascii c) = ascii c ∧
      (c.toNat ∉ moved → ascii c = c) ∧ (isAsciiWord [c] = true → isAsciiWord [ascii c] = true) ∧
      ((ascii c).isDigit = true → c.isDigit = true))
    ⟨fun ⟨hbound, hagain, hunmoved, hword, hdigit⟩ => ⟨hbound, hagain, hunmoved, hword, hdigit⟩,
      fun h => ⟨h.bound, h.again, h.unmoved, h.word, h.digit⟩⟩

/-- What is checked in the tables: no image begins with something that is changed again, and all
begin with letters.  Of the characters below `0x80` the change of case moves those of `ascii`. -/
structure TablesSettle (map : CaseMap) (ascii : List Nat) : Prop where
  inhabited : ∀ entry ∈ map.expansions, entry.2 ≠ []
  apart : maskOf map.images &&& maskOf (ascii ++ map.sources) = 0
  letters : maskOf map.images ||| letterRanges.mask = letterRanges.mask

lemma tablesSettle_upper : TablesSettle upperMap (List.range' 0x61 26) :=
  ⟨by decide +kernel, by decide +kernel, by decide +kernel⟩

lemma tablesSettle_lower : TablesSettle lowerMap (List.range' 0x41 26) :=
  ⟨by decide +kernel, by decide +kernel, by decide +kernel⟩

section

variable {map : CaseMap} {codes marked : List Nat} {ascii : Char → Char} {change : Char → List Char}

lemma TablesSettle.settles (h : TablesSettle map codes)
    (hchange : ∀ c, change c = if c.toNat < 0x80 then [ascii c] else map.apply c)
    (hascii : ∀ c, c.toNat < 0x80 → AsciiSettles ascii codes c) : Settles change := by
  intro c
  by_cases hc : c.toNat < 0x80
  · have hword := (hascii c hc).word
    rw [← isWordChar_of_ascii hc, ← isWordChar_of_ascii (hascii c hc).bound] at hword
    refine ⟨ascii c, [], by rw [hchange, if_pos hc], ?_, hword, (hascii c hc).digit⟩
    rw [hchange, if_pos (hascii c hc).bound, (hascii c hc).again]
  · have hbeyond : change c = map.apply c := by rw [hchange, if_neg hc]
    rcases CaseMap.apply_cases h.inhabited c with hsame | ⟨code, hcode, rest, happly⟩
    · rw [hsame] at hbeyond
      exact ⟨c, [], hbeyond, hbeyond, id, id⟩
    · obtain ⟨hvalue, hword, hdigit⟩ :=
        isWordChar_of_letterRanges (contains_of_masks h.letters hcode)
      have happart := not_mem_of_masks h.apart hcode
      rw [List.mem_append, not_or] at happart
      refine ⟨Char.ofNat code, rest, hbeyond.trans happly, ?_, fun _ => hword, fun hnine => ?_⟩
      · rw [← hvalue] at happart
        rw [hchange]
        split
        · rename_i hlow
          rw [(hascii _ hlow).unmoved happart.1]
        · exact CaseMap.apply_of_not_mem_sources happart.2
      · rw [hdigit] at hnine
        contradiction

/-- Just the characters of `marked` have an image with something in it that is no word character.
They are all letters beyond ASCII. -/
structure MarksOf (change : Char → List Char) (marked : List Nat) : Prop where
  isWordChar_iff : ∀ c, isWordChar c = true →
    ((∀ d ∈ change c, isWordChar d = true) ↔ c.toNat ∉ marked)
  letters : ∀ c, c.toNat ∈ marked → isWordChar c = true ∧ 0x80 ≤ c.toNat

/-- What is checked in the tables about marks: of the images only those of `marked` have one, and
the others are made of letters. -/
structure TablesMark (map : CaseMap) (marked : List Nat) : Prop where
  expanded : ∀ code ∈ marked, (map.expansions.lookup code).isSome = true
  sources : ∀ code ∈ marked, 0x80 ≤ code ∧ letterRanges.contains code = true
  marks : ∀ entry ∈ map.expansions, entry.1 ∈ marked → ∃ code ∈ entry.2, code ∈ combining
  letters :
    let plain := (map.expansions.filter fun entry => !marked.contains entry.1).flatMap (·.2)
    maskOf plain ||| letterRanges.mask = letterRanges.mask

/-- The image of a word character that is one character is one, too, since a mark never stands
first. -/
lemma Settles.isWordChar_of_single (h : Settles change) {c d : Char} (hc : isWordChar c = true)
    (hd : change c = [d]) : ∀ e ∈ change c, isWordChar e = true := by
  obtain ⟨first, rest, hfirst, -, hword, -⟩ := h c
  obtain ⟨rfl, rfl⟩ := List.cons.inj (hfirst.symm.trans hd)
  intro e he
  rw [hd, List.mem_singleton] at he
  exact he ▸ hword hc

/-- Among the expansions the ones of `marked` have a mark. -/
lemma TablesMark.isWordChar_expansion_iff (h : TablesMark map marked) {code : Nat}
    {codes : List Nat} (hentry : (code, codes) ∈ map.expansions) :
    (∀ d ∈ codes.map Char.ofNat, isWordChar d = true) ↔ code ∉ marked := by
  rw [List.forall_mem_map]
  by_cases hmarked : code ∈ marked
  · obtain ⟨mark, hmem, hmark⟩ := h.marks _ hentry hmarked
    refine iff_of_false (fun hall => ?_) (not_not_intro hmarked)
    exact absurd (hall mark hmem) (Bool.eq_false_iff.1 (isWordChar_combining mark hmark))
  · refine iff_of_true (fun letter hletter => ?_) hmarked
    refine (isWordChar_of_letterRanges (contains_of_masks h.letters ?_)).2.1
    refine List.mem_flatMap.2 ⟨_, List.mem_filter.2 ⟨hentry, ?_⟩, hletter⟩
    simpa using hmarked

/-- An image is made of word characters unless it has a mark: its first character is a letter, and
behind it there are letters and marks only. -/
lemma TablesMark.isWordChar_iff (h : TablesMark map marked) (hsettles : Settles change)
    (hchange : ∀ c, change c = if c.toNat < 0x80 then [ascii c] else map.apply c) {c : Char}
    (hc : isWordChar c = true) :
    (∀ d ∈ change c, isWordChar d = true) ↔ c.toNat ∉ marked := by
  by_cases hlow : c.toNat < 0x80
  · have hone : change c = [ascii c] := by rw [hchange, if_pos hlow]
    refine iff_of_true (hsettles.isWordChar_of_single hc hone) fun hmarked => ?_
    exact absurd hlow (h.sources c.toNat hmarked).1.not_gt
  · have hbeyond : change c = map.apply c := by rw [hchange, if_neg hlow]
    cases hlookup : map.expansions.lookup c.toNat with
    | none =>
        obtain ⟨d, hd⟩ := CaseMap.exists_apply_of_lookup hlookup
        refine iff_of_true (hsettles.isWordChar_of_single hc (hbeyond.trans hd)) fun hmarked => ?_
        have hsome := h.expanded c.toNat hmarked
        rw [hlookup] at hsome
        contradiction
    | some codes =>
        have happly : change c = codes.map Char.ofNat := by rw [hbeyond, CaseMap.apply, hlookup]
        rw [happly]
        exact h.isWordChar_expansion_iff (CaseMap.mem_expansions_of_lookup hlookup)

lemma TablesMark.marksOf (h : TablesMark map marked) (hsettles : Settles change)
    (hchange : ∀ c, change c = if c.toNat < 0x80 then [ascii c] else map.apply c) :
    MarksOf change marked := by
  refine ⟨fun c hc => h.isWordChar_iff hsettles hchange hc, fun c hc => ?_⟩
  have hletter := isWordChar_of_letterRanges (h.sources c.toNat hc).2
  rw [Char.ofNat_toNat] at hletter
  exact ⟨hletter.2.1, (h.sources c.toNat hc).1⟩

end

/-- **The capital of a character stays as it is**, when it is made a capital once more. -/
lemma settles_upper : Settles upper :=
  tablesSettle_upper.settles (fun _ => rfl) fun _ =>
    forall_ascii (P := AsciiSettles Char.toUpper _) (by decide +kernel)

/-- **The small letter of a character stays as it is**, when it is made a small letter once more. -/
lemma settles_lower : Settles lower :=
  tablesSettle_lower.settles (fun _ => rfl) fun _ =>
    forall_ascii (P := AsciiSettles Char.toLower _) (by decide +kernel)

/-- The letters with a mark in their capital: those that have no capital of their own, so that it is
written as a letter and a mark. -/
def markedCapitals : List Nat := [
  0x1F0, 0x390, 0x3B0, 0x1E96, 0x1E97, 0x1E98, 0x1E99, 0x1F50, 0x1F52, 0x1F54, 0x1F56, 0x1FB6,
  0x1FB7, 0x1FC6, 0x1FC7, 0x1FD2, 0x1FD3, 0x1FD6, 0x1FD7, 0x1FE2, 0x1FE3, 0x1FE4, 0x1FE6, 0x1FE7,
  0x1FF6, 0x1FF7]

/-- The one letter with a mark in its small letter, the dotted capital I. -/
def markedSmalls : List Nat := [0x130]

/-- **The capitals with a mark are known**, and all other capitals are made of letters. -/
lemma marksOf_upper : MarksOf upper markedCapitals :=
  TablesMark.marksOf ⟨by decide +kernel, by decide +kernel, by decide +kernel, by decide +kernel⟩
    settles_upper fun _ => rfl

/-- **The small letters with a mark are known**, and all others are made of letters. -/
lemma marksOf_lower : MarksOf lower markedSmalls :=
  TablesMark.marksOf ⟨by decide +kernel, by decide +kernel, by decide +kernel, by decide +kernel⟩
    settles_lower fun _ => rfl

end FrameworkBindings.Text
