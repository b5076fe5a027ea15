import FrameworkBindings.Text.Alphanumeric
import FrameworkBindings.Text.Blank
import Mathlib.Data.List.DropRight
import Mathlib.Tactic.Lemma

/-!
# Words and blanks

What the reading of texts needs to know about white space.

**Numbers.**  A number is spelled in digits (`isDigit_of_mem_toString`).

**Trimming.**  A text that begins and ends with something visible is its own trimming
(`trim_eq_self`), blanks around a text do not count (`trim_append_blanks`, `trim_blanks_append`),
and trimming twice is trimming once (`trim_trim`).  What is taken off is blank (`exists_trim`,
`exists_trimEnd`).

**Words.**  A blank cuts the words of a text in two groups (`words_append_blank`), so squeezing goes
through a blank (`squeeze_append_blank`), and blanks around a text do not count (`squeeze_trim`).
Squeezing keeps every visible character (`mem_squeeze_iff`): a mark that no fixed text has tells a
whole family of texts from it.

**Marks.**  The first occurrence of a mark cuts a text in two in one way only (`first_mark_inj`),
and what does not hold it ends before it (`prefix_of_append_mark`).

**Deciding.**  What is said of all characters of a fixed text is decided along that text; the
instances for it stand at the beginning.  Character classes are compared range against range, and
fixed words are checked to be words of ASCII, so that no proof has to search the long tables.
-/

namespace FrameworkBindings.Text

/-! ## Classes of characters -/

/-- Whether no code point lies in both classes, checked range against range and not point by
point. -/
def Ranges.apart (a b : Ranges) : Bool :=
  a.all fun r => b.all fun s => r.2 < s.1 || s.2 < r.1

lemma Ranges.contains_eq_false_of_apart {a b : Ranges} {code : Nat} (h : a.apart b = true)
    (ha : a.contains code = true) : b.contains code = false := by
  rw [Bool.eq_false_iff]
  intro hb
  obtain ⟨r, hr, hr1, hr2⟩ := Ranges.contains_iff.1 ha
  obtain ⟨s, hs, hs1, hs2⟩ := Ranges.contains_iff.1 hb
  simp only [Ranges.apart, List.all_eq_true, Bool.or_eq_true, decide_eq_true_eq] at h
  rcases h r hr s hs with hlt | hlt <;> omega

/-- What is said of the characters of a text is decided along the text, and not over all characters.
Without these instances, `decide` would try to list the type of characters. -/
instance (priority := high) decidableForallText {p : Char → Prop} [DecidablePred p]
    {text : List Char} : Decidable (∀ c ∈ text, p c) :=
  List.decidableBAll p text

instance (priority := high) decidableForallOption {p : Char → Prop} [DecidablePred p]
    {last : Option Char} : Decidable (∀ c ∈ last, p c) :=
  Option.decidableForallMem last

instance (priority := high) decidableExistsOption {p : Char → Prop} [DecidablePred p]
    {last : Option Char} : Decidable (∃ c ∈ last, p c) :=
  Option.decidableExistsMem last

/-- The letters and digits of ASCII as ranges. -/
def asciiRanges : Ranges := [(0x30, 0x39), (0x41, 0x5A), (0x61, 0x7A)]

lemma contains_of_isAlphanum {c : Char} (h : c.isAlphanum = true) :
    asciiRanges.contains c.toNat = true := by
  have hclass : (c.isUpper || c.isLower || c.isDigit) = true := h
  have hbounds : ∀ low high : UInt32, low ≤ c.val → c.val ≤ high →
      low.toNat ≤ c.toNat ∧ c.toNat ≤ high.toNat := fun low high hlow hhigh =>
    ⟨UInt32.le_iff_toNat_le.1 hlow, UInt32.le_iff_toNat_le.1 hhigh⟩
  rw [Bool.or_eq_true, Bool.or_eq_true] at hclass
  rw [Ranges.contains_iff]
  rcases hclass with (hupper | hlower) | hdigit
  · obtain ⟨hlow, hhigh⟩ := of_decide_eq_true hupper
    exact ⟨(0x41, 0x5A), by simp [asciiRanges], hbounds 0x41 0x5A hlow hhigh⟩
  · obtain ⟨hlow, hhigh⟩ := Bool.and_eq_true_iff.1 hlower
    exact ⟨(0x61, 0x7A), by simp [asciiRanges],
      hbounds 0x61 0x7A (of_decide_eq_true hlow) (of_decide_eq_true hhigh)⟩
  · obtain ⟨hlow, hhigh⟩ := Bool.and_eq_true_iff.1 hdigit
    exact ⟨(0x30, 0x39), by simp [asciiRanges],
      hbounds 0x30 0x39 (of_decide_eq_true hlow) (of_decide_eq_true hhigh)⟩

/-- A letter, a digit or `_` is no blank. -/
lemma isBlank_eq_false_of_isWordChar {c : Char} (h : isWordChar c = true) : isBlank c = false := by
  simp only [isWordChar, isAlphanumeric, Bool.or_eq_true, beq_iff_eq] at h
  rcases h with (h | h) | rfl
  · exact Ranges.contains_eq_false_of_apart (by decide) (contains_of_isAlphanum h)
  · exact Ranges.contains_eq_false_of_apart (by decide +kernel) h
  · decide

/-- The punctuation of signatures is made of no word characters. -/
@[simp]
lemma isWordChar_punctuation :
    isWordChar ' ' = false ∧ isWordChar '*' = false ∧ isWordChar '(' = false ∧
      isWordChar ')' = false ∧ isWordChar '[' = false ∧ isWordChar ']' = false ∧
      isWordChar ',' = false := by
  decide +kernel

/-- A word of ASCII, told without the ranges of the alphanumerics, which are long to search.  Fixed
words are checked by this, as the kernel has to run the check. -/
def isAsciiWord (w : List Char) : Bool :=
  w.all fun c => c.isAlphanum || c == '_'

lemma isWordChar_of_isAsciiWord {w : List Char} (h : isAsciiWord w = true) :
    ∀ c ∈ w, isWordChar c = true := by
  intro c hc
  have hascii := List.all_eq_true.1 h c hc
  rw [Bool.or_eq_true, beq_iff_eq] at hascii
  rcases hascii with hletter | rfl
  · rw [isWordChar, isAlphanumeric_of_isAlphanum hletter, Bool.true_or]
  · exact isWordChar_underscore

/-! ## Numbers -/

lemma toList_toString (n : Nat) : (toString n).toList = Nat.toDigits 10 n := by
  rw [Nat.toString_eq_ofList_toDigits, String.toList_ofList]

lemma toList_toString_ne_nil (n : Nat) : (toString n).toList ≠ [] := by
  rw [toList_toString]
  exact Nat.toDigits_ne_nil

lemma isDigit_of_mem_toString {n : Nat} {c : Char} (h : c ∈ (toString n).toList) :
    c.isDigit = true := by
  rw [toList_toString] at h
  exact Nat.isDigit_of_mem_toDigits (by decide) (by decide) h

/-! ## Trimming -/

lemma trimEnd_eq_rdropWhile (s : List Char) : trimEnd s = s.rdropWhile isBlank := rfl

/-- What begins with something else loses nothing. -/
lemma dropWhile_eq_self_of_head? {α : Type} {p : α → Bool} {s : List α}
    (h : ∀ c ∈ s.head?, p c = false) : s.dropWhile p = s := by
  cases s with
  | nil => rfl
  | cons c s => exact List.dropWhile_cons_of_neg (by simp [h c rfl])

/-- The end of a text that has a property, behind something that lacks it. -/
lemma rtakeWhile_append {α : Type} {p : α → Bool} {s w : List α} (hw : ∀ c ∈ w, p c = true)
    (hs : ∀ c ∈ s.getLast?, p c = false) : (s ++ w).rtakeWhile p = w := by
  rw [List.rtakeWhile, List.reverse_append, List.takeWhile_append_of_pos (by simpa using hw)]
  cases s using List.reverseRecOn with
  | nil => simp
  | append_singleton s c => simp [hs c (by simp)]

lemma trimStart_eq_self {s : List Char} (h : ∀ c ∈ s.head?, isBlank c = false) :
    trimStart s = s :=
  dropWhile_eq_self_of_head? h

lemma trimEnd_eq_self {s : List Char} (h : ∀ c ∈ s.getLast?, isBlank c = false) :
    trimEnd s = s := by
  rw [trimEnd_eq_rdropWhile, List.rdropWhile_eq_self_iff]
  intro hne
  simp [h _ (List.getLast?_eq_some_getLast hne)]

/-- A text between two visible characters is its own trimming; this is how trimmed texts are
recognized. -/
lemma trim_eq_self {s : List Char} (hhead : ∀ c ∈ s.head?, isBlank c = false)
    (hlast : ∀ c ∈ s.getLast?, isBlank c = false) : trim s = s := by
  rw [trim, trimStart_eq_self hhead, trimEnd_eq_self hlast]

/-- What is its own trimming begins and ends with something visible, or is empty. -/
lemma visible_of_trim_eq_self {s : List Char} (h : trim s = s) :
    (∀ c ∈ s.head?, isBlank c = false) ∧ ∀ c ∈ s.getLast?, isBlank c = false := by
  have hstart : trimStart s = s := by
    refine (List.dropWhile_sublist isBlank).eq_of_length_le ?_
    calc s.length = (trim s).length := by rw [h]
      _ ≤ (trimStart s).length := length_trimEnd_le _
  constructor
  · intro c hc
    have := List.head?_dropWhile_not isBlank s
    rw [show s.dropWhile isBlank = s from hstart, Option.mem_def.1 hc] at this
    simpa using this
  · intro c hc
    rw [trim, hstart, trimEnd_eq_rdropWhile, List.rdropWhile_eq_self_iff] at h
    obtain ⟨hne, rfl⟩ := List.mem_getLast?_eq_getLast hc
    simpa using h hne

/-- A text goes on being its own trimming when something visible is put behind it. -/
lemma trim_append_eq_self {s r : List Char} (hs : trim s = s) (hne : s ≠ [])
    (hlast : ∃ c ∈ r.getLast?, isBlank c = false) : trim (s ++ r) = s ++ r := by
  obtain ⟨c, hc, hvisible⟩ := hlast
  refine trim_eq_self (fun d hd => ?_) fun d hd => ?_
  · exact (visible_of_trim_eq_self hs).1 d (by rwa [List.head?_append_of_ne_nil _ hne] at hd)
  · rw [List.getLast?_append, Option.mem_def.1 hc] at hd
    obtain rfl : c = d := by simpa using hd
    exact hvisible

lemma trimEnd_append_blank {s : List Char} {b : Char} (hb : isBlank b = true) :
    trimEnd (s ++ [b]) = trimEnd s :=
  List.rdropWhile_concat_pos isBlank s b hb

lemma trimEnd_append_blanks (s : List Char) {blanks : List Char}
    (h : ∀ c ∈ blanks, isBlank c = true) : trimEnd (s ++ blanks) = trimEnd s := by
  induction blanks using List.reverseRecOn with
  | nil => rw [List.append_nil]
  | append_singleton blanks b ih =>
      rw [← List.append_assoc, trimEnd_append_blank (h b (by simp)),
        ih fun c hc => h c (by simp [hc])]

/-- A blank behind a text is trimmed away. -/
lemma trim_append_blank {s : List Char} {b : Char} (hb : isBlank b = true) :
    trim (s ++ [b]) = trim s := by
  induction s with
  | nil => simp [trim, trimStart, hb]
  | cons c s ih =>
      cases hc : isBlank c with
      | true => simpa [trim, trimStart, hc] using ih
      | false => simpa [trim, trimStart, hc] using trimEnd_append_blank (s := c :: s) hb

lemma trimEnd_cons_of_visible {c : Char} {s : List Char} (hc : isBlank c = false) :
    trimEnd (c :: s) = c :: trimEnd s := by
  induction s using List.reverseRecOn with
  | nil => simp [trimEnd, hc]
  | append_singleton s b ih =>
      cases hb : isBlank b with
      | true => rw [← List.cons_append, trimEnd_append_blank hb, trimEnd_append_blank hb, ih]
      | false => simp [trimEnd, hb]

/-- Trimming twice is trimming once. -/
lemma trim_trim (s : List Char) : trim (trim s) = trim s := by
  have hstart : trimStart (trim s) = trim s := by
    rw [trim]
    cases h : trimStart s with
    | nil => rfl
    | cons c r =>
        have hc : isBlank c = false := by
          have hdrop : s.dropWhile isBlank = c :: r := h
          have hne : s.dropWhile isBlank ≠ [] := by simp [hdrop]
          simpa [hdrop] using List.head_dropWhile_not isBlank hne
        simp [trimEnd_cons_of_visible hc, trimStart, hc]
  rw [trim, hstart, trim, trimEnd_eq_rdropWhile, trimEnd_eq_rdropWhile, List.rdropWhile_idempotent]

/-- Trimming the end takes blanks off it. -/
lemma exists_trimEnd (s : List Char) : ∃ trail, s = trimEnd s ++ trail ∧
    ∀ c ∈ trail, isBlank c = true := by
  refine ⟨(s.reverse.takeWhile isBlank).reverse, ?_, fun c hc => ?_⟩
  · have hreverse := congrArg List.reverse
      (List.takeWhile_append_dropWhile (p := isBlank) (l := s.reverse))
    rw [List.reverse_append, List.reverse_reverse] at hreverse
    exact hreverse.symm
  · exact List.mem_takeWhile_imp (List.mem_reverse.1 hc)

/-- What is left when the end is trimmed ends in something visible. -/
lemma visible_of_mem_getLast?_trimEnd {s : List Char} {c : Char}
    (hc : c ∈ (trimEnd s).getLast?) : isBlank c = false := by
  obtain ⟨hne, rfl⟩ := List.mem_getLast?_eq_getLast hc
  exact Bool.eq_false_iff.2 (List.rdropWhile_last_not isBlank s hne)

/-- Trimming the end stops at a text that ends in something visible. -/
lemma trimEnd_append_of_trimEnd_ne_nil (s : List Char) {r : List Char} (hne : trimEnd r ≠ []) :
    trimEnd (s ++ r) = s ++ trimEnd r := by
  obtain ⟨trail, hr, htrail⟩ := exists_trimEnd r
  have hlast : ∀ c ∈ (s ++ trimEnd r).getLast?, isBlank c = false := by
    rw [List.getLast?_append_of_ne_nil _ hne]
    exact fun c => visible_of_mem_getLast?_trimEnd
  conv_lhs => rw [hr]
  rw [← List.append_assoc, trimEnd_append_blanks _ htrail, trimEnd_eq_self hlast]

/-- Behind the trimming of a text there are only blanks. -/
lemma exists_trimStart (s : List Char) : ∃ trail, trimStart s = trim s ++ trail ∧
    ∀ c ∈ trail, isBlank c = true :=
  exists_trimEnd (trimStart s)

/-- Trimming takes blanks off both ends and nothing else, so a text is its trimming between
blanks. -/
lemma exists_trim (s : List Char) : ∃ lead trail, s = lead ++ trim s ++ trail ∧
    (∀ c ∈ lead, isBlank c = true) ∧ ∀ c ∈ trail, isBlank c = true := by
  obtain ⟨trail, hstart, htrail⟩ := exists_trimStart s
  refine ⟨s.takeWhile isBlank, trail, ?_, fun c hc => List.mem_takeWhile_imp hc, htrail⟩
  rw [List.append_assoc, ← hstart]
  exact List.takeWhile_append_dropWhile.symm

lemma trimStart_append_cons (s : List Char) {c : Char} (hc : isBlank c = false) (r : List Char) :
    trimStart (s ++ c :: r) = trimStart s ++ c :: r := by
  rw [trimStart, List.dropWhile_append]
  split
  · rename_i hempty
    rw [trimStart, List.isEmpty_iff.1 hempty, List.dropWhile_cons_of_neg (by simp [hc])]
    rfl
  · rfl

/-- In front of something visible at the end only the blanks at the beginning are trimmed. -/
lemma trim_append_visible (s : List Char) {c : Char} (hc : isBlank c = false) :
    trim (s ++ [c]) = trimStart s ++ [c] := by
  rw [trim, trimStart_append_cons s hc, trimEnd_eq_rdropWhile, List.rdropWhile_concat_neg]
  simp [hc]

lemma trim_trimStart (s : List Char) : trim (trimStart s) = trim s := by
  rw [trim, trim, trimStart, trimStart, List.dropWhile_idempotent]

lemma trim_append_blanks (s : List Char) {blanks : List Char}
    (h : ∀ c ∈ blanks, isBlank c = true) : trim (s ++ blanks) = trim s := by
  induction blanks using List.reverseRecOn with
  | nil => rw [List.append_nil]
  | append_singleton blanks b ih =>
      rw [← List.append_assoc, trim_append_blank (h b (by simp)), ih fun c hc => h c (by simp [hc])]

lemma trim_trimEnd (s : List Char) : trim (trimEnd s) = trim s := by
  obtain ⟨trail, hs, htrail⟩ := exists_trimEnd s
  conv_rhs => rw [hs]
  exact (trim_append_blanks _ htrail).symm

lemma trim_blanks_append (s : List Char) {blanks : List Char}
    (h : ∀ c ∈ blanks, isBlank c = true) : trim (blanks ++ s) = trim s := by
  rw [trim, trimStart, List.dropWhile_append_of_pos h]
  rfl

lemma mem_of_mem_trim {s : List Char} {c : Char} (h : c ∈ trim s) : c ∈ s := by
  obtain ⟨lead, trail, htext, -, -⟩ := exists_trim s
  rw [htext]
  simp [h]

/-! ## Words -/

lemma words_of_blank {c : Char} {s : List Char} (hc : isBlank c = true) :
    words (c :: s) = words s := by
  rw [words, if_pos hc]

/-- A text has no words only if it is blank throughout; the empty text is. -/
lemma words_eq_nil_iff {s : List Char} : words s = [] ↔ ∀ c ∈ s, isBlank c = true := by
  induction s with
  | nil => simp [words]
  | cons c s ih =>
      cases hc : isBlank c with
      | true => simp [words_of_blank hc, hc, ih]
      | false =>
          have hne : glue c s (words s) ≠ [] := by
            unfold glue
            split
            · split <;> simp
            · simp
          simp [words, hc, hne]

/-- A blank cuts the words of a text in two groups.  All other facts about words come from this
equation and the one on visible texts. -/
lemma words_append_blank {s r : List Char} {b : Char} (hb : isBlank b = true) :
    words (s ++ b :: r) = words s ++ words r := by
  induction s with
  | nil => simp [words_of_blank hb, words]
  | cons c s ih =>
      cases hc : isBlank c with
      | true => simp [words_of_blank hc, ih]
      | false =>
          rw [List.cons_append, words, words, if_neg (by simp [hc]), if_neg (by simp [hc]), ih]
          cases s with
          | nil => cases words r <;> simp [glue, words, hb]
          | cons d s =>
              cases h : words (d :: s) with
              | cons w ws => cases hd : isBlank d <;> simp [glue, hd]
              | nil =>
                  have hd : isBlank d = true := words_eq_nil_iff.1 h d (by simp)
                  cases hr : words r <;> simp [glue, hd]

/-- A visible text without blanks is one word. -/
lemma words_of_visible {s : List Char} (hne : s ≠ []) (h : ∀ c ∈ s, isBlank c = false) :
    words s = [s] := by
  induction s with
  | nil => contradiction
  | cons c s ih =>
      have hc : isBlank c = false := h c (by simp)
      cases s with
      | nil => simp [words, hc, glue]
      | cons d s =>
          have hd : isBlank d = false := h d (by simp)
          rw [words, if_neg (by simp [hc]), ih (by simp) fun e he => h e (by simp [he])]
          simp [glue, hd]

/-- The words hold the visible characters, in order. -/
lemma flatten_words (s : List Char) : (words s).flatten = s.filter (! isBlank ·) := by
  induction s with
  | nil => rfl
  | cons c s ih =>
      cases hc : isBlank c with
      | true => simp [words_of_blank hc, hc, ih]
      | false =>
          rw [words, if_neg (by simp [hc]), List.filter_cons_of_pos (by simp [hc]), ← ih]
          unfold glue
          split
          · split <;> simp_all
          · simp

lemma words_blanks_append (s : List Char) {blanks : List Char}
    (h : ∀ c ∈ blanks, isBlank c = true) : words (blanks ++ s) = words s := by
  induction blanks with
  | nil => rfl
  | cons b blanks ih =>
      rw [List.cons_append, words_of_blank (h b (by simp)), ih fun c hc => h c (by simp [hc])]

lemma words_trim (s : List Char) : words (trim s) = words s := by
  obtain ⟨lead, trail, htext, hlead, htrail⟩ := exists_trim s
  conv_rhs => rw [htext, List.append_assoc, words_blanks_append _ hlead]
  cases trail with
  | nil => rw [List.append_nil]
  | cons b trail =>
      have hrest : words trail = [] := words_eq_nil_iff.2 fun c hc => htrail c (by simp [hc])
      rw [words_append_blank (htrail b (by simp)), hrest, List.append_nil]

/-- A text that is its own trimming has words, unless it is empty, since it begins with one. -/
lemma words_ne_nil_of_trim {s : List Char} (htrim : trim s = s) (hne : s ≠ []) : words s ≠ [] := by
  rw [ne_eq, words_eq_nil_iff]
  intro hblank
  obtain ⟨c, r, rfl⟩ := List.exists_cons_of_ne_nil hne
  have hvisible := (visible_of_trim_eq_self htrim).1 c rfl
  rw [hblank c (by simp)] at hvisible
  contradiction

/-! ## Squeezing -/

lemma squeeze_trim (s : List Char) : squeeze (trim s) = squeeze s := by
  rw [squeeze, words_trim, squeeze]

/-- Squeezing keeps the visible characters and adds none, so they can be looked for in either
text. -/
lemma mem_squeeze_iff {s : List Char} {c : Char} (hc : isBlank c = false) :
    c ∈ squeeze s ↔ c ∈ s := by
  have hblank : c ≠ ' ' := by rintro rfl; exact absurd hc (by decide)
  have hjoin : ∀ ws : List (List Char), c ∈ [' '].intercalate ws ↔ c ∈ ws.flatten := by
    intro ws
    induction ws with
    | nil => simp
    | cons w ws ih =>
        cases ws with
        | nil => simp
        | cons v ws => simp [List.intercalate_cons_cons, ih, hblank]
  rw [squeeze, hjoin, flatten_words, List.mem_filter]
  simp [hc]

/-- A text without blanks is squeezed. -/
lemma squeeze_of_visible {s : List Char} (h : ∀ c ∈ s, isBlank c = false) : squeeze s = s := by
  cases s with
  | nil => rfl
  | cons c s => rw [squeeze, words_of_visible (by simp) h, List.intercalate_singleton]

lemma intercalate_append {sep : List Char} {as bs : List (List Char)} (ha : as ≠ [])
    (hb : bs ≠ []) :
    sep.intercalate (as ++ bs) = sep.intercalate as ++ sep ++ sep.intercalate bs := by
  induction as with
  | nil => contradiction
  | cons a as ih =>
      cases as with
      | nil =>
          obtain ⟨b, bs, rfl⟩ := List.exists_cons_of_ne_nil hb
          simp [List.intercalate_cons_cons]
      | cons a' as => simp [List.intercalate_cons_cons, ← ih]

/-- A text with words on both sides of a blank is squeezed side by side, with a space in place of
the blank. -/
lemma squeeze_append_blank {s r : List Char} {b : Char} (hb : isBlank b = true)
    (hs : words s ≠ []) (hr : words r ≠ []) :
    squeeze (s ++ b :: r) = squeeze s ++ ' ' :: squeeze r := by
  rw [squeeze, words_append_blank hb, intercalate_append hs hr, squeeze, squeeze]
  simp

/-- Squeezing keeps a visible character at the end. -/
lemma getLast?_squeeze (s : List Char) {c : Char} (hc : isBlank c = false) :
    (squeeze (s ++ [c])).getLast? = some c := by
  have hwords : ∃ ws w, words (s ++ [c]) = ws ++ [w ++ [c]] := by
    induction s with
    | nil => exact ⟨[], [], words_of_visible (by simp) (by simpa using hc)⟩
    | cons d s ih =>
        obtain ⟨ws, w, ih⟩ := ih
        cases hd : isBlank d with
        | true => exact ⟨ws, w, by rw [List.cons_append, words_of_blank hd, ih]⟩
        | false =>
            obtain ⟨e, r, hr⟩ := List.exists_cons_of_ne_nil (l := s ++ [c]) (by simp)
            rw [List.cons_append, words, if_neg (by simp [hd]), ih, hr]
            cases he : isBlank e with
            | true => exact ⟨[d] :: ws, w, by cases ws <;> simp [glue, he]⟩
            | false =>
                cases ws with
                | nil => exact ⟨[], d :: w, by simp [glue, he]⟩
                | cons v ws => exact ⟨(d :: v) :: ws, w, by simp [glue, he]⟩
  obtain ⟨ws, w, hwords⟩ := hwords
  rw [squeeze, hwords]
  cases ws with
  | nil => simp
  | cons v ws =>
      rw [intercalate_append (by simp) (by simp), List.intercalate_singleton, ← List.append_assoc,
        List.getLast?_concat]

/-! ## Marks -/

/-- What a text begins with ends before a mark that is not in it, whatever stands behind the
mark. -/
lemma prefix_of_append_mark {mark : Char} {p s r : List Char} (hp : mark ∉ p)
    (h : p <+: s ++ mark :: r) : p <+: s := by
  rcases List.prefix_or_prefix_of_prefix h (List.prefix_append s (mark :: r)) with hs | ⟨t, rfl⟩
  · exact hs
  · cases t with
    | nil => simp
    | cons c t =>
        obtain ⟨rfl, -⟩ := List.cons_prefix_cons.1 ((List.prefix_append_right_inj s).1 h)
        exact absurd (by simp) hp

/-- What stands in front of the first mark, and what behind it, is determined by the text. -/
lemma first_mark_inj {mark : Char} {p q r s : List Char} (hp : mark ∉ p) (hq : mark ∉ q)
    (h : p ++ mark :: r = q ++ mark :: s) : p = q ∧ r = s := by
  have hfirst {p r : List Char} (hp : mark ∉ p) : (p ++ mark :: r).takeWhile (· != mark) = p := by
    rw [List.takeWhile_append_of_pos fun c hc => bne_iff_ne.2 (ne_of_mem_of_not_mem hc hp)]
    simp
  obtain rfl : p = q := by rw [← hfirst hp, h, hfirst hq]
  exact ⟨rfl, (List.cons.inj (List.append_cancel_left h)).2⟩

end FrameworkBindings.Text
