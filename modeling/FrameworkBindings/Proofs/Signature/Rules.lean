import FrameworkBindings.Proofs.Signature.Nesting

/-!
# Which rule reads a signature

The rules of the reader compete for the same text in a fixed order.  This module says, for each
shape of text, which of them wins.

**Vocabulary.**  A text with a bracket in it is no preset, no primitive and not `void`
(`not_vocabulary_of_bracket`); behind a blank, only `*` can complete a preset
(`preset?_append_star`, `preset?_append_word`).

**Qualifiers.**  What qualifies a signature in front (`Led`) is its first word (`leadWord`), what
qualifies it behind is its last (`qualified?_append_word`) or a `*` (`qualified?_append_star`).

**Forms.**  The form of a text, given what the earlier rules say of it (`Form.of_eq_wrapped` and the
like), and what is known of a text of each form (`Form.fits`).  The form of a text that is written
out is evaluated by `Form.eq_of_same`.

**Steps.**  `parse_append_star`, `parse_append_word`, `parse_append_size` and `parse_functionText`
take one suffix off a text, for any text that the earlier rules leave alone.

**Parameters.**  `EndsInName` says when the last word of a parameter is taken for its name.

**Tables.**  What is said of all qualifiers or of all fixed signatures is decided on the table and
then used for each entry of it (`exists_word_of_leading`, `word_of_trailing`).  A new entry in a
table is checked by these proofs, and the rest of the theory does not look at the entries.
-/

namespace FrameworkBindings.Signature

open Text

/-! ## Vocabulary -/

/-- A text is not in a table if it is none of the keys, compared character by character. -/
lemma lookup_ofList_eq_none_iff {α : Type} {table : List (String × α)} {s : List Char} :
    table.lookup (String.ofList s) = none ↔ ∀ p ∈ table, p.1.toList ≠ s := by
  rw [List.lookup_eq_none_iff]
  refine forall₂_congr fun p _ => ?_
  rw [bne_iff_ne, ne_comm, ne_eq, ne_eq, not_iff_not]
  constructor
  · rintro h; rw [h, String.toList_ofList]
  · rintro h; rw [← h, String.ofList_toList]

lemma preset?_eq_none_iff {s : List Char} : preset? s = none ↔ ∀ p ∈ presets, p.1.toList ≠ s :=
  lookup_ofList_eq_none_iff

lemma primitive?_eq_none_iff {s : List Char} :
    primitive? s = none ↔ ∀ p ∈ primitives, p.1.toList ≠ s :=
  lookup_ofList_eq_none_iff

/-- Squeezing keeps brackets, as only blanks are taken away. -/
lemma mem_squeeze_of_isBracket {s : List Char} {c : Char} (hc : isBracket c = true) (h : c ∈ s) :
    c ∈ squeeze s := by
  have hvisible : isBlank c = false := by
    by_contra hblank
    rw [isBracket_eq_false_of_isBlank (by simpa using hblank)] at hc
    contradiction
  exact (mem_squeeze_iff hvisible).2 h

/-- No fixed signature has a bracket in it.  This sets aside the first rule for all functions and
arrays at once. -/
lemma not_vocabulary_of_bracket {s : List Char} {c : Char} (hc : isBracket c = true) (h : c ∈ s) :
    squeeze s ≠ "void".toList ∧ preset? (squeeze s) = none ∧ primitive? (squeeze s) = none := by
  have hmem := mem_squeeze_of_isBracket hc h
  have hplain : ∀ key : List Char, (∀ d ∈ key, isBracket d = false) → key ≠ squeeze s := by
    rintro key hkey rfl
    exact absurd hc (by simp [hkey c hmem])
  have hpresets : ∀ p ∈ presets, ∀ d ∈ p.1.toList, isBracket d = false := by decide +kernel
  have hprimitives : ∀ p ∈ primitives, ∀ d ∈ p.1.toList, isBracket d = false := by decide +kernel
  refine ⟨Ne.symm (hplain _ (by decide)), preset?_eq_none_iff.2 fun p hp => ?_,
    primitive?_eq_none_iff.2 fun p hp => ?_⟩
  · exact hplain _ (hpresets p hp)
  · exact hplain _ (hprimitives p hp)

/-- What a `*` behind it makes a preset, so that the star is not taken off it. -/
def starred : List (List Char) :=
  ["void".toList, "__strong void".toList, "const void".toList, "char".toList, "NSString".toList]

lemma preset?_append_star {s : List Char} (h : s ∉ starred) : preset? (s ++ [' ', '*']) = none := by
  have hkeys : ∀ p ∈ presets, ∀ t ∈ stripTrailing [' ', '*'] p.1.toList, t ∈ starred := by decide
  refine preset?_eq_none_iff.2 fun p hp heq => h (hkeys p hp s ?_)
  exact stripTrailing_eq_some_iff.2 heq

/-- A preset of several words ends in a star. -/
lemma preset?_append_word {s w : List Char} (hw : ∀ c ∈ w, isWordChar c = true) (hne : w ≠ []) :
    preset? (s ++ ' ' :: w) = none := by
  have hkeys : ∀ p ∈ presets, ' ' ∈ p.1.toList → p.1.toList.getLast? = some '*' := by decide
  refine preset?_eq_none_iff.2 fun p hp heq => ?_
  have hlast : w.getLast? = some '*' := by
    have := hkeys p hp (by simp [heq])
    rwa [heq, List.getLast?_append_cons, List.getLast?_cons_of_ne_nil hne] at this
  exact absurd (hw '*' (List.mem_of_getLast? hlast)) (by simp)

/-! ## Qualifiers -/

/-- The word a text begins with, if it begins with one, and nothing otherwise. -/
def leadWord (s : List Char) : List Char := s.takeWhile isWordChar

/-- What is no word character ends the first word. -/
lemma leadWord_append_cons (s : List Char) {c : Char} (hc : isWordChar c = false)
    (r : List Char) : leadWord (s ++ c :: r) = leadWord s := by
  rw [leadWord, leadWord, List.takeWhile_append]
  split
  · rename_i h
    rw [List.takeWhile_cons_of_neg (by simp [hc]), List.append_nil]
    exact ((List.takeWhile_sublist isWordChar).eq_of_length h).symm
  · rfl

lemma leadWord_eq_self {s : List Char} (h : ∀ c ∈ s, isWordChar c = true) : leadWord s = s := by
  simpa [leadWord] using h

/-- The qualifiers as words, and the star, wherever they stand. -/
def qualifierMarks : List (List Char) := qualifiers.map fun q => trim q.1.text.toList

/-- Whether a qualifier stands behind what it qualifies, as opposed to in front. -/
def Affix.isTrailing : Affix → Bool
  | leading _ => false
  | trailing _ => true

/-- The words that qualify in front, without the blank that ends them in the table. -/
def leadingMarks : List (List Char) :=
  (qualifiers.filter (! ·.1.isTrailing)).map fun q => trim q.1.text.toList

lemma notMem_leadingMarks {w : List Char} (h : w ∉ qualifierMarks) : w ∉ leadingMarks :=
  fun hmem => h (List.map_subset _ (List.filter_subset_self qualifiers) hmem)

/-- A qualifier is taken off one of the ends, and what is left is the rest of the text. -/
lemma exists_of_qualified? {s inner : List Char} {wrap : Wrap}
    (h : qualified? s = some (wrap, inner)) :
    ∃ affix, (affix, wrap) ∈ qualifiers ∧
      (s = affix.text.toList ++ inner ∨ s = inner ++ affix.text.toList) := by
  obtain ⟨⟨affix, _⟩, hq, hstrip⟩ := List.exists_of_findSome?_eq_some h
  obtain ⟨_, hrest, heq⟩ := Option.map_eq_some_iff.1 hstrip
  cases heq
  refine ⟨affix, hq, ?_⟩
  cases affix with
  | leading mark => exact .inl (stripLeading_eq_some_iff.1 hrest)
  | trailing mark =>
      simp only [Affix.strip, Option.filter_eq_some_iff] at hrest
      exact .inr (stripTrailing_eq_some_iff.1 hrest.1)

/-- A qualifier stands in front of the text, with the blank that belongs to it. -/
def Led (s : List Char) : Prop :=
  ∃ q wrap, (.leading q, wrap) ∈ qualifiers ∧ q.toList <+: s

/-- The words of the qualifiers in front, with a blank behind each. -/
lemma exists_word_of_leading {q : String} {wrap : Wrap} (hq : (.leading q, wrap) ∈ qualifiers) :
    ∃ w, q.toList = w ++ [' '] ∧ w ≠ [] ∧ (∀ c ∈ w, isWordChar c = true) ∧ w ∈ leadingMarks := by
  have htable : ∀ q ∈ qualifiers, q.1.isTrailing = false →
      q.1.text.toList = q.1.text.toList.dropLast ++ [' '] ∧ q.1.text.toList.dropLast ≠ [] ∧
        isAsciiWord q.1.text.toList.dropLast = true ∧
        q.1.text.toList.dropLast ∈ leadingMarks := by decide +kernel
  obtain ⟨hq, hne, hword, hmem⟩ := htable _ hq rfl
  exact ⟨_, hq, hne, isWordChar_of_isAsciiWord hword, hmem⟩

lemma notMem_leading {q : String} {wrap : Wrap} {c : Char} (hq : (.leading q, wrap) ∈ qualifiers)
    (hc : isWordChar c = false) (hblank : c ≠ ' ') : c ∉ q.toList := by
  obtain ⟨w, hword, -, hw, -⟩ := exists_word_of_leading hq
  rw [hword, List.mem_append, List.mem_singleton]
  rintro (hmem | rfl)
  · rw [hw c hmem] at hc
    contradiction
  · exact hblank rfl

/-- The qualifiers behind are the star and words, none of which can be the name of a parameter. -/
lemma word_of_trailing {w : String} {wrap : Wrap} (hw : (.trailing w, wrap) ∈ qualifiers) :
    w = "*" ∨ w.toList ≠ [] ∧ (∀ c ∈ w.toList, isWordChar c = true) ∧
      w.toList.head?.any isWordChar = true ∧ w ∈ qualifierWords := by
  have htable : ∀ q ∈ qualifiers, q.1.isTrailing = true → q.1.text = "*" ∨
      q.1.text.toList ≠ [] ∧ isAsciiWord q.1.text.toList = true ∧ q.1.text ∈ qualifierWords := by
    decide +kernel
  refine (htable _ hw rfl).imp_right fun ⟨(hne : w.toList ≠ []), hascii, hmem⟩ => ?_
  have hword : ∀ c ∈ w.toList, isWordChar c = true := isWordChar_of_isAsciiWord hascii
  have hhead : w.toList.head?.any isWordChar = true := by
    rw [List.head?_eq_some_head hne]
    exact hword _ (List.head_mem hne)
  exact ⟨hne, hword, hhead, hmem⟩

/-- A qualifier in front is the first word of the text. -/
lemma not_led {s : List Char} (h : leadWord s ∉ leadingMarks) : ¬ Led s := by
  rintro ⟨q, wrap, hq, rest, rfl⟩
  obtain ⟨w, hword, -, hw, hmem⟩ := exists_word_of_leading hq
  refine h ?_
  rwa [hword, List.append_assoc, List.singleton_append, leadWord_append_cons w (by simp),
    leadWord_eq_self hw]

/-- No qualifier stands in front of a word, as one ends in a blank and a word has none. -/
lemma not_led_of_word {w : List Char} (hw : ∀ c ∈ w, isWordChar c = true) : ¬ Led w := by
  rintro ⟨q, wrap, hq, rest, rfl⟩
  obtain ⟨v, hword, -⟩ := exists_word_of_leading hq
  exact absurd (hw ' ' (by simp [hword])) (by simp)

/-- A bracket ends what can stand in front: no qualifier reaches over it. -/
lemma led_append_iff {s : List Char} {c : Char} (hc : isBracket c = true) (r : List Char) :
    Led (s ++ c :: r) ↔ Led s := by
  constructor
  · rintro ⟨q, wrap, hq, hprefix⟩
    refine ⟨q, wrap, hq, ?_⟩
    have hword : isWordChar c = false := by
      rw [Bool.eq_false_iff]
      intro h
      rw [isBracket_eq_false_of_isWordChar h] at hc
      contradiction
    have hblank : c ≠ ' ' := by
      rintro rfl
      exact absurd hc (by decide)
    exact prefix_of_append_mark (notMem_leading hq hword hblank) hprefix
  · rintro ⟨q, wrap, hq, hprefix⟩
    exact ⟨q, wrap, hq, hprefix.trans (List.prefix_append s _)⟩

lemma strip_leading_eq_none {s : List Char} (h : ¬ Led s) {q : Affix × Wrap}
    (hq : q ∈ qualifiers) (hlead : q.1.isTrailing = false) : q.1.strip s = none := by
  obtain ⟨affix, wrap⟩ := q
  cases affix with
  | trailing mark => simp [Affix.isTrailing] at hlead
  | leading mark =>
      refine Option.eq_none_iff_forall_ne_some.2 fun rest hrest => h ⟨mark, wrap, hq, rest, ?_⟩
      exact (stripLeading_eq_some_iff.1 hrest).symm

/-- Without a qualifier in front only those behind count, in the order of the table. -/
lemma qualified?_eq_findSome? {s : List Char} (h : ¬ Led s) :
    qualified? s = (qualifiers.filter (·.1.isTrailing)).findSome? fun q =>
      (q.1.strip s).map fun inner => (q.2, inner) := by
  have hskip : ∀ qs ⊆ qualifiers,
      (qs.findSome? fun q => (q.1.strip s).map fun inner => (q.2, inner)) =
        (qs.filter (·.1.isTrailing)).findSome? fun q =>
          (q.1.strip s).map fun inner => (q.2, inner) := by
    intro qs hqs
    induction qs with
    | nil => rfl
    | cons q qs ih =>
        have ih := ih fun p hp => hqs (by simp [hp])
        cases hq : q.1.isTrailing with
        | true => simp [List.findSome?_cons, hq, ih]
        | false =>
            have hnone := strip_leading_eq_none h (hqs List.mem_cons_self) hq
            simp [hq, hnone, ih]
  exact hskip qualifiers (List.Subset.refl _)

/-- A word behind a text is a qualifier as a whole or not at all, since it must not be the end of a
longer word. -/
lemma strip_trailing_of_word {mark : String} {s w : List Char} {b : Char}
    (hmark : ∀ c ∈ mark.toList, isWordChar c = true) (hne : mark.toList ≠ [])
    (hb : isWordChar b = false) (hw : ∀ c ∈ w, isWordChar c = true) :
    (Affix.trailing mark).strip (s ++ b :: w) =
      if w = mark.toList then some (s ++ [b]) else none := by
  have hhead : mark.toList.head?.any isWordChar = true := by
    obtain ⟨c, r, hcr⟩ := List.exists_cons_of_ne_nil hne
    simpa [hcr] using hmark c (by simp [hcr])
  split
  · rename_i heq
    have hstrip : stripTrailing mark.toList (s ++ b :: w) = some (s ++ [b]) :=
      stripTrailing_eq_some_iff.2 (by simp [heq])
    simp [Affix.strip, hstrip, hhead, hb]
  · rename_i hne'
    refine Option.filter_eq_none_iff.2 fun rest hrest hboundary => hne' ?_
    have hsplit := stripTrailing_eq_some_iff.1 hrest
    rw [hhead, Bool.true_and, Bool.not_eq_true'] at hboundary
    rcases List.append_eq_append_iff.1 hsplit with ⟨m, hrest', hmark'⟩ | ⟨m, hs', hw'⟩
    · cases m with
      | nil =>
          have hmem : b ∈ mark.toList := by
            rw [List.nil_append] at hmark'
            simp [← hmark']
          exact absurd (hmark b hmem) (by simp [hb])
      | cons d m =>
          obtain ⟨rfl, rfl⟩ : b = d ∧ w = m ++ mark.toList := by simpa using hmark'
          cases m using List.reverseRecOn with
          | nil => rfl
          | append_singleton m e =>
              have hlast : rest.getLast? = some e := by
                rw [hrest', ← List.cons_append, ← List.append_assoc, List.getLast?_concat]
              rw [hlast] at hboundary
              exact absurd hboundary (by simp [hw e (by simp)])
    · have hmem : b ∈ mark.toList := by simp [hw']
      exact absurd (hmark b hmem) (by simp [hb])

/-- A star does not hide behind a word, so behind one no star is taken off. -/
lemma strip_star_of_word {s w : List Char} {b : Char} (hw : ∀ c ∈ w, isWordChar c = true)
    (hne : w ≠ []) : (Affix.trailing "*").strip (s ++ b :: w) = none := by
  refine Option.filter_eq_none_iff.2 fun rest hrest _ => ?_
  have hlast : w.getLast? = some '*' := by
    have := congrArg List.getLast? (stripTrailing_eq_some_iff.1 hrest)
    rwa [List.getLast?_append_cons, List.getLast?_cons_of_ne_nil hne,
      show "*".toList = ['*'] from rfl, List.getLast?_concat] at this
  exact absurd (hw '*' (List.mem_of_getLast? hlast)) (by simp)

/-- What a word qualifies when it stands behind. -/
def trailingWord? (w : List Char) : Option Wrap :=
  (qualifiers.find? fun q => q.1.isTrailing && q.1.text.toList == w).map (·.2)

/-- Behind a text only its last word qualifies it, and only if nothing does so in front. -/
lemma qualified?_append_word {s w : List Char} {b : Char} (h : leadWord s ∉ qualifierMarks)
    (hb : isWordChar b = false) (hw : ∀ c ∈ w, isWordChar c = true) (hne : w ≠ []) :
    qualified? (s ++ b :: w) = (trailingWord? w).map fun wrap => (wrap, s ++ [b]) := by
  have hstrip : ∀ q ∈ qualifiers, q.1.isTrailing = true →
      q.1.strip (s ++ b :: w) = if q.1.text.toList == w then some (s ++ [b]) else none := by
    intro q hq htrail
    obtain ⟨affix, wrap⟩ := q
    cases affix with
    | leading mark => simp [Affix.isTrailing] at htrail
    | trailing mark =>
        rcases word_of_trailing hq with rfl | ⟨hmne, hword, -⟩
        · have hw' : ¬ "*".toList = w := by rintro rfl; exact absurd (hw '*' (by decide)) (by simp)
          rw [strip_star_of_word hw hne, if_neg (by simpa [Affix.text] using hw')]
        · refine (strip_trailing_of_word hword hmne hb hw).trans ?_
          simp only [Affix.text, beq_iff_eq, eq_comm (a := w)]
  have hfind : ∀ qs ⊆ qualifiers,
      ((qs.filter (·.1.isTrailing)).findSome? fun q =>
          (q.1.strip (s ++ b :: w)).map fun inner => (q.2, inner)) =
        ((qs.find? fun q => q.1.isTrailing && q.1.text.toList == w).map (·.2)).map
          fun wrap => (wrap, s ++ [b]) := by
    intro qs hqs
    induction qs with
    | nil => rfl
    | cons q qs ih =>
        have ih := ih fun p hp => hqs (by simp [hp])
        cases htrail : q.1.isTrailing with
        | false => simpa [htrail] using ih
        | true =>
            have hq := hstrip q (hqs List.mem_cons_self) htrail
            cases hmatch : q.1.text.toList == w with
            | true => simp [htrail, hq, hmatch]
            | false =>
                rw [hmatch] at hq
                simpa [htrail, hq, hmatch, List.findSome?_cons] using ih
  have hlead : ¬ Led (s ++ b :: w) := by
    refine not_led ?_
    rw [leadWord_append_cons s hb]
    exact notMem_leadingMarks h
  rw [qualified?_eq_findSome? hlead, hfind _ (List.Subset.refl _)]
  rfl

/-- A mark that ends otherwise than the text is not behind it. -/
lemma strip_trailing_eq_none {mark : String} {s : List Char} {c : Char}
    (hmark : ∀ d ∈ mark.toList.getLast?, d ≠ c) (hne : mark.toList ≠ []) :
    (Affix.trailing mark).strip (s ++ [c]) = none := by
  refine Option.filter_eq_none_iff.2 fun rest hrest _ => ?_
  have hlast : some c = mark.toList.getLast? := by
    have := congrArg List.getLast? (stripTrailing_eq_some_iff.1 hrest)
    rwa [List.getLast?_concat, List.getLast?_append_of_ne_nil _ hne] at this
  exact hmark c hlast.symm rfl

/-- A star is taken off before any qualifier behind it is looked for. -/
lemma qualified?_append_star {s : List Char} (h : leadWord s ∉ qualifierMarks) :
    qualified? (s ++ ['*']) = some (.pointer, s) := by
  have hstar : (Affix.trailing "*").strip (s ++ ['*']) = some s := by
    have hstrip : stripTrailing ['*'] (s ++ ['*']) = some s := stripTrailing_eq_some_iff.2 rfl
    simp [Affix.strip, hstrip]
  have hlead : ¬ Led (s ++ ['*']) := by
    refine not_led ?_
    rw [leadWord_append_cons s (by simp)]
    exact notMem_leadingMarks h
  have htrailing : qualifiers.filter (·.1.isTrailing) = [
      (.trailing "_Nullable", .nullable), (.trailing "__nullable", .nullable),
      (.trailing "*", .pointer), (.trailing "__nonnull", .nonnull),
      (.trailing "_Nonnull", .nonnull), (.trailing "const", .const),
      (.trailing "__null_unspecified", .silent), (.trailing "_Null_unspecified", .silent)] := rfl
  rw [qualified?_eq_findSome? hlead, htrailing, List.findSome?_cons,
    strip_trailing_eq_none (by decide) (by decide), Option.map_none, List.findSome?_cons,
    strip_trailing_eq_none (by decide) (by decide), Option.map_none, List.findSome?_cons, hstar,
    Option.map_some]

/-- A closing bracket is no qualifier, so only one in front could be taken off. -/
lemma qualified?_append_bracket {s : List Char} {c : Char} (h : ¬ Led s)
    (hc : isBracket c = true) : qualified? (s ++ [c]) = none := by
  have hmarks : ∀ q ∈ qualifiers, q.1.text.toList ≠ [] ∧
      ∀ d ∈ q.1.text.toList.getLast?, isBracket d = false := by decide
  rw [qualified?_eq_findSome? (by rwa [led_append_iff hc]), List.findSome?_eq_none_iff]
  intro q hq
  obtain ⟨hq, htrail⟩ := List.mem_filter.1 hq
  obtain ⟨affix, wrap⟩ := q
  obtain ⟨hne, hlast⟩ := hmarks _ hq
  cases affix with
  | leading mark => simp [Affix.isTrailing] at htrail
  | trailing mark =>
      have hstrip : (Affix.trailing mark).strip (s ++ [c]) = none := by
        refine strip_trailing_eq_none (fun d hd => ?_) hne
        rintro rfl
        exact absurd hc (by simp [hlast d hd])
      simp [hstrip]

/-- A single word is not qualified, not even by itself: something has to be left. -/
lemma qualified?_of_word {w : List Char} (hw : ∀ c ∈ w, isWordChar c = true) :
    qualified? w = none := by
  rw [qualified?_eq_findSome? (not_led_of_word hw), List.findSome?_eq_none_iff]
  intro q hq
  obtain ⟨hq, htrail⟩ := List.mem_filter.1 hq
  obtain ⟨affix, wrap⟩ := q
  cases affix with
  | leading mark => simp [Affix.isTrailing] at htrail
  | trailing mark =>
      rw [Option.map_eq_none_iff, Affix.strip, Option.filter_eq_none_iff]
      intro rest hrest hboundary
      have hw' : w = rest ++ mark.toList := stripTrailing_eq_some_iff.1 hrest
      rcases word_of_trailing hq with rfl | ⟨-, -, hhead, -⟩
      · exact absurd (hw '*' (by simp [hw'])) (by simp)
      · have hrest : rest.getLast?.all isWordChar = true := by
          rw [Option.all_eq_true]
          intro c hc
          exact hw c (by simp [hw', List.mem_of_getLast? hc])
        simp [hhead, hrest] at hboundary

/-! ## Steps -/

/-- What stands around a signature is not read, since the reader trims first. -/
lemma parse_trim (s : List Char) : parse (trim s) = parse s := by
  rw [parse_eq, parse_eq s, trim_trim]

lemma parse_of_trim_eq {s s' : List Char} (h : trim s = trim s') : parse s = parse s' := by
  rw [← parse_trim s, h, parse_trim]

lemma parse_append_blank (s : List Char) {b : Char} (hb : isBlank b = true) :
    parse (s ++ [b]) = parse s :=
  parse_of_trim_eq (trim_append_blank hb)

/-- A text that is not in balance is malformed: the vocabulary knows no bracket, so no rule comes
before. -/
lemma Form.of_eq_malformed {s : List Char} {fault : Fault} (h : imbalance? s = some fault) :
    Form.of s = .malformed fault := by
  obtain ⟨c, hmem, hc⟩ := exists_bracket_of_imbalance h
  obtain ⟨hvoid, hpreset, -⟩ := not_vocabulary_of_bracket hc hmem
  simp only [Form.of, if_neg hvoid, hpreset, h]

/-- A preset comes before all else; none is out of balance, as none has a bracket. -/
lemma Form.of_eq_preset {s : List Char} {type : NativeType} (h : preset? (squeeze s) = some type) :
    Form.of s = .preset type := by
  have hvoid : squeeze s ≠ "void".toList := by
    intro hvoid
    rw [hvoid, show preset? "void".toList = none from rfl] at h
    contradiction
  simp only [Form.of, if_neg hvoid, h]

/-- The form of a text in balance that the vocabulary does not know: a function, if it has the parts
of one, else a qualified text, else a plain one. -/
lemma Form.of_eq_function {s result : List Char} {params : List (Param (List Char))}
    (hvoid : squeeze s ≠ "void".toList) (hpreset : preset? (squeeze s) = none)
    (hbalance : imbalance? s = none) (hfunction : functionParts? s = some (result, params)) :
    Form.of s = .function result params := by
  simp only [Form.of, if_neg hvoid, hpreset, hbalance, hfunction]

lemma Form.of_eq_wrapped {s inner : List Char} {wrap : Wrap} (hvoid : squeeze s ≠ "void".toList)
    (hpreset : preset? (squeeze s) = none) (hbalance : imbalance? s = none)
    (hfunction : functionParts? s = none) (hqualified : qualified? s = some (wrap, inner)) :
    Form.of s = .wrapped wrap inner := by
  simp only [Form.of, if_neg hvoid, hpreset, hbalance, hfunction, hqualified]

lemma Form.of_eq_plain {s : List Char} (hvoid : squeeze s ≠ "void".toList)
    (hpreset : preset? (squeeze s) = none) (hbalance : imbalance? s = none)
    (hfunction : functionParts? s = none) (hqualified : qualified? s = none) :
    Form.of s = Form.ofPlain s := by
  simp only [Form.of, if_neg hvoid, hpreset, hbalance, hfunction, hqualified]

/-- Whether two forms are the same; a preset is never found to be, as its type is not compared. -/
def Form.same : Form → Form → Bool
  | .void, .void | .named, .named | .unrecognized, .unrecognized => true
  | .malformed fault, .malformed fault' => fault = fault'
  | .function result params, .function result' params' => result = result' ∧ params = params'
  | .wrapped wrap inner, .wrapped wrap' inner' => wrap = wrap' ∧ inner = inner'
  | .array elem size, .array elem' size' => elem = elem' ∧ size = size'
  | .primitive name, .primitive name' => name = name'
  | _, _ => false

/-- **Evaluating a form.**  The form of a text that is written out is found by this lemma, or by
`Form.of_eq_preset` for a preset.  The comparison is decided by the kernel, which unfolds the rules
on all of the text without a limit on the depth. -/
lemma Form.eq_of_same {form form' : Form} (h : form.same form' = true) : form = form' := by
  cases form <;> cases form' <;> simp_all [Form.same]

/-- What is known of a text of each form: that its own rule applies.  What the earlier rules said is
forgotten, as few proofs want it. -/
inductive Form.Fits (s : List Char) : Form → Prop
  | void (h : squeeze s = "void".toList) : Fits s .void
  | preset {type : NativeType} (h : preset? (squeeze s) = some type) : Fits s (.preset type)
  | malformed {fault : Fault} (h : imbalance? s = some fault) : Fits s (.malformed fault)
  | function {result : List Char} {params : List (Param (List Char))}
      (h : functionParts? s = some (result, params)) : Fits s (.function result params)
  | wrapped {wrap : Wrap} {inner : List Char} (h : qualified? s = some (wrap, inner)) :
      Fits s (.wrapped wrap inner)
  | array {inner elem size : List Char} (hend : stripTrailing [']'] s = some inner)
      (hopen : splitAtLast '[' inner = some (elem, size)) : Fits s (.array elem (trim size))
  | unopened {inner : List Char} (hend : stripTrailing [']'] s = some inner)
      (hopen : splitAtLast '[' inner = none) : Fits s (.malformed .brackets)
  | primitive {name : String} (h : primitive? (squeeze s) = some name) : Fits s (.primitive name)
  | named (h : isIdentifier s = true) : Fits s .named
  | unrecognized : Fits s .unrecognized

/-- **Each form is found by its own rule**, which is how a proof by cases on the form gets hold of
the text. -/
lemma Form.fits (s : List Char) : Form.Fits s (Form.of s) := by
  unfold Form.of
  split
  · rename_i h
    exact .void h
  split
  · rename_i h
    exact .preset h
  split
  · rename_i h
    exact .malformed h
  split
  · rename_i h
    exact .function h
  split
  · rename_i h
    exact .wrapped h
  unfold Form.ofPlain
  split
  · rename_i hend
    split
    · rename_i hopen
      exact .array hend hopen
    · rename_i hopen
      exact .unopened hend hopen
  · split
    · rename_i h
      exact .primitive h
    · split
      · rename_i h
        exact .named h
      · exact .unrecognized

lemma Form.qualified?_of_eq_wrapped {s inner : List Char} {wrap : Wrap}
    (h : Form.of s = .wrapped wrap inner) : qualified? s = some (wrap, inner) := by
  have hfits := Form.fits s
  rw [h] at hfits
  cases hfits with
  | wrapped h => exact h

/-- Only a closing parenthesis at the end makes a function. -/
lemma functionParts?_eq_none {s : List Char} (h : s.getLast? ≠ some ')') :
    functionParts? s = none := by
  rw [functionParts?, if_neg h]

/-- A star behind a text makes a pointer of it, unless it completes a preset or something in front
goes first. -/
theorem parse_append_star {s : List Char} (hlead : leadWord s ∉ qualifierMarks)
    (htrim : trim s = s) (hwords : words s ≠ []) (hstar : squeeze s ∉ starred)
    (hbalance : imbalance? (s ++ [' ', '*']) = none) :
    parse (s ++ [' ', '*']) = (parse s).map fun t => some (.pointer (someType t)) := by
  have hne : s ≠ [] := by rintro rfl; exact hwords rfl
  have hsqueeze : squeeze (s ++ [' ', '*']) = squeeze s ++ [' ', '*'] :=
    squeeze_append_blank (by decide) hwords (by decide)
  have hvoid : squeeze (s ++ [' ', '*']) ≠ "void".toList := by
    intro h
    have := congrArg List.getLast? (hsqueeze.symm.trans h)
    simp at this
  have hpreset : preset? (squeeze (s ++ [' ', '*'])) = none := by
    rw [hsqueeze]
    exact preset?_append_star hstar
  have hqualified : qualified? (s ++ [' ', '*']) = some (.pointer, s ++ [' ']) := by
    rw [show s ++ [' ', '*'] = (s ++ [' ']) ++ ['*'] by simp]
    exact qualified?_append_star (by rwa [leadWord_append_cons s (by simp)])
  have hform : Form.of (s ++ [' ', '*']) = .wrapped .pointer (s ++ [' ']) :=
    Form.of_eq_wrapped hvoid hpreset hbalance (functionParts?_eq_none (by simp)) hqualified
  rw [parse_eq, trim_append_eq_self htrim hne ⟨'*', rfl, by decide⟩, hform, Form.interpret,
    parse_append_blank s (by decide)]
  rfl

/-- A qualifying word behind a text wraps it, unless something in front goes first. -/
theorem parse_append_word {s w : List Char} (wrap : Wrap) (hlead : leadWord s ∉ qualifierMarks)
    (htrim : trim s = s) (hwords : words s ≠ []) (hw : ∀ c ∈ w, isWordChar c = true)
    (hwrap : trailingWord? w = some wrap) (hbalance : imbalance? (s ++ ' ' :: w) = none) :
    parse (s ++ ' ' :: w) = (parse s).map fun t => some (wrap.apply (someType t)) := by
  have hne : s ≠ [] := by rintro rfl; exact hwords rfl
  have hwne : w ≠ [] := by
    rintro rfl
    rw [show trailingWord? [] = none by decide] at hwrap
    contradiction
  have hvisible : ∀ c ∈ w, isBlank c = false := fun c hc =>
    isBlank_eq_false_of_isWordChar (hw c hc)
  have hsqueeze : squeeze (s ++ ' ' :: w) = squeeze s ++ ' ' :: w := by
    rw [squeeze_append_blank (by decide) hwords (by simp [words_of_visible hwne hvisible]),
      squeeze_of_visible hvisible]
  have hvoid : squeeze (s ++ ' ' :: w) ≠ "void".toList := by
    intro h
    have : ' ' ∈ "void".toList := by rw [← hsqueeze.symm.trans h]; simp
    exact absurd this (by decide)
  obtain ⟨v, c, rfl⟩ := (List.eq_nil_or_concat' w).resolve_left hwne
  have hc : isWordChar c = true := hw c (by simp)
  have hparen : (s ++ ' ' :: (v ++ [c])).getLast? ≠ some ')' := by
    rw [← List.cons_append, ← List.append_assoc, List.getLast?_concat]
    rintro ⟨⟩
    exact absurd hc (by simp)
  have hpreset : preset? (squeeze (s ++ ' ' :: (v ++ [c]))) = none := by
    rw [hsqueeze]
    exact preset?_append_word hw hwne
  have hqualified : qualified? (s ++ ' ' :: (v ++ [c])) = some (wrap, s ++ [' ']) := by
    rw [qualified?_append_word hlead (by simp) hw hwne, hwrap, Option.map_some]
  have hform : Form.of (s ++ ' ' :: (v ++ [c])) = .wrapped wrap (s ++ [' ']) :=
    Form.of_eq_wrapped hvoid hpreset hbalance (functionParts?_eq_none hparen) hqualified
  have hlast : ∃ d ∈ (' ' :: (v ++ [c])).getLast?, isBlank d = false :=
    ⟨c, by rw [← List.cons_append, List.getLast?_concat]; rfl, hvisible c (by simp)⟩
  rw [parse_eq, trim_append_eq_self htrim hne hlast, hform, Form.interpret,
    parse_append_blank s (by decide)]

lemma splitAtLast_append {mark : Char} {s r : List Char} (h : mark ∉ r) :
    splitAtLast mark (s ++ mark :: r) = some (s, r) := by
  have hskip : ∀ c ∈ r.reverse, (c != mark) = true := by
    intro c hc
    simpa using fun heq : c = mark => h (by simpa [heq] using hc)
  rw [splitAtLast, List.reverse_append, List.reverse_cons, List.append_assoc,
    List.dropWhile_append_of_pos hskip, List.takeWhile_append_of_pos hskip]
  simp

/-- A size behind a text makes an array of it.  The size may hold anything but an opening bracket,
since the last of these is looked for. -/
theorem parse_append_size {s size : List Char} (hlead : ¬ Led s)
    (hhead : ∀ c ∈ s.head?, isBlank c = false) (hne : s ≠ []) (hsize : '[' ∉ size)
    (hbalance : imbalance? (s ++ ('[' :: size ++ [']'])) = none) :
    parse (s ++ ('[' :: size ++ [']'])) =
      (parse s).map fun t => some (.array (someType t) (String.ofList (trim size))) := by
  obtain ⟨hvoid, hpreset, -⟩ := not_vocabulary_of_bracket (c := '[') (by decide)
    (show '[' ∈ s ++ ('[' :: size ++ [']']) by simp)
  have hlead' : ¬ Led (s ++ '[' :: size) := by rwa [led_append_iff (by decide)]
  have hinner : stripTrailing [']'] (s ++ '[' :: size ++ [']']) = some (s ++ '[' :: size) :=
    stripTrailing_eq_some_iff.2 rfl
  have hform : Form.of (s ++ ('[' :: size ++ [']'])) = .array s (trim size) := by
    rw [← List.append_assoc] at hvoid hpreset hbalance ⊢
    rw [Form.of_eq_plain hvoid hpreset hbalance
      (functionParts?_eq_none (by rw [List.getLast?_concat]; simp))
      (qualified?_append_bracket hlead' (by decide)), Form.ofPlain, hinner]
    simp [splitAtLast_append hsize]
  have htrim : trim (s ++ ('[' :: size ++ [']'])) = s ++ ('[' :: size ++ [']']) := by
    refine trim_eq_self (by rwa [List.head?_append_of_ne_nil _ hne]) fun c hc => ?_
    rw [← List.append_assoc, List.getLast?_concat] at hc
    cases hc
    decide
  rw [parse_eq, htrim, hform, Form.interpret]

/-- The text of a function pointer from its result and its parameters, with the usual blank. -/
def functionText (result params : List Char) : List Char :=
  result ++ (" (*)(".toList ++ params ++ [')'])

lemma getLast?_functionText (result params : List Char) :
    (functionText result params).getLast? = some ')' := by
  rw [functionText, ← List.append_assoc, List.getLast?_concat]

/-- A function pointer is read by its result and its parameters, if the result has no parenthesis in
which a marker could be found earlier. -/
theorem parse_functionText {s inner : List Char} {result : Option NativeType}
    {params : List (Param NativeType)} (htrim : trim s = s) (hne : s ≠ []) (hparen : '(' ∉ s)
    (hdepth : depth s = 0) (hbalance : imbalance? (functionText s inner) = none)
    (hresult : parse s = .ok result)
    (hparams : readParams parse ((parameterTexts inner).map readParameter) = .ok params) :
    parse (functionText s inner) = .ok (some (.function result params)) := by
  obtain ⟨hvoid, hpreset, -⟩ := not_vocabulary_of_bracket (c := '(') (by decide)
    (show '(' ∈ functionText s inner by simp [functionText])
  have hmarker : splitAtMarker 0 ("(*)(".toList ++ inner ++ [')']) = some ([], inner ++ [')']) := by
    simp [splitAtMarker, afterMarker?, functionMarkers, stripLeading]
  have hsplit : splitAtMarker 0 (functionText s inner) = some (s ++ [' '], inner ++ [')']) := by
    rw [functionText, show s ++ (" (*)(".toList ++ inner ++ [')']) =
      (s ++ [' ']) ++ ("(*)(".toList ++ inner ++ [')']) by simp,
      splitAtMarker_append_of_no_paren (by simpa using hparen), depth_append, hdepth,
      show (0 : Int) + (0 + depth [' ']) = 0 from rfl, hmarker]
    simp
  have hform : Form.of (functionText s inner) =
      .function (s ++ [' ']) ((parameterTexts inner).map readParameter) := by
    refine Form.of_eq_function hvoid hpreset hbalance ?_
    rw [functionParts?, if_pos (getLast?_functionText s inner), hsplit]
    simp
  have htext : trim (functionText s inner) = functionText s inner := by
    exact trim_append_eq_self htrim hne ⟨')', by rw [List.getLast?_concat]; rfl, by decide⟩
  rw [parse_eq, htext, hform, Form.interpret, parse_append_blank s (by decide), hresult]
  simp only [hparams]
  rfl

/-- A plain word is a name: no rule but the last but one applies. -/
theorem parse_of_word {w : List Char} (hw : ∀ c ∈ w, isWordChar c = true) (hne : w ≠ [])
    (hvoid : w ≠ "void".toList) (hpreset : preset? w = none) (hprimitive : primitive? w = none) :
    parse w = .ok (some (.named (String.ofList w))) := by
  have hvisible : ∀ c ∈ w, isBlank c = false := fun c hc =>
    isBlank_eq_false_of_isWordChar (hw c hc)
  have hplain : ∀ c ∈ w, isBracket c = false := fun c hc =>
    isBracket_eq_false_of_isWordChar (hw c hc)
  have hlast : ∀ c ∈ w.getLast?, isWordChar c = true := fun c hc =>
    hw c (List.mem_of_getLast? hc)
  have hparen : w.getLast? ≠ some ')' := fun h => absurd (hlast ')' h) (by simp)
  have hbracket : stripTrailing [']'] w = none := by
    refine Option.eq_none_iff_forall_ne_some.2 fun rest hrest => ?_
    have hmem : ']' ∈ w := by simp [stripTrailing_eq_some_iff.1 hrest]
    exact absurd (hw ']' hmem) (by simp)
  have htrim : trim w = w :=
    trim_eq_self (fun c hc => hvisible c (List.mem_of_head? hc)) fun c hc =>
      hvisible c (List.mem_of_getLast? hc)
  have hsqueeze : squeeze w = w := squeeze_of_visible hvisible
  have hform : Form.of w = .named := by
    rw [Form.of_eq_plain (by rwa [hsqueeze]) (by rwa [hsqueeze])
      (Nested.of_plain hplain).imbalance?_eq_none (functionParts?_eq_none hparen)
      (qualified?_of_word hw), Form.ofPlain, hbracket, hsqueeze, hprimitive]
    simpa [isIdentifier, hne] using hw
  rw [parse_eq, htrim, hform, Form.interpret]

/-- The primitive types are read as what the table says. -/
theorem parse_of_primitive {key name : String} (h : (key, name) ∈ primitives) :
    parse key.toList = .ok (some (.primitive name)) := by
  have htable : ∀ p ∈ primitives, trim p.1.toList = p.1.toList ∧
      squeeze p.1.toList ≠ "void".toList ∧ (preset? (squeeze p.1.toList)).isNone = true ∧
      imbalance? p.1.toList = none ∧ (functionParts? p.1.toList).isNone = true ∧
      qualified? p.1.toList = none ∧ stripTrailing [']'] p.1.toList = none ∧
      primitive? (squeeze p.1.toList) = some p.2 := by decide +kernel
  obtain ⟨htrim, hvoid, hpreset, hbalance, hfunction, hqualified, hbracket, hprimitive⟩ :=
    htable _ h
  have hform : Form.of key.toList = .primitive name := by
    rw [Form.of_eq_plain hvoid (Option.isNone_iff_eq_none.1 hpreset) hbalance
      (Option.isNone_iff_eq_none.1 hfunction) hqualified, Form.ofPlain, hbracket, hprimitive]
  rw [parse_eq, htrim, hform, Form.interpret]

/-! ## Parameters -/

/-- The word a text ends with, if it ends with one. -/
def lastWord (s : List Char) : List Char := (s.reverse.takeWhile isWordChar).reverse

/-- What stands in front of the last word. -/
def frontOf (s : List Char) : List Char := (s.reverse.dropWhile isWordChar).reverse

lemma frontOf_append_lastWord (s : List Char) : frontOf s ++ lastWord s = s := by
  rw [frontOf, lastWord, ← List.reverse_append, List.takeWhile_append_dropWhile,
    List.reverse_reverse]

lemma isWordChar_of_mem_lastWord {s : List Char} {c : Char} (h : c ∈ lastWord s) :
    isWordChar c = true :=
  List.mem_takeWhile_imp (List.mem_reverse.1 h)

/-- What is no word character begins the last word. -/
lemma lastWord_append {s w : List Char} (hw : ∀ c ∈ w, isWordChar c = true)
    (hs : ∀ c ∈ s.getLast?, isWordChar c = false) : lastWord (s ++ w) = w :=
  rtakeWhile_append hw hs

lemma frontOf_append {s w : List Char} (hw : ∀ c ∈ w, isWordChar c = true)
    (hs : ∀ c ∈ s.getLast?, isWordChar c = false) : frontOf (s ++ w) = s := by
  have hsplit := frontOf_append_lastWord (s ++ w)
  rw [lastWord_append hw hs] at hsplit
  exact List.append_cancel_right hsplit

lemma frontOf_of_word {w : List Char} (hw : ∀ c ∈ w, isWordChar c = true) : frontOf w = [] :=
  frontOf_append (s := []) hw (by simp)

/-- The last word of the parameter is taken for its name: the whole means nothing by itself, the
word is no qualifier, and there is a type in front. -/
structure EndsInName (s : List Char) : Prop where
  not_preset : preset? (squeeze s) = none
  not_primitive : primitive? (squeeze s) = none
  word_ne_nil : lastWord s ≠ []
  not_qualifier : String.ofList (lastWord s) ∉ qualifierWords
  front_ne_nil : trim (frontOf s) ≠ []

lemma splitName_eq (s : List Char) : splitName s =
    if (primitive? (squeeze s)).isSome || (preset? (squeeze s)).isSome then ⟨"", s⟩
    else if (lastWord s).isEmpty || (trim (frontOf s)).isEmpty ||
      qualifierWords.contains (String.ofList (lastWord s)) then ⟨"", s⟩
    else ⟨String.ofList (lastWord s), trim (frontOf s)⟩ :=
  rfl

lemma splitName_of_endsInName {s : List Char} (h : EndsInName s) :
    splitName s = ⟨String.ofList (lastWord s), trim (frontOf s)⟩ := by
  rw [splitName_eq, if_neg (by simp [h.not_preset, h.not_primitive]), if_neg]
  simp [h.word_ne_nil, h.front_ne_nil, h.not_qualifier]

lemma splitName_of_not_endsInName {s : List Char} (h : ¬ EndsInName s) :
    splitName s = ⟨"", s⟩ := by
  rw [splitName_eq]
  split_ifs with hvocabulary hword
  · rfl
  · rfl
  · simp only [Bool.or_eq_true, not_or, Bool.not_eq_true, Option.isSome_eq_false_iff,
      Option.isNone_iff_eq_none, List.isEmpty_eq_false_iff, List.contains_iff_mem]
      at hvocabulary hword
    exact absurd ⟨hvocabulary.2, hvocabulary.1, hword.1.1, hword.2, hword.1.2⟩ h

/-- A parameter whose text is a fixed signature has no name. -/
lemma splitName_of_vocabulary {s : List Char}
    (h : (primitive? (squeeze s)).isSome = true ∨ (preset? (squeeze s)).isSome = true) :
    splitName s = ⟨"", s⟩ := by
  refine splitName_of_not_endsInName fun hname => ?_
  simp [hname.not_preset, hname.not_primitive] at h

/-- A parameter that does not end in a word has no name. -/
lemma splitName_append_of_not_word (s : List Char) {c : Char} (hc : isWordChar c = false) :
    splitName (s ++ [c]) = ⟨"", s ++ [c]⟩ :=
  splitName_of_not_endsInName fun hname => hname.word_ne_nil (by simp [lastWord, hc])

/-- A parameter that is one word has no name. -/
lemma splitName_of_word {w : List Char} (hw : ∀ c ∈ w, isWordChar c = true) :
    splitName w = ⟨"", w⟩ := by
  refine splitName_of_not_endsInName fun hname => hname.front_ne_nil ?_
  rw [frontOf_of_word hw]
  rfl

/-- The last word of a parameter is its name, or a qualifier of its type, if the whole is no fixed
signature. -/
lemma splitName_append_word {s w : List Char} (htrim : trim s = s) (hne : s ≠ [])
    (hw : ∀ c ∈ w, isWordChar c = true) (hwne : w ≠ [])
    (hprimitive : primitive? (squeeze (s ++ ' ' :: w)) = none)
    (hpreset : preset? (squeeze (s ++ ' ' :: w)) = none) :
    splitName (s ++ ' ' :: w) =
      if qualifierWords.contains (String.ofList w) then ⟨"", s ++ ' ' :: w⟩
      else ⟨String.ofList w, s⟩ := by
  have hsplit : s ++ ' ' :: w = (s ++ [' ']) ++ w := by simp
  have hlast : ∀ c ∈ (s ++ [' ']).getLast?, isWordChar c = false := by simp
  have hword : lastWord (s ++ ' ' :: w) = w := hsplit ▸ lastWord_append hw hlast
  have hfront : trim (frontOf (s ++ ' ' :: w)) = s := by
    rw [hsplit, frontOf_append hw hlast, trim_append_blank (by decide), htrim]
  rw [splitName_eq, hprimitive, hpreset, hword, hfront]
  simp [hne, hwne]

/-- Only a closing `[]` is put behind the type. -/
lemma readParameter_of_last {s : List Char} (h : s.getLast? ≠ some ']') :
    readParameter s = splitName s := by
  have hnone : stripTrailing ['[', ']'] s = none := by
    refine Option.eq_none_iff_forall_ne_some.2 fun body hbody => h ?_
    rw [stripTrailing_eq_some_iff.1 hbody]
    simp
  rw [readParameter, hnone]

/-- A closing `[]` goes behind the type of an unnamed parameter. -/
lemma readParameter_append_open {s : List Char} (htrim : trimEnd s = s)
    (hname : splitName s = ⟨"", s⟩) :
    readParameter (s ++ ['[', ']']) = ⟨"", s ++ ['[', ']']⟩ := by
  have hbody : stripTrailing ['[', ']'] (s ++ ['[', ']']) = some s :=
    stripTrailing_eq_some_iff.2 rfl
  rw [readParameter, hbody]
  simp only [htrim, hname]

end FrameworkBindings.Signature
