import FrameworkBindings.Proofs.Signature.Rules

/-!
# Which qualifier is read first

A signature has at most one qualifier of the table in front and at most one behind, and the table
says which of the two is taken off first.  This module says what the reader does with a qualifier in
front of a text, rule by rule.

**The table.**  `before` lists what is looked for before a qualifier.  Two qualifiers that stand in
front of the same text, or behind it, are the same (`eq_of_strip_leading`, `eq_of_strip_trailing`).
This is decided on the table.  It is what makes the order matter between the two ends only, and
never between two qualifiers of one end.

**A qualifier in front.**  `Leads q l` says that `l` is the qualifier `q` with blanks behind it.
Such a beginning has no brackets in it and changes neither the balance of a text nor where its
parameters are (`Leads.functionParts?_append`), and it completes only one preset, a pointer to
`void` (`Leads.preset?_append`).  With nothing behind it it is a name (`parse_of_leads`); any other
text that begins with it is `l` in front of another text (`exists_leads`).

**Why the blanks are carried.**  The qualifiers end in a blank, and the reader trims before every
rule.  When a second qualifier is taken off behind the first, its blanks are left at a place where
they may meet those of the first.  With `l` in place of `q` the statements hold after any number of
steps.

**Steps.**  With a qualifier in front, a text is a preset (`Leads.form_preset`), a function of which
the qualifier goes to the result (`Leads.form_function`), or a qualified text, where the qualifier
is taken off first (`Leads.form_first`) or one behind the text (`Leads.form_later`).  From a text
with a qualifier behind, that one is taken off unless one in front goes before (`form_behind`).
-/

namespace FrameworkBindings.Signature

open Text

/-! ## The table -/

/-- The qualifiers that are looked for before another one.  Whatever the reader does to a text at
both of its ends is a question about this list. -/
def before (affix : Affix) : List Affix :=
  (qualifiers.takeWhile (·.1 ≠ affix)).map (·.1)

variable {s : List Char}

/-- A qualifier is taken off if none before it can be.  This reads the search through the table as a
condition on the text. -/
lemma qualified?_eq_of_first {affix : Affix} {wrap : Wrap} {rest : List Char}
    (haffix : (affix, wrap) ∈ qualifiers) (hstrip : affix.strip s = some rest)
    (hclear : ∀ other ∈ before affix, other.strip s = none) :
    qualified? s = some (wrap, rest) := by
  have htable : ∀ q ∈ qualifiers, qualifiers =
      qualifiers.takeWhile (·.1 ≠ q.1) ++ q :: (qualifiers.dropWhile (·.1 ≠ q.1)).tail := by decide
  have hnone : ((qualifiers.takeWhile (·.1 ≠ affix)).findSome? fun q =>
      (q.1.strip s).map fun inner => (q.2, inner)) = none := by
    refine List.findSome?_eq_none_iff.2 fun q hq => ?_
    rw [hclear q.1 (List.mem_map_of_mem hq), Option.map_none]
  rw [qualified?, htable _ haffix, List.findSome?_append, hnone, Option.none_or,
    List.findSome?_cons, hstrip, Option.map_some]

/-- What is looked for earlier is in the table as well, so the facts about its entries apply to
it. -/
lemma mem_of_mem_before {affix other : Affix} (h : other ∈ before affix) :
    ∃ wrap, (other, wrap) ∈ qualifiers := by
  obtain ⟨q, hq, rfl⟩ := List.mem_map.1 h
  exact ⟨q.2, (List.takeWhile_sublist _).subset hq⟩

/-- The order of the table is strict: of two qualifiers at most one is looked for before the
other. -/
lemma not_mem_before {affix other : Affix} {wrap : Wrap} (haffix : (affix, wrap) ∈ qualifiers)
    (h : other ∈ before affix ∨ other = affix) : affix ∉ before other := by
  have htable : ∀ q ∈ qualifiers, q.1 ∉ before q.1 ∧
      ∀ other ∈ before q.1, q.1 ∉ before other := by decide
  rcases h with h | rfl
  · exact (htable _ haffix).2 other h
  · exact (htable _ haffix).1

/-- No qualifier in front is the beginning of another one, so the first blank tells which one it
is. -/
lemma eq_of_strip_leading {p q : String} {wrap wrap' : Wrap} {rest rest' : List Char}
    (hp : (.leading p, wrap) ∈ qualifiers) (hq : (.leading q, wrap') ∈ qualifiers)
    (hs : s = q.toList ++ rest) (hstrip : (Affix.leading p).strip s = some rest') : p = q := by
  have htable : ∀ a ∈ qualifiers, ∀ b ∈ qualifiers, a.1.isTrailing = false →
      b.1.isTrailing = false → a.1.text.toList <+: b.1.text.toList → a.1 = b.1 := by decide
  have hprefix : p.toList <+: s := ⟨rest', (stripLeading_eq_some_iff.1 hstrip).symm⟩
  have hprefix' : q.toList <+: s := ⟨rest, hs.symm⟩
  rcases List.prefix_or_prefix_of_prefix hprefix hprefix' with h | h
  · exact Affix.leading.inj (htable _ hp _ hq rfl rfl h)
  · exact (Affix.leading.inj (htable _ hq _ hp rfl rfl h)).symm

/-- No qualifier behind is the end of another one.  Together with the lemma above, at most two
qualifiers ever compete for a text. -/
lemma eq_of_strip_trailing {v w : String} {wrap wrap' : Wrap} {rest rest' : List Char}
    (hv : (.trailing v, wrap) ∈ qualifiers) (hw : (.trailing w, wrap') ∈ qualifiers)
    (hs : s = rest ++ w.toList) (hstrip : (Affix.trailing v).strip s = some rest') : v = w := by
  have htable : ∀ a ∈ qualifiers, ∀ b ∈ qualifiers, a.1.isTrailing = true →
      b.1.isTrailing = true → a.1.text.toList <:+ b.1.text.toList → a.1 = b.1 := by decide
  simp only [Affix.strip, Option.filter_eq_some_iff] at hstrip
  have hsuffix : v.toList <:+ s := ⟨rest', (stripTrailing_eq_some_iff.1 hstrip.1).symm⟩
  have hsuffix' : w.toList <:+ s := ⟨rest, hs.symm⟩
  rcases List.suffix_or_suffix_of_suffix hsuffix hsuffix' with h | h
  · exact Affix.trailing.inj (htable _ hv _ hw rfl rfl h)
  · exact (Affix.trailing.inj (htable _ hw _ hv rfl rfl h)).symm

/-! ## Qualifiers behind a text -/

section Trailing

variable {w : String} {wrap : Wrap} {rest : List Char}

/-- What is taken off behind is the word itself, and what is left stands before it. -/
lemma eq_append_of_strip_trailing (h : (Affix.trailing w).strip s = some rest) :
    s = rest ++ w.toList := by
  simp only [Affix.strip, Option.filter_eq_some_iff] at h
  exact stripTrailing_eq_some_iff.1 h.1

/-- A qualifier behind a text is behind any text that ends in this one. -/
lemma strip_trailing_append (h : (Affix.trailing w).strip s = some rest) (l : List Char) :
    (Affix.trailing w).strip (l ++ s) = some (l ++ rest) := by
  simp only [Affix.strip, Option.filter_eq_some_iff] at h ⊢
  obtain ⟨hstrip, hboundary⟩ := h
  have hs := stripTrailing_eq_some_iff.1 hstrip
  refine ⟨stripTrailing_eq_some_iff.2 (by rw [hs, List.append_assoc]), ?_⟩
  cases rest using List.reverseRecOn with
  | nil =>
      have hhead : w.toList.head?.any isWordChar = false := by simpa using hboundary
      simp [hhead]
  | append_singleton rest c =>
      rwa [← List.append_assoc, List.getLast?_concat] at *

/-- A qualifier behind a text that follows a blank is behind the text itself, or is all of it.  A
word behind needs a blank before it, and the one in front of the text can be that blank. -/
lemma strip_trailing_of_blank {l : List Char} {c : Char} (hw : (.trailing w, wrap) ∈ qualifiers)
    (hc : isBlank c = true) (h : (Affix.trailing w).strip (l ++ c :: s) = some rest) :
    ∃ x, rest = l ++ c :: x ∧ s = x ++ w.toList ∧
      (Affix.trailing w).strip (' ' :: s) = some (' ' :: x) := by
  have hvisible : ∀ q ∈ qualifiers, q.1.isTrailing = true →
      ∀ d ∈ q.1.text.toList, isBlank d = false := by decide
  simp only [Affix.strip, Option.filter_eq_some_iff] at h ⊢
  obtain ⟨hstrip, hboundary⟩ := h
  have hnonword : isWordChar c = false := by
    rw [Bool.eq_false_iff]
    intro hword
    rw [isBlank_eq_false_of_isWordChar hword] at hc
    contradiction
  rcases List.append_eq_append_iff.1 (stripTrailing_eq_some_iff.1 hstrip) with
    ⟨gap, rfl, hgap⟩ | ⟨gap, -, hgap⟩
  · rcases List.cons_eq_append_iff.1 hgap with ⟨-, hmark⟩ | ⟨x, rfl, hs⟩
    · exact absurd (hvisible _ hw rfl c (by simp [Affix.text, hmark])) (by simp [hc])
    · refine ⟨x, rfl, hs, stripTrailing_eq_some_iff.2 (by rw [hs]; rfl), ?_⟩
      cases x using List.reverseRecOn with
      | nil => simp
      | append_singleton x d =>
          rw [← List.cons_append, ← List.append_assoc, List.getLast?_concat] at hboundary
          rwa [← List.cons_append, List.getLast?_concat]
  · exact absurd (hvisible _ hw rfl c (by simp [Affix.text, hgap])) (by simp [hc])

/-- Any blank will do before a qualifier behind, whichever character it is and whatever precedes
it. -/
lemma strip_trailing_behind_blank {l x : List Char} {c : Char} (hc : isBlank c = true)
    (h : (Affix.trailing w).strip (' ' :: s) = some (' ' :: x)) :
    (Affix.trailing w).strip (l ++ c :: s) = some (l ++ c :: x) := by
  simp only [Affix.strip, Option.filter_eq_some_iff] at h ⊢
  obtain ⟨hstrip, hboundary⟩ := h
  have hs := stripTrailing_eq_some_iff.1 hstrip
  rw [List.cons_append, List.cons.injEq] at hs
  refine ⟨stripTrailing_eq_some_iff.2 (by simp [hs.2]), ?_⟩
  cases x using List.reverseRecOn with
  | nil =>
      have hnonword : isWordChar c = false := by
        rw [Bool.eq_false_iff]
        intro hword
        rw [isBlank_eq_false_of_isWordChar hword] at hc
        contradiction
      simp [hnonword]
  | append_singleton x d =>
      rw [← List.cons_append, List.getLast?_concat] at hboundary
      rwa [← List.cons_append, ← List.append_assoc, List.getLast?_concat]

/-- What is left of a text behind a blank is left of the text itself, unless it is nothing. -/
lemma strip_trailing_of_cons {x : List Char} (hx : x ≠ [])
    (h : (Affix.trailing w).strip (' ' :: s) = some (' ' :: x)) :
    (Affix.trailing w).strip s = some x := by
  simp only [Affix.strip, Option.filter_eq_some_iff] at h ⊢
  obtain ⟨hstrip, hboundary⟩ := h
  have hs := stripTrailing_eq_some_iff.1 hstrip
  rw [List.cons_append, List.cons.injEq] at hs
  refine ⟨stripTrailing_eq_some_iff.2 hs.2, ?_⟩
  rwa [List.getLast?_cons_of_ne_nil hx] at hboundary

/-- A text with a qualifier behind it is no function, as a function ends in a parenthesis, and it is
not `void`.  So only the presets go before the qualifiers there. -/
lemma not_function_of_trailing (hw : (.trailing w, wrap) ∈ qualifiers)
    (h : s = rest ++ w.toList) :
    functionParts? s = none ∧ squeeze s ≠ "void".toList := by
  have htable : ∀ q ∈ qualifiers, q.1.isTrailing = true → q.1.text.toList ≠ [] ∧
      (∀ d ∈ q.1.text.toList, isBracket d = false) ∧
      q.1.text.toList.any (fun d => !isBlank d && !"void".toList.contains d) = true := by decide
  obtain ⟨(hne : w.toList ≠ []), (hplain : ∀ d ∈ w.toList, isBracket d = false), hany⟩ :=
    htable _ hw rfl
  obtain ⟨d, (hd : d ∈ w.toList), hd'⟩ := List.any_eq_true.1 hany
  have hvisible : isBlank d = false ∧ d ∉ "void".toList := by simpa using hd'
  refine ⟨functionParts?_eq_none fun hlast => ?_, fun hsqueeze => ?_⟩
  · rw [h, List.getLast?_append_of_ne_nil _ hne] at hlast
    exact absurd (hplain ')' (List.mem_of_getLast? hlast)) (by decide)
  · refine hvisible.2 (hsqueeze ▸ (mem_squeeze_iff hvisible.1).2 ?_)
    rw [h]
    exact List.mem_append_right rest hd

end Trailing

/-! ## Qualifiers in front of a text -/

/-- The text is a qualifier with blanks behind it, as it is found in front of a trimmed text. -/
def Leads (q : String) (l : List Char) : Prop :=
  ∃ blanks, l = q.toList ++ blanks ∧ ∀ c ∈ blanks, isBlank c = true

lemma Leads.self (q : String) : Leads q q.toList := ⟨[], by simp, by simp⟩

/-- More blanks behind a qualifier make no difference. -/
lemma Leads.append_blanks {q : String} {l blanks : List Char} (h : Leads q l)
    (hblanks : ∀ c ∈ blanks, isBlank c = true) : Leads q (l ++ blanks) := by
  obtain ⟨blanks', rfl, hblanks'⟩ := h
  refine ⟨blanks' ++ blanks, by simp, fun c hc => ?_⟩
  rcases List.mem_append.1 hc with hc | hc
  · exact hblanks' c hc
  · exact hblanks c hc

/-- In front of a text with blanks around it stands a qualifier with blanks of its own: the inner
ones are handed to the qualifier, so that what follows it may be taken to be trimmed. -/
lemma Leads.exists_trim {q : String} {l : List Char} (h : Leads q l) (s : List Char) :
    ∃ l', Leads q l' ∧ trim (l ++ s) = trim (l' ++ trim s) := by
  obtain ⟨lead, trail, htext, hlead, htrail⟩ := Text.exists_trim s
  refine ⟨l ++ lead, h.append_blanks hlead, ?_⟩
  conv_lhs => rw [htext]
  rw [← List.append_assoc, ← List.append_assoc, trim_append_blanks _ htrail]

namespace Leads

variable {q : String} {wrap : Wrap} {l : List Char}

/-- There is no bracket in a qualifier, so it is invisible to every scan that counts them. -/
lemma plain (hq : (.leading q, wrap) ∈ qualifiers) (h : Leads q l) :
    ∀ c ∈ l, isBracket c = false := by
  obtain ⟨blanks, rfl, hblanks⟩ := h
  obtain ⟨w, hword, -, hw, -⟩ := exists_word_of_leading hq
  intro c hc
  rw [hword] at hc
  simp only [List.mem_append, List.mem_singleton, or_assoc] at hc
  rcases hc with hc | rfl | hc
  · exact isBracket_eq_false_of_isWordChar (hw c hc)
  · rfl
  · exact isBracket_eq_false_of_isBlank (hblanks c hc)

/-- Without its blanks the qualifier is a word, one of those that may not end a type. -/
lemma trimEnd_eq (hq : (.leading q, wrap) ∈ qualifiers) (h : Leads q l) :
    q.toList = trimEnd l ++ [' '] ∧ trimEnd l ≠ [] ∧ (∀ c ∈ trimEnd l, isWordChar c = true) ∧
      trimEnd l ∈ leadingMarks := by
  obtain ⟨blanks, rfl, hblanks⟩ := h
  obtain ⟨w, hword, hne, hw, hmem⟩ := exists_word_of_leading hq
  have htrim : trimEnd (q.toList ++ blanks) = w := by
    rw [trimEnd_append_blanks _ hblanks, hword, trimEnd_append_blank (by decide)]
    exact trimEnd_eq_self fun c hc =>
      isBlank_eq_false_of_isWordChar (hw c (List.mem_of_mem_getLast? hc))
  rw [htrim]
  exact ⟨hword, hne, hw, hmem⟩

lemma exists_last (hq : (.leading q, wrap) ∈ qualifiers) (h : Leads q l) :
    ∃ l' c, l = l' ++ [c] ∧ isBlank c = true := by
  obtain ⟨blanks, rfl, hblanks⟩ := h
  obtain ⟨w, hword, -⟩ := exists_word_of_leading hq
  cases blanks using List.reverseRecOn with
  | nil => exact ⟨w, ' ', by simp [hword], by decide⟩
  | append_singleton blanks c =>
      exact ⟨q.toList ++ blanks, c, by simp, hblanks c (by simp)⟩

lemma length_lt (hq : (.leading q, wrap) ∈ qualifiers) (h : Leads q l) (s : List Char) :
    s.length < (l ++ s).length := by
  obtain ⟨l', c, rfl, -⟩ := h.exists_last hq
  simp only [List.length_append, List.length_singleton]
  omega

/-- A qualifier in front of a trimmed text makes a trimmed text. -/
lemma trim_append (hq : (.leading q, wrap) ∈ qualifiers) (h : Leads q l) (htrim : trim s = s)
    (hne : s ≠ []) : trim (l ++ s) = l ++ s := by
  obtain ⟨blanks, rfl, -⟩ := h
  obtain ⟨w, hword, hwne, hw, -⟩ := exists_word_of_leading hq
  obtain ⟨d, v, rfl⟩ := List.exists_cons_of_ne_nil hwne
  refine trim_eq_self (fun c hc => ?_) fun c hc => ?_
  · obtain rfl : d = c := by simpa [hword] using hc
    exact isBlank_eq_false_of_isWordChar (hw d (by simp))
  · rw [List.getLast?_append_of_ne_nil _ hne] at hc
    exact (visible_of_trim_eq_self htrim).2 c hc

/-- Squeezed, the qualifier stands in front of the squeezed text, with the one blank that it ends
in. -/
lemma squeeze_append (hq : (.leading q, wrap) ∈ qualifiers) (h : Leads q l)
    (hwords : words s ≠ []) : squeeze (l ++ s) = q.toList ++ squeeze s := by
  obtain ⟨blanks, rfl, hblanks⟩ := h
  obtain ⟨w, hword, hwne, hw, -⟩ := exists_word_of_leading hq
  have hvisible : ∀ c ∈ w, isBlank c = false := fun c hc =>
    isBlank_eq_false_of_isWordChar (hw c hc)
  have hsame : words (blanks ++ s) = words s := words_blanks_append s hblanks
  have hrest : squeeze (blanks ++ s) = squeeze s := by rw [squeeze, hsame, squeeze]
  rw [hword, List.append_assoc, List.append_assoc, List.singleton_append, squeeze_append_blank
    (by decide) (by simp [words_of_visible hwne hvisible]) (by rwa [hsame]),
    squeeze_of_visible hvisible, hrest, List.append_assoc, List.singleton_append]

/-- With a qualifier in front nothing is `void`, so no absent type is ever read from such a text. -/
lemma not_void (hq : (.leading q, wrap) ∈ qualifiers) (h : Leads q l) (hwords : words s ≠ []) :
    squeeze (l ++ s) ≠ "void".toList := by
  obtain ⟨w, hword, -⟩ := exists_word_of_leading hq
  rw [h.squeeze_append hq hwords, hword]
  intro hvoid
  have hblank : ' ' ∈ "void".toList := hvoid ▸ by simp
  exact absurd hblank (by decide)

/-- The only preset that a qualifier completes is a pointer to `void`, which it leaves as it is. -/
lemma preset?_append (hq : (.leading q, wrap) ∈ qualifiers) (h : Leads q l) (hwords : words s ≠ [])
    {type : NativeType} (hpreset : preset? (squeeze (l ++ s)) = some type) :
    preset? (squeeze s) = some type := by
  have hkeys : ∀ p ∈ presets, ∀ q ∈ qualifiers, q.1.isTrailing = false →
      ∀ rest ∈ stripLeading q.1.text.toList p.1.toList, rest = "void *".toList ∧
        p.1 ∈ ["__strong void *", "const void *"] := by decide
  rw [h.squeeze_append hq hwords] at hpreset
  obtain ⟨before, after, hsplit, -⟩ := List.lookup_eq_some_iff.1 hpreset
  have hmem : (String.ofList (q.toList ++ squeeze s), type) ∈ presets := by simp [hsplit]
  obtain ⟨hrest, hkey⟩ :=
    hkeys _ hmem _ hq rfl _ (stripLeading_eq_some_iff.2 (String.toList_ofList))
  have htype : type = .primitive "uintptr" := by
    generalize String.ofList (q.toList ++ squeeze s) = key at hmem hkey
    simp only [presets, List.mem_cons, Prod.mk.injEq, List.not_mem_nil, or_false] at hmem hkey
    rcases hkey with rfl | rfl <;> simpa using hmem
  rw [hrest, htype]
  rfl

/-- A qualifier in front changes nothing about the balance of a text. -/
lemma imbalance?_append (hq : (.leading q, wrap) ∈ qualifiers) (h : Leads q l) :
    imbalance? (l ++ s) = imbalance? s :=
  (Nested.of_plain (h.plain hq)).imbalanceFrom_append (Int.le_refl 0) (Int.le_refl 0) s

/-- A qualifier in front of a function belongs to its result, since the text is cut at the marker,
and that is found behind the qualifier. -/
lemma functionParts?_append (hq : (.leading q, wrap) ∈ qualifiers) (h : Leads q l) (hne : s ≠ []) :
    functionParts? (l ++ s) = (functionParts? s).map fun parts => (l ++ parts.1, parts.2) := by
  have hparen : '(' ∉ l := fun hmem => absurd (h.plain hq '(' hmem) (by decide)
  have hdepth : depth l = 0 := (Nested.of_plain (h.plain hq)).depth_eq_zero
  rw [functionParts?, functionParts?, List.getLast?_append_of_ne_nil _ hne,
    splitAtMarker_append_of_no_paren hparen, hdepth]
  split
  · rw [Option.map_map, Option.map_map, show (0 : Int) + 0 = 0 from rfl]
    rfl
  · rfl

/-! ### Steps -/

/-- A preset that a qualifier completes is one without it, of the same type. -/
lemma form_preset (hq : (.leading q, wrap) ∈ qualifiers) (h : Leads q l) (hwords : words s ≠ [])
    {type : NativeType} (hpreset : preset? (squeeze (l ++ s)) = some type) :
    Form.of (l ++ s) = .preset type ∧ Form.of s = .preset type :=
  ⟨Form.of_eq_preset hpreset, Form.of_eq_preset (h.preset?_append hq hwords hpreset)⟩

variable (hq : (.leading q, wrap) ∈ qualifiers) (h : Leads q l) (hbalance : imbalance? s = none)

include hq h hbalance

/-- A function with a qualifier in front is a function with the qualifier in front of its result.
The rule of functions comes before the table, which is why `const` can end up inside a type. -/
lemma form_function (hne : s ≠ []) {result : List Char} {params : List (Param (List Char))}
    (hparts : functionParts? s = some (result, params)) :
    Form.of s = .function result params ∧
      Form.of (l ++ s) = .function (l ++ result) params := by
  have hlast : s.getLast? = some ')' := by
    by_contra hlast
    rw [functionParts?_eq_none hlast] at hparts
    contradiction
  have hmem := List.mem_of_getLast? hlast
  obtain ⟨hvoid, hpreset, -⟩ := not_vocabulary_of_bracket (by decide) hmem
  obtain ⟨hvoid', hpreset', -⟩ := not_vocabulary_of_bracket (by decide)
    (List.mem_append_right l hmem)
  have hparts' : functionParts? (l ++ s) = some (l ++ result, params) := by
    rw [h.functionParts?_append hq hne, hparts, Option.map_some]
  exact ⟨Form.of_eq_function hvoid hpreset hbalance hparts,
    Form.of_eq_function hvoid' hpreset' (by rw [h.imbalance?_append hq, hbalance]) hparts'⟩

variable (hwords : words s ≠ []) (hpreset : preset? (squeeze (l ++ s)) = none)
  (hfunction : functionParts? s = none)

include hwords hpreset hfunction

/-- A qualifier is taken off a text that is neither a preset nor a function: no later rule is
asked. -/
lemma form_wrapped {wrap' : Wrap} {inner : List Char}
    (hqualified : qualified? (l ++ s) = some (wrap', inner)) :
    Form.of (l ++ s) = .wrapped wrap' inner := by
  have hne : s ≠ [] := by
    rintro rfl
    exact hwords rfl
  refine Form.of_eq_wrapped (h.not_void hq hwords) hpreset ?_ ?_ hqualified
  · rw [h.imbalance?_append hq, hbalance]
  · rw [h.functionParts?_append hq hne, hfunction, Option.map_none]

/-- The qualifier is taken off first, unless one that goes before stands behind the text. -/
lemma form_first (hclear : ∀ w, .trailing w ∈ before (.leading q) →
      (Affix.trailing w).strip (' ' :: s) = none) :
    ∃ inner, Form.of (l ++ s) = .wrapped wrap inner ∧ trim inner = trim s := by
  obtain ⟨l', c, hl, hc⟩ := h.exists_last hq
  have ⟨blanks, hblanks, hblank⟩ := h
  have hs : l ++ s = q.toList ++ (blanks ++ s) := by rw [hblanks, List.append_assoc]
  have hstrip : (Affix.leading q).strip (l ++ s) = some (blanks ++ s) :=
    stripLeading_eq_some_iff.2 hs
  refine ⟨blanks ++ s, h.form_wrapped hq hbalance hwords hpreset hfunction
    (qualified?_eq_of_first hq hstrip fun other hother => ?_), trim_blanks_append s hblank⟩
  obtain ⟨wrap', hmem⟩ := mem_of_mem_before hother
  refine Option.eq_none_iff_forall_ne_some.2 fun rest hrest => ?_
  cases other with
  | leading p =>
      obtain rfl := eq_of_strip_leading hmem hq hs hrest
      exact not_mem_before hq (.inr rfl) hother
  | trailing w =>
      rw [hl, List.append_assoc, List.singleton_append] at hrest
      obtain ⟨x, -, -, hbehind⟩ := strip_trailing_of_blank hmem hc hrest
      rw [hclear w hother] at hbehind
      contradiction

/-- A qualifier behind the text that goes before is taken off first, and the one in front waits. -/
lemma form_later {w : String} {wrap' : Wrap} {x : List Char}
    (hw : (.trailing w, wrap') ∈ qualifiers) (hbefore : .trailing w ∈ before (.leading q))
    (hbehind : (Affix.trailing w).strip (' ' :: s) = some (' ' :: x)) :
    Form.of (l ++ s) = .wrapped wrap' (l ++ x) := by
  obtain ⟨l', c, hl, hc⟩ := h.exists_last hq
  have ⟨blanks, hblanks, _⟩ := h
  have hs : l ++ s = q.toList ++ (blanks ++ s) := by rw [hblanks, List.append_assoc]
  have hstrip : (Affix.trailing w).strip (l ++ s) = some (l ++ x) := by
    simpa [hl] using strip_trailing_behind_blank (l := l') hc hbehind
  refine h.form_wrapped hq hbalance hwords hpreset hfunction
    (qualified?_eq_of_first hw hstrip fun other hother => ?_)
  obtain ⟨wrap'', hmem⟩ := mem_of_mem_before hother
  refine Option.eq_none_iff_forall_ne_some.2 fun rest hrest => ?_
  cases other with
  | leading p =>
      obtain rfl := eq_of_strip_leading hmem hq hs hrest
      exact not_mem_before hq (.inl hbefore) hother
  | trailing v =>
      obtain rfl := eq_of_strip_trailing hmem hw (eq_append_of_strip_trailing hstrip) hrest
      exact not_mem_before hw (.inr rfl) hother

end Leads

/-- From a text with a qualifier behind it that one is taken off, unless one that goes before stands
in front. -/
lemma form_behind {w : String} {wrap : Wrap} {x : List Char} (hw : (.trailing w, wrap) ∈ qualifiers)
    (hstrip : (Affix.trailing w).strip s = some x) (hbalance : imbalance? s = none)
    (hpreset : preset? (squeeze s) = none)
    (hclear : ∀ p, .leading p ∈ before (.trailing w) → (Affix.leading p).strip s = none) :
    Form.of s = .wrapped wrap x := by
  have heq := eq_append_of_strip_trailing hstrip
  obtain ⟨hfunction, hvoid⟩ := not_function_of_trailing hw heq
  refine Form.of_eq_wrapped hvoid hpreset hbalance hfunction
    (qualified?_eq_of_first hw hstrip fun other hother => ?_)
  cases other with
  | leading p => exact hclear p hother
  | trailing v =>
      obtain ⟨wrap', hmem⟩ := mem_of_mem_before hother
      refine Option.eq_none_iff_forall_ne_some.2 fun rest hrest => ?_
      obtain rfl := eq_of_strip_trailing hmem hw heq hrest
      exact not_mem_before hw (.inr rfl) hother

/-! ## Taking texts apart -/

/-- A text that begins with a qualifier is that qualifier in front of another text, which is
trimmed and not empty.  So what holds of a qualifier that is put in front holds of one that is
found there. -/
lemma exists_leads {q : String} {wrap : Wrap} {rest : List Char}
    (hq : (.leading q, wrap) ∈ qualifiers) (htrim : trim s = s) (hs : s = q.toList ++ rest) :
    ∃ l r, s = l ++ r ∧ Leads q l ∧ trim r = r ∧ r ≠ [] := by
  have hsplit : rest.takeWhile isBlank ++ trimStart rest = rest := List.takeWhile_append_dropWhile
  have hleads : Leads q (q.toList ++ rest.takeWhile isBlank) :=
    ⟨_, rfl, fun c hc => List.mem_takeWhile_imp hc⟩
  have hs : s = (q.toList ++ rest.takeWhile isBlank) ++ trimStart rest := by
    rw [List.append_assoc, hsplit, hs]
  have hlast := (visible_of_trim_eq_self htrim).2
  have hne : trimStart rest ≠ [] := by
    intro hnil
    obtain ⟨l', c, hl, hc⟩ := hleads.exists_last hq
    have hvisible := hlast c (by rw [hs, hnil, hl]; simp)
    rw [hc] at hvisible
    contradiction
  refine ⟨_, _, hs, hleads, trim_eq_self (fun c hc => ?_) (fun c hc => hlast c ?_), hne⟩
  · have hhead := List.head_dropWhile_not isBlank hne
    have hc : (trimStart rest).head? = some c := hc
    rw [List.head?_eq_some_head hne] at hc
    rwa [← Option.some.inj hc]
  · rwa [hs, List.getLast?_append_of_ne_nil _ hne]

/-- A qualifier in front of nothing is a name: trimming takes the blank that the table looks for. -/
lemma parse_of_leads {q : String} {wrap : Wrap} {l : List Char}
    (hq : (.leading q, wrap) ∈ qualifiers) (h : Leads q l) :
    parse l = .ok (some (.named (String.ofList (trimEnd l)))) := by
  have htable : ∀ q ∈ qualifiers, q.1.isTrailing = false →
      q.1.text.toList.dropLast ≠ "void".toList ∧
        (preset? q.1.text.toList.dropLast).isNone = true ∧
        (primitive? q.1.text.toList.dropLast).isNone = true := by decide +kernel
  obtain ⟨hword, hne, hw, -⟩ := h.trimEnd_eq hq
  have hplain := htable _ hq rfl
  rw [show (Affix.leading q).text.toList = q.toList from rfl, hword, List.dropLast_concat,
    Option.isNone_iff_eq_none, Option.isNone_iff_eq_none] at hplain
  obtain ⟨hvoid, hpreset, hprimitive⟩ := hplain
  rw [← parse_of_trim_eq (trim_trimEnd l), parse_of_word hw hne hvoid hpreset hprimitive]

/-- A text that parses is in balance, as the check of the balance comes before every other rule. -/
lemma imbalance?_of_parse {type : Option NativeType} (htrim : trim s = s) (h : parse s = .ok type) :
    imbalance? s = none := by
  cases hbalance : imbalance? s with
  | none => rfl
  | some fault =>
      rw [parse_eq, htrim, Form.of_eq_malformed hbalance, Form.interpret] at h
      contradiction

end FrameworkBindings.Signature
