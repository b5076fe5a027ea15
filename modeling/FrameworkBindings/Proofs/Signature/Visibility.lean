import FrameworkBindings.Proofs.Signature.Affixes
import FrameworkBindings.Proofs.Types.References

/-!
# Marks of visibility in front of a text

A function is declared with a mark of visibility in front of its result, and the reader makes it the
outermost qualifier of the type if it comes to see it.  It does not if the text is out of balance; a
function is taken apart before its result is, and a mark with nothing behind it is a name.

* `visibilityMarks` — the marks.
* `Marked` — what stands behind the first mark of a text; qualifiers that say nothing may stand
  before it.  Only such a text is read as marked (`exists_marked_of_parse`).
* `TakesMark` — the texts that can be marked: `parse_append_mark` says how they are read then, and
  `not_external_of_not_takesMark` that others are not read as marked.

**What is read and what is written.**  The loader takes one mark off the type of a function.  To say
what is left when it does, one has to know of a stored type whether its text had a mark in front.
`Marked` answers this for any text, and is used to look from the type back at the text.

**Marks come first.**  No qualifier behind a text is looked for before a mark
(`not_mem_before_mark`), and no preset has one in it (`preset?_append_mark`).  So the three
conditions of `TakesMark` are all there is to ask.
-/

namespace FrameworkBindings.Signature

open Text

/-- The marks of visibility, as they stand in the table of qualifiers, with the blank that ends
them. -/
def visibilityMarks : List String := ["APPKIT_EXTERN ", "FOUNDATION_EXPORT ", "extern "]

/-- The text has a mark of visibility in front, and `rest` is what stands behind it. -/
inductive Marked : List Char → List Char → Prop
  | mark {text rest : List Char} {mark : String} (hmark : mark ∈ visibilityMarks)
      (h : trim text = mark.toList ++ rest) : Marked text rest
  /-- A qualifier that says nothing hides no mark. -/
  | silent {text inner rest : List Char} {affix : Affix} (haffix : (affix, .silent) ∈ qualifiers)
      (h : affix.strip (trim text) = some inner) (hinner : Marked inner rest) : Marked text rest

/-- A text that is read as marked if a mark is put in front of it: there is something to mark, it
can be read, and it is no function that would hand the mark to its result. -/
structure TakesMark (text : List Char) : Prop where
  visible : trim text ≠ []
  parses : ∃ type, parse text = .ok type
  no_function : ∀ result params, Form.of (trim text) ≠ .function result params

variable {s text : List Char} {mark : String}

/-- The marks are qualifiers in front, and they make an external type. -/
lemma mem_qualifiers_of_mark (hmark : mark ∈ visibilityMarks) :
    (.leading mark, .external) ∈ qualifiers := by
  have htable : ∀ mark ∈ visibilityMarks, (Affix.leading mark, Wrap.external) ∈ qualifiers := by
    decide
  exact htable mark hmark

/-! ## Texts that are read as marked -/

/-- The qualifier that was found is one of the table. -/
lemma exists_strip_of_qualified? {wrap : Wrap} {inner : List Char}
    (h : qualified? s = some (wrap, inner)) :
    ∃ affix, (affix, wrap) ∈ qualifiers ∧ affix.strip s = some inner := by
  obtain ⟨⟨affix, found⟩, hq, hstrip⟩ := List.exists_of_findSome?_eq_some h
  obtain ⟨rest, hrest, heq⟩ := Option.map_eq_some_iff.1 hstrip
  cases heq
  exact ⟨affix, hq, hrest⟩

/-- Only a mark makes an outermost mark, unless a qualifier says nothing. -/
lemma apply_eq_external {wrap : Wrap} {t e : NativeType} (h : wrap.apply t = .external e) :
    wrap = .external ∧ t = e ∨ wrap = .silent ∧ t = .external e := by
  cases wrap <;> simp_all [Wrap.apply]

/-- The marks are all there is that marks: no other entry of the table makes a type external. -/
lemma eq_leading_of_external {affix : Affix} (h : (affix, Wrap.external) ∈ qualifiers) :
    ∃ mark ∈ visibilityMarks, affix = .leading mark := by
  have htable : ∀ q ∈ qualifiers, q.2 = .external →
      ∃ mark ∈ visibilityMarks, q.1 = .leading mark := by decide
  exact htable _ h rfl

/-- No fixed signature means a marked type. -/
lemma preset_ne_external {plain : List Char} {t e : NativeType} (h : preset? plain = some t) :
    t ≠ .external e := by
  obtain ⟨before, after, hsplit, -⟩ := List.lookup_eq_some_iff.1 h
  have hmem : (String.ofList plain, t) ∈ presets := by simp [hsplit]
  rintro rfl
  simp [presets] at hmem

/-- The type of a function is not marked, though that of its result may be. -/
lemma interpret_function_ne_external {sig result : List Char} {params : List (Param (List Char))}
    {read : List Char → Reading} {e : NativeType} :
    (Form.function result params).interpret sig read ≠ .ok (some (.external e)) := by
  intro h
  rw [Form.interpret] at h
  split at h
  · contradiction
  · obtain ⟨types, _, hsome⟩ := map_eq_ok_iff.1 h
    cases hsome

/-- **What is read as marked has a mark in front**, and is read from what stands behind it.  By
induction on the length, for the qualifiers that say nothing. -/
lemma exists_marked_of_parse {e : NativeType} (h : parse text = .ok (some (.external e))) :
    ∃ rest, Marked text rest ∧ ∃ type, parse rest = .ok type ∧ someType type = e := by
  induction text using parts_induction with
  | step text ih =>
    rw [parse_eq] at h
    have hfits := Form.fits (trim text)
    generalize Form.of (trim text) = form at *
    cases hfits with
    | void | malformed | unopened | primitive | named | unrecognized => cases h
    | preset hpreset =>
        cases h
        exact absurd rfl (preset_ne_external hpreset)
    | function => exact absurd h interpret_function_ne_external
    | array =>
        obtain ⟨type, _, hsome⟩ := map_eq_ok_iff.1 h
        cases hsome
    | @wrapped wrap inner hqualified =>
        obtain ⟨type, htype, hsome⟩ := map_eq_ok_iff.1 h
        obtain ⟨affix, haffix, hstrip⟩ := exists_strip_of_qualified? hqualified
        rcases apply_eq_external (Option.some.inj hsome) with ⟨rfl, he⟩ | ⟨rfl, he⟩
        · obtain ⟨mark, hmark, rfl⟩ := eq_leading_of_external haffix
          exact ⟨inner, .mark hmark (stripLeading_eq_some_iff.1 hstrip), type, htype, he⟩
        · obtain ⟨t, rfl, rfl⟩ : ∃ t, type = some t ∧ t = .external e := by
            cases type with
            | none => cases he
            | some t => exact ⟨t, rfl, he⟩
          obtain ⟨rest, hrest, hread⟩ := ih inner (List.mem_singleton_self inner) htype
          exact ⟨rest, .silent haffix hstrip hrest, hread⟩

/-- What stands behind the mark of a text, if no qualifier that says nothing goes before.  It is the
way to follow the mark of a text that is written out. -/
lemma Marked.of_first {P : List Char → Prop} {rest : List Char} (h : Marked text rest)
    (hmarks : ∀ mark ∈ visibilityMarks, ∀ rest ∈ stripLeading mark.toList (trim text), P rest)
    (hsilent : ∀ q ∈ qualifiers, q.2 = .silent → q.1.strip (trim text) = none) : P rest := by
  cases h with
  | mark hmark h => exact hmarks _ hmark rest (stripLeading_eq_some_iff.2 h)
  | silent haffix h _ =>
      rw [hsilent _ haffix rfl] at h
      contradiction

/-! ## A mark in front of a text -/

/-- A text that is read as a function has the parts that it is taken apart into. -/
lemma Form.functionParts?_of_eq_function {result : List Char} {params : List (Param (List Char))}
    (h : Form.of s = .function result params) : functionParts? s = some (result, params) := by
  have hfits := Form.fits s
  rw [h] at hfits
  cases hfits with
  | function h => exact h

/-- A mark completes no preset, so the presets do not go before it. -/
lemma preset?_append_mark (hmark : mark ∈ visibilityMarks) {l : List Char} (hl : Leads mark l)
    (hwords : words s ≠ []) : preset? (squeeze (l ++ s)) = none := by
  have htable : ∀ mark ∈ visibilityMarks, ∀ p ∈ presets,
      stripLeading mark.toList p.1.toList = none := by decide
  rw [preset?_eq_none_iff, hl.squeeze_append (mem_qualifiers_of_mark hmark) hwords]
  intro p hp hkey
  have hstrip := stripLeading_eq_some_iff.2 hkey
  rw [htable mark hmark p hp] at hstrip
  contradiction

/-- A mark is looked for before anything behind a text. -/
lemma not_mem_before_mark (hmark : mark ∈ visibilityMarks) (w : String) :
    .trailing w ∉ before (.leading mark) := by
  have htable : ∀ mark ∈ visibilityMarks, ∀ affix ∈ before (.leading mark),
      affix.isTrailing = false := by decide
  exact fun hmem => Bool.noConfusion (htable mark hmark _ hmem)

variable {r : List Char}

/-- A mark is taken off a text in balance that is no function. -/
lemma parse_append_mark_of_plain (hmark : mark ∈ visibilityMarks) (hne : trim r ≠ [])
    (hbalance : imbalance? (trim r) = none) (hfunction : functionParts? (trim r) = none) :
    parse (mark.toList ++ r) = (parse r).map fun type => some (.external (someType type)) := by
  have hq := mem_qualifiers_of_mark hmark
  have hwords := words_ne_nil_of_trim (trim_trim r) hne
  obtain ⟨l, hl, htrim⟩ := (Leads.self mark).exists_trim r
  obtain ⟨inner, hform, hinner⟩ := hl.form_first hq hbalance hwords
    (preset?_append_mark hmark hl hwords) hfunction
    fun w hw => absurd hw (not_mem_before_mark hmark w)
  have hread : parse inner = parse r := parse_of_trim_eq (hinner.trans (trim_trim r))
  rw [parse_of_trim_eq htrim, parse_eq, hl.trim_append hq (trim_trim r) hne, hform, Form.interpret,
    hread]
  rfl

/-- **A text that takes a mark is read as marked**, with the type that it has without the mark. -/
lemma parse_append_mark (hmark : mark ∈ visibilityMarks) (h : TakesMark r) :
    parse (mark.toList ++ r) = (parse r).map fun type => some (.external (someType type)) := by
  obtain ⟨type, htype⟩ := h.parses
  have hbalance : imbalance? (trim r) = none :=
    imbalance?_of_parse (trim_trim r) ((parse_trim r).trans htype)
  refine parse_append_mark_of_plain hmark h.visible hbalance ?_
  cases hfunction : functionParts? (trim r) with
  | none => rfl
  | some parts =>
      obtain ⟨hform, -⟩ := (Leads.self mark).form_function (mem_qualifiers_of_mark hmark) hbalance
        h.visible hfunction
      exact absurd hform (h.no_function _ _)

/-- **A text that takes no mark is not read as marked**: it is a name, a function or an error. -/
lemma not_external_of_not_takesMark (hmark : mark ∈ visibilityMarks) (h : ¬ TakesMark r)
    (e : NativeType) : parse (mark.toList ++ r) ≠ .ok (some (.external e)) := by
  have hq := mem_qualifiers_of_mark hmark
  obtain ⟨l, hl, htrim⟩ := (Leads.self mark).exists_trim r
  have hread : parse (mark.toList ++ r) = parse (l ++ trim r) := parse_of_trim_eq htrim
  by_cases hne : trim r = []
  · rw [hread, hne, List.append_nil, parse_of_leads hq hl]
    simp
  rw [hread]
  have hform := parse_eq (l ++ trim r)
  rw [hl.trim_append hq (trim_trim r) hne] at hform
  cases hbalance : imbalance? (trim r) with
  | some fault =>
      rw [hform, Form.of_eq_malformed (by rw [hl.imbalance?_append hq, hbalance])]
      rintro ⟨⟩
  | none =>
      cases hfunction : functionParts? (trim r) with
      | some parts =>
          obtain ⟨-, hfunction⟩ := hl.form_function hq hbalance hne hfunction
          rw [hform, hfunction]
          exact interpret_function_ne_external
      | none =>
          rw [← hread, parse_append_mark_of_plain hmark hne hbalance hfunction]
          cases hparse : parse r with
          | error m => rintro ⟨⟩
          | ok type =>
              refine absurd ⟨hne, ⟨type, hparse⟩, fun result params hof => ?_⟩ h
              rw [Form.functionParts?_of_eq_function hof] at hfunction
              contradiction

end FrameworkBindings.Signature
