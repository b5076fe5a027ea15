import FrameworkBindings.Proofs.Signature.Rules

/-!
# Signatures of types

Each type that can be written in C has signatures that spell it: the leaves by their names, every
pointer, qualifier and array by a suffix, functions with their parameters in parentheses.  This
module says what these signatures are and that the reader gives the type back.

* `Spells` — the signatures of a type, of any depth; `SpellsParams` — those of parameters.
* `Legible` — what the rules of the reader ask of a text before they take a suffix off it.
  `Spells.legible` finds it in every signature of a type.
* **`ofText_of_spells`** — a signature of a type is read as that type.

**Why suffixes.**  A qualifier may stand in front of a type as well, but then the order of the rules
decides what it belongs to.  Behind a type there is no doubt: the last suffix is the outermost, and
the reader takes it off first, provided that nothing in front goes before it.  That is what
`Legible` says, and each suffix keeps it, so the induction over `Spells` has one lemma for each
constructor on either side.

**Fixed signatures.**  Some texts mean something else as a whole, such as `char *`.  They are left
out where a suffix would complete one of them; that no other text is among them is decided on the
table.
-/

namespace FrameworkBindings

/-- Whether a function type occurs under the pointers, arrays and qualifiers of a type.  Its
parentheses would be taken for those of a function around it. -/
def NativeType.hasFunction : NativeType → Bool
  | .function _ _ => true
  | .pointer e | .array e _ | .const e | .strong e | .nullable e _ | .external e => e.hasFunction
  | _ => false

namespace Signature

open Text

/-! ## Spelling -/

/-- A word that a signature can consist of and that means nothing else: no fixed signature, no
primitive type, no qualifier. -/
structure PlainName (name : String) : Prop where
  word : isIdentifier name.toList = true
  ne_void : name ≠ "void"
  ne_string : name ≠ "NSString"
  not_preset : presets.lookup name = none
  not_primitive : primitives.lookup name = none
  not_qualifier : name.toList ∉ qualifierMarks

mutual

/-- The signatures that spell a type, one constructor for each way of putting a suffix behind a
text. -/
inductive Spells : NativeType → List Char → Prop
  | named {name : String} (h : PlainName name) : Spells (.named name) name.toList
  | primitive {key name : String} (h : (key, name) ∈ primitives) :
      Spells (.primitive name) key.toList
  | string : Spells .string "NSString *".toList
  | pointer {t : NativeType} {s : List Char} (h : Spells t s) (hchar : s ≠ "char".toList) :
      Spells (.pointer t) (s ++ [' ', '*'])
  | const {t : NativeType} {s : List Char} (h : Spells t s) :
      Spells (.const t) (s ++ ' ' :: "const".toList)
  | nullable {t : NativeType} {s : List Char} (h : Spells t s) :
      Spells (.nullable t true) (s ++ ' ' :: "_Nullable".toList)
  | nonnull {t : NativeType} {s : List Char} (h : Spells t s) :
      Spells (.nullable t false) (s ++ ' ' :: "_Nonnull".toList)
  | array {t : NativeType} {s : List Char} {size : String} (h : Spells t s)
      (htrim : trim size.toList = size.toList) (hfree : ∀ c ∈ size.toList, isBracket c = false) :
      Spells (.array t size) (s ++ ('[' :: size.toList ++ [']']))
  | procedure {params : List (Param NativeType)} {texts : List (List Char)}
      (hparams : SpellsParams params texts) :
      Spells (.function none params) (functionText "void".toList ([',', ' '].intercalate texts))
  | function {t : NativeType} {s : List Char} {params : List (Param NativeType)}
      {texts : List (List Char)} (h : Spells t s) (hresult : t.hasFunction = false)
      (hparams : SpellsParams params texts) :
      Spells (.function (some t) params) (functionText s ([',', ' '].intercalate texts))

/-- The texts that spell the parameters of a function, with or without their names. -/
inductive SpellsParams : List (Param NativeType) → List (List Char) → Prop
  | nil : SpellsParams [] []
  | unnamed {t : NativeType} {s : List Char} {params : List (Param NativeType)}
      {texts : List (List Char)} (h : Spells t s) (hrest : SpellsParams params texts) :
      SpellsParams (⟨"", t⟩ :: params) (s :: texts)
  | labelled {name : String} {t : NativeType} {s : List Char} {params : List (Param NativeType)}
      {texts : List (List Char)} (h : Spells t s) (hname : isIdentifier name.toList = true)
      (hqualifier : name ∉ qualifierWords)
      (hprimitive : primitive? (s ++ ' ' :: name.toList) = none)
      (hrest : SpellsParams params texts) :
      SpellsParams (⟨name, t⟩ :: params) ((s ++ ' ' :: name.toList) :: texts)

end

/-! ## Legible texts -/

/-- What every suffix rule asks of the text before the suffix: that it begins with a word which is
no qualifier, ends visibly, and is nested. -/
structure Legible (s : List Char) : Prop where
  leads : leadWord s ≠ []
  unqualified : leadWord s ∉ qualifierMarks
  ends : ∀ c ∈ s.getLast?, isBlank c = false
  nested : Nested s
  unbroken : Unbroken s
  /-- Either no fixed signature has all its characters, or its blanks are as they should be. -/
  tidy : squeeze s = s ∨ ∃ c ∈ s, isBracket c = true

namespace Legible

variable {s : List Char}

lemma ne_nil (h : Legible s) : s ≠ [] := by
  rintro rfl
  exact h.leads rfl

lemma head_visible (h : Legible s) : ∀ c ∈ s.head?, isBlank c = false := by
  intro c hc
  refine isBlank_eq_false_of_isWordChar ?_
  have hne := h.leads
  cases s with
  | nil => simp at hc
  | cons d s =>
      obtain rfl : d = c := by simpa using hc
      by_contra hd
      exact hne (List.takeWhile_cons_of_neg hd)

lemma trim_eq (h : Legible s) : trim s = s :=
  trim_eq_self h.head_visible h.ends

lemma words_ne_nil (h : Legible s) : words s ≠ [] := by
  rw [ne_eq, words_eq_nil_iff]
  intro hblank
  obtain ⟨c, r, rfl⟩ := List.exists_cons_of_ne_nil h.ne_nil
  exact absurd (hblank c (by simp)) (by simp [h.head_visible c (by simp)])

/-- A text of word characters and single spaces that begins with no qualifier is legible. -/
lemma of_plain (hleads : leadWord s ≠ []) (hunqualified : leadWord s ∉ qualifierMarks)
    (hends : ∀ c ∈ s.getLast?, isBlank c = false)
    (hplain : ∀ c ∈ s, isBracket c = false ∧ c ≠ ',') (htidy : squeeze s = s) : Legible s where
  leads := hleads
  unqualified := hunqualified
  ends := hends
  nested := .of_plain fun c hc => (hplain c hc).1
  unbroken := .of_plain hplain
  tidy := .inl htidy

/-- A word behind a legible text, with a blank between them, makes a legible text. -/
lemma append_word (h : Legible s) {w : List Char} (hne : w ≠ [])
    (hw : ∀ c ∈ w, isBlank c = false ∧ isBracket c = false ∧ c ≠ ',') :
    Legible (s ++ ' ' :: w) where
  leads := by rw [leadWord_append_cons s (by simp)]; exact h.leads
  unqualified := by rw [leadWord_append_cons s (by simp)]; exact h.unqualified
  ends := by
    intro c hc
    rw [List.getLast?_append_cons, List.getLast?_cons_of_ne_nil hne] at hc
    exact (hw c (List.mem_of_getLast? hc)).1
  nested := h.nested.append (.of_plain (by simpa using ⟨by decide, fun c hc => (hw c hc).2.1⟩))
  unbroken := h.unbroken.append (.of_plain (by simpa using ⟨by decide, fun c hc => (hw c hc).2⟩))
  tidy := by
    refine h.tidy.imp (fun htidy => ?_) fun ⟨c, hc, hbracket⟩ => ⟨c, by simp [hc], hbracket⟩
    have hvisible : ∀ c ∈ w, isBlank c = false := fun c hc => (hw c hc).1
    rw [squeeze_append_blank (by decide) h.words_ne_nil (by simp [words_of_visible hne hvisible]),
      squeeze_of_visible hvisible, htidy]

/-- A bracketed text behind a legible text makes a legible text, if it matches on its own and is not
cut at its commas. -/
lemma append_bracketed (h : Legible s) {r : List Char} {c d : Char} (hc : isWordChar c = false)
    (hd : isBracket d = true) (hnested : Nested (c :: r ++ [d]))
    (hunbroken : Unbroken (c :: r ++ [d])) : Legible (s ++ (c :: r ++ [d])) where
  leads := by rw [List.cons_append, leadWord_append_cons s hc]; exact h.leads
  unqualified := by rw [List.cons_append, leadWord_append_cons s hc]; exact h.unqualified
  ends := by
    intro e he
    rw [← List.append_assoc, List.getLast?_concat] at he
    obtain rfl : d = e := by simpa using he
    simp only [isBracket, Bool.or_eq_true, beq_iff_eq] at hd
    rcases hd with ((rfl | rfl) | rfl) | rfl <;> decide
  nested := h.nested.append hnested
  unbroken := h.unbroken.append hunbroken
  tidy := .inr ⟨d, by simp, hd⟩

/-- A size behind a legible text makes a legible text, as its brackets belong together. -/
lemma append_size (h : Legible s) {size : List Char} (hfree : ∀ c ∈ size, isBracket c = false) :
    Legible (s ++ ('[' :: size ++ [']'])) :=
  have hsize : Nested size := .of_plain hfree
  h.append_bracketed (c := '[') (by simp) (by decide) hsize.brackets hsize.unbroken_brackets

/-- Parameters behind a legible text make a legible text, if they are nested among themselves. -/
lemma functionText (h : Legible s) {inner : List Char} (hinner : Nested inner) :
    Legible (functionText s inner) := by
  have hmarker : ∀ c ∈ [' '], isBracket c = false ∧ c ≠ ',' := by decide
  have hstar : ∀ c ∈ ['*'], isBracket c = false := by decide
  have hnested : Nested (" (*)".toList ++ ('(' :: inner ++ [')'])) :=
    ((Nested.of_plain fun c hc => (hmarker c hc).1).append (Nested.of_plain hstar).parens).append
      hinner.parens
  have hunbroken : Unbroken (" (*)".toList ++ ('(' :: inner ++ [')'])) :=
    ((Unbroken.of_plain hmarker).append (Nested.of_plain hstar).unbroken_parens).append
      hinner.unbroken_parens
  exact h.append_bracketed (c := ' ') (d := ')') (r := "(*)(".toList ++ inner) (by simp) (by decide)
    hnested hunbroken

end Legible

/-! ## The signatures of types are legible -/

namespace PlainName

variable {name : String}

lemma isWordChar_of_mem (h : PlainName name) : ∀ c ∈ name.toList, isWordChar c = true := by
  have := h.word
  simp only [isIdentifier, Bool.and_eq_true, List.all_eq_true] at this
  exact this.2

lemma toList_ne_nil (h : PlainName name) : name.toList ≠ [] := by
  have := h.word
  simp only [isIdentifier, Bool.and_eq_true, Bool.not_eq_true', List.isEmpty_eq_false_iff] at this
  exact this.1

end PlainName

/-- Word characters are neither brackets nor commas, so no scan stops at them. -/
lemma plain_of_isWordChar {c : Char} (h : isWordChar c = true) : isBracket c = false ∧ c ≠ ',' := by
  constructor
  · rw [Bool.eq_false_iff]
    intro hbracket
    simp only [isBracket, Bool.or_eq_true, beq_iff_eq] at hbracket
    rcases hbracket with ((rfl | rfl) | rfl) | rfl <;> simp at h
  · rintro rfl
    simp at h

/-- A type with no function in it is spelled without parentheses, so no marker is found in it. -/
theorem Spells.not_mem_paren {t : NativeType} {s : List Char} (h : Spells t s)
    (hfun : t.hasFunction = false) : '(' ∉ s := by
  cases h with
  | named h =>
      intro hmem
      exact absurd (h.isWordChar_of_mem _ hmem) (by simp)
  | primitive h =>
      have htable : ∀ p ∈ primitives, '(' ∉ p.1.toList := by decide
      exact htable _ h
  | string => decide
  | pointer h _ | const h | nullable h | nonnull h => simpa using h.not_mem_paren hfun
  | @array _ _ size h _ hfree =>
      have hsize : '(' ∉ size.toList := fun hmem => absurd (hfree '(' hmem) (by decide)
      simpa using ⟨h.not_mem_paren hfun, hsize⟩
  | procedure _ => simp [NativeType.hasFunction] at hfun
  | function _ _ _ => simp [NativeType.hasFunction] at hfun

/-- What a star makes a preset of is no signature of a type, `char` apart, for which the rule of
pointers makes an exception. -/
lemma Spells.eq_char_of_mem_starred {t : NativeType} {s : List Char} (h : Spells t s)
    (hmem : s ∈ starred) : s = "char".toList := by
  have hlast : ∀ w ∈ starred, ∃ c ∈ w.getLast?, isWordChar c = true ∧ c ≠ 't' ∧ c ≠ 'e' ∧
      c ≠ 'l' := by decide +kernel
  obtain ⟨c, hc, hword, ht, he, hl⟩ := hlast s hmem
  cases h with
  | @named name h =>
      have hkeys : ∀ w ∈ starred, ' ' ∈ w ∨
          w = "void".toList ∨ w = "NSString".toList ∨ w = "char".toList := by decide
      rcases hkeys _ hmem with hblank | heq | heq | heq
      · exact absurd (h.isWordChar_of_mem _ hblank) (by simp)
      · exact absurd (String.toList_inj.1 heq) h.ne_void
      · exact absurd (String.toList_inj.1 heq) h.ne_string
      · exact heq
  | primitive h =>
      have htable : ∀ p ∈ primitives, p.1.toList ∈ starred → p.1.toList = "char".toList := by
        decide
      exact htable _ h hmem
  | string => exact absurd hmem (by decide)
  | pointer _ _ | const _ | nullable _ | nonnull _ =>
      simp at hc
      subst hc
      simp_all
  | array _ _ _ =>
      rw [← List.append_assoc, List.getLast?_concat] at hc
      cases hc
      exact absurd hword (by simp)
  | procedure _ | function _ _ _ =>
      rw [getLast?_functionText] at hc
      cases hc
      exact absurd hword (by simp)

mutual

/-- Every signature of a type is legible, by induction on how it was put together. -/
theorem Spells.legible {t : NativeType} {s : List Char} (h : Spells t s) : Legible s := by
  cases h with
  | named h =>
      have hword := h.isWordChar_of_mem
      have hvisible : ∀ c ∈ _, isBlank c = false := fun c hc =>
        isBlank_eq_false_of_isWordChar (hword c hc)
      refine .of_plain ?_ ?_ (fun c hc => hvisible c (List.mem_of_getLast? hc))
        (fun c hc => plain_of_isWordChar (hword c hc)) (squeeze_of_visible hvisible)
      · rw [leadWord_eq_self hword]; exact h.toList_ne_nil
      · rw [leadWord_eq_self hword]; exact h.not_qualifier
  | primitive h =>
      have htable : ∀ p ∈ primitives, leadWord p.1.toList ≠ [] ∧
          leadWord p.1.toList ∉ qualifierMarks ∧
          (∀ c ∈ p.1.toList.getLast?, isBlank c = false) ∧
          (∀ c ∈ p.1.toList, isBracket c = false ∧ c ≠ ',') ∧
          squeeze p.1.toList = p.1.toList := by decide +kernel
      obtain ⟨hleads, hunqualified, hends, hplain, htidy⟩ := htable _ h
      exact .of_plain hleads hunqualified hends hplain htidy
  | string =>
      exact .of_plain (by decide +kernel) (by decide +kernel) (by decide) (by decide) (by decide)
  | pointer h _ | const h | nullable h | nonnull h =>
      exact h.legible.append_word (by simp) (by decide)
  | array h _ hfree => exact h.legible.append_size hfree
  | procedure hparams =>
      have hvoid : Legible "void".toList := .of_plain (by decide +kernel) (by decide +kernel)
        (by decide) (by decide) (by decide)
      exact hvoid.functionText (nested_intercalate fun text h => (hparams.legible text h).nested)
  | function h _ hparams =>
      exact h.legible.functionText
        (nested_intercalate fun text h => (hparams.legible text h).nested)

/-- The texts of parameters are legible, each in its own place of the list. -/
theorem SpellsParams.legible {params : List (Param NativeType)} {texts : List (List Char)}
    (h : SpellsParams params texts) : ∀ text ∈ texts, Legible text := by
  cases h with
  | nil => simp
  | unnamed h hrest => exact List.forall_mem_cons.2 ⟨h.legible, hrest.legible⟩
  | labelled h hname _ _ hrest =>
      simp only [isIdentifier, Bool.and_eq_true, Bool.not_eq_true', List.isEmpty_eq_false_iff,
        List.all_eq_true] at hname
      have hword := h.legible.append_word hname.1 fun c hc =>
        ⟨isBlank_eq_false_of_isWordChar (hname.2 c hc), plain_of_isWordChar (hname.2 c hc)⟩
      exact List.forall_mem_cons.2 ⟨hword, hrest.legible⟩

end

/-! ## Reading parameters -/

/-- The last words of types are qualifiers, so an unnamed parameter is read as one. -/
lemma Spells.splitName_eq {t : NativeType} {s : List Char} (h : Spells t s) :
    splitName s = ⟨"", s⟩ := by
  have hqualified : ∀ {t : NativeType} {s w : List Char}, Spells t s →
      (∀ c ∈ w, isWordChar c = true) → w ≠ [] → String.ofList w ∈ qualifierWords →
      splitName (s ++ ' ' :: w) = ⟨"", s ++ ' ' :: w⟩ := by
    intro t s w hs hw hne hmem
    by_cases hvocabulary : (primitive? (squeeze (s ++ ' ' :: w))).isSome = true ∨
        (preset? (squeeze (s ++ ' ' :: w))).isSome = true
    · exact splitName_of_vocabulary hvocabulary
    · simp only [not_or, Option.not_isSome_iff_eq_none] at hvocabulary
      rw [splitName_append_word hs.legible.trim_eq hs.legible.ne_nil hw hne hvocabulary.1
        hvocabulary.2, if_pos (by simpa using hmem)]
  cases h with
  | named h => exact splitName_of_word h.isWordChar_of_mem
  | primitive h =>
      have htable : ∀ p ∈ primitives, (primitive? (squeeze p.1.toList)).isSome = true := by
        decide +kernel
      have hkey := htable _ h
      exact splitName_of_vocabulary (.inl hkey)
  | string => exact splitName_of_vocabulary (.inr (by decide))
  | @pointer _ s _ _ =>
      rw [show s ++ [' ', '*'] = (s ++ [' ']) ++ ['*'] by simp]
      exact splitName_append_of_not_word _ (by simp)
  | const h => exact hqualified h (isWordChar_of_isAsciiWord (by decide)) (by decide) (by decide)
  | nullable h => exact hqualified h (isWordChar_of_isAsciiWord (by decide)) (by decide) (by decide)
  | nonnull h => exact hqualified h (isWordChar_of_isAsciiWord (by decide)) (by decide) (by decide)
  | array _ _ _ =>
      rw [← List.append_assoc]
      exact splitName_append_of_not_word _ (by simp)
  | procedure _ | function _ _ _ =>
      rw [functionText, ← List.append_assoc]
      exact splitName_append_of_not_word _ (by simp)

/-- An unnamed parameter is read as its type, with nothing taken off and put back wrongly.  In
particular no word of it is mistaken for a name. -/
lemma Spells.readParameter_eq {t : NativeType} {s : List Char} (h : Spells t s) :
    readParameter s = ⟨"", s⟩ := by
  have hclosed : s.getLast? = some ']' → ∃ t' size s', t = .array t' size ∧ Spells t' s' ∧
      s = s' ++ ('[' :: size.toList ++ [']']) ∧ ∀ c ∈ size.toList, isBracket c = false := by
    intro hlast
    cases h with
    | named h => exact absurd (h.isWordChar_of_mem _ (List.mem_of_getLast? hlast)) (by simp)
    | primitive h =>
        have htable : ∀ p ∈ primitives, p.1.toList.getLast? ≠ some ']' := by decide
        exact absurd hlast (htable _ h)
    | string => exact absurd hlast (by decide)
    | pointer _ _ | const _ | nullable _ | nonnull _ => simp at hlast
    | array h _ hfree => exact ⟨_, _, _, rfl, h, rfl, hfree⟩
    | procedure _ | function _ _ _ => simp [getLast?_functionText] at hlast
  by_cases hlast : s.getLast? = some ']'
  · obtain ⟨t', size, s', rfl, hs', rfl, hfree⟩ := hclosed hlast
    rcases List.eq_nil_or_concat' size.toList with hsize | ⟨r, c, hsize⟩
    · rw [hsize]
      have htrim : trimEnd s' = s' := by
        have := hs'.legible.trim_eq
        rwa [trim, trimStart_eq_self hs'.legible.head_visible] at this
      exact readParameter_append_open htrim hs'.splitName_eq
    · have hnone : stripTrailing ['[', ']'] (s' ++ ('[' :: size.toList ++ [']'])) = none := by
        refine Option.eq_none_iff_forall_ne_some.2 fun body hbody => ?_
        have heq := stripTrailing_eq_some_iff.1 hbody
        rw [hsize, show s' ++ ('[' :: (r ++ [c]) ++ [']']) = (s' ++ '[' :: r) ++ [c, ']'] by simp]
          at heq
        have hc : c = '[' := by simpa using (List.append_inj' heq rfl).2
        exact absurd (hfree c (by simp [hsize])) (by simp [hc, isBracket])
      rw [readParameter, hnone]
      exact h.splitName_eq
  · rw [readParameter_of_last hlast, h.splitName_eq]

/-- A named parameter is read as its name and its type. -/
lemma readParameter_labelled {t : NativeType} {s : List Char} {name : String} (h : Spells t s)
    (hname : isIdentifier name.toList = true) (hqualifier : name ∉ qualifierWords)
    (hprimitive : primitive? (s ++ ' ' :: name.toList) = none) :
    readParameter (s ++ ' ' :: name.toList) = ⟨name, s⟩ := by
  simp only [isIdentifier, Bool.and_eq_true, Bool.not_eq_true', List.isEmpty_eq_false_iff,
    List.all_eq_true] at hname
  obtain ⟨hne, hword⟩ := hname
  have hlegible := h.legible
  have hvisible : ∀ c ∈ name.toList, isBlank c = false := fun c hc =>
    isBlank_eq_false_of_isWordChar (hword c hc)
  have hsqueeze : squeeze (s ++ ' ' :: name.toList) = squeeze s ++ ' ' :: name.toList := by
    rw [squeeze_append_blank (by decide) hlegible.words_ne_nil
      (by simp [words_of_visible hne hvisible]), squeeze_of_visible hvisible]
  have hplain : primitive? (squeeze (s ++ ' ' :: name.toList)) = none := by
    rcases hlegible.tidy with htidy | ⟨c, hc, hbracket⟩
    · rwa [hsqueeze, htidy]
    · exact (not_vocabulary_of_bracket hbracket (by simp [hc])).2.2
  have hlast : (s ++ ' ' :: name.toList).getLast? ≠ some ']' := by
    rw [List.getLast?_append_cons, List.getLast?_cons_of_ne_nil hne]
    intro hlast
    exact absurd (hword _ (List.mem_of_getLast? hlast)) (by simp)
  have hpreset : preset? (squeeze (s ++ ' ' :: name.toList)) = none := by
    rw [hsqueeze]
    exact preset?_append_word hword hne
  rw [readParameter_of_last hlast, splitName_append_word hlegible.trim_eq hlegible.ne_nil hword hne
    hplain hpreset, if_neg (by simpa using hqualifier)]
  simp

/-- A parameter list is taken apart into the texts of its parameters: commas of nested lists do not
count. -/
lemma SpellsParams.parameterTexts_eq {params : List (Param NativeType)} {texts : List (List Char)}
    (h : SpellsParams params texts) : parameterTexts ([',', ' '].intercalate texts) = texts := by
  refine parameterTexts_intercalate (fun text htext => ?_) ?_
  · have hlegible := h.legible text htext
    exact ⟨hlegible.unbroken, hlegible.trim_eq, hlegible.ne_nil⟩
  · intro hvoid
    cases h with
    | nil => contradiction
    | unnamed h _ =>
        obtain rfl : _ = "void".toList := (List.cons.inj hvoid).1
        exact absurd (h.eq_char_of_mem_starred (by decide)) (by decide)
    | labelled _ _ _ _ _ =>
        have hmem : ' ' ∈ "void".toList := by
          rw [← (List.cons.inj hvoid).1]
          simp
        exact absurd hmem (by decide)

/-! ## Reading back -/

mutual

/-- A signature of a type is read as that type, by induction together with the statement on
parameters. -/
theorem Spells.parse_eq {t : NativeType} {s : List Char} (h : Spells t s) :
    parse s = .ok (some t) := by
  have hlegible := h.legible
  cases h with
  | @named name h =>
      have hpreset : preset? name.toList = none := by simpa [preset?] using h.not_preset
      have hprimitive : primitive? name.toList = none := by simpa [primitive?] using h.not_primitive
      rw [parse_of_word h.isWordChar_of_mem h.toList_ne_nil
        (fun heq => h.ne_void (String.toList_inj.1 heq)) hpreset hprimitive]
      simp
  | primitive h => exact parse_of_primitive h
  | string =>
      rw [Signature.parse_eq]
      rfl
  | @pointer t s h hchar =>
      have hstar : squeeze s ∉ starred := by
        rcases h.legible.tidy with htidy | ⟨c, hc, hbracket⟩
        · rw [htidy]
          exact fun hmem => hchar (h.eq_char_of_mem_starred hmem)
        · intro hmem
          have hplain : ∀ w ∈ starred, ∀ d ∈ w, isBracket d = false := by decide
          have hfree := hplain _ hmem c (mem_squeeze_of_isBracket hbracket hc)
          exact absurd hbracket (by simp [hfree])
      have hread := parse_append_star h.legible.unqualified h.legible.trim_eq h.legible.words_ne_nil
        hstar hlegible.nested.imbalance?_eq_none
      exact hread.trans (by rw [h.parse_eq]; rfl)
  | const h =>
      have hread := parse_append_word .const h.legible.unqualified h.legible.trim_eq
        h.legible.words_ne_nil (isWordChar_of_isAsciiWord (by decide)) (by decide)
        hlegible.nested.imbalance?_eq_none
      exact hread.trans (by rw [h.parse_eq]; rfl)
  | nullable h =>
      have hread := parse_append_word .nullable h.legible.unqualified h.legible.trim_eq
        h.legible.words_ne_nil (isWordChar_of_isAsciiWord (by decide)) (by decide)
        hlegible.nested.imbalance?_eq_none
      exact hread.trans (by rw [h.parse_eq]; rfl)
  | nonnull h =>
      have hread := parse_append_word .nonnull h.legible.unqualified h.legible.trim_eq
        h.legible.words_ne_nil (isWordChar_of_isAsciiWord (by decide)) (by decide)
        hlegible.nested.imbalance?_eq_none
      exact hread.trans (by rw [h.parse_eq]; rfl)
  | @array t s size h htrim hfree =>
      have hsize : '[' ∉ size.toList := fun hmem => absurd (hfree '[' hmem) (by decide)
      rw [parse_append_size (not_led (notMem_leadingMarks h.legible.unqualified))
        h.legible.head_visible h.legible.ne_nil hsize hlegible.nested.imbalance?_eq_none,
        h.parse_eq, htrim]
      simp [Except.map, someType]
  | procedure hparams =>
      refine parse_functionText (by decide) (by decide) (by decide) (by decide)
        hlegible.nested.imbalance?_eq_none ?_ hparams.readParams_eq
      rw [Signature.parse_eq]
      rfl
  | function h hresult hparams =>
      exact parse_functionText h.legible.trim_eq h.legible.ne_nil (h.not_mem_paren hresult)
        h.legible.nested.depth_eq_zero hlegible.nested.imbalance?_eq_none h.parse_eq
        hparams.readParams_eq

/-- The texts of parameters are read as these parameters. -/
theorem SpellsParams.readParams_eq {params : List (Param NativeType)} {texts : List (List Char)}
    (h : SpellsParams params texts) :
    readParams parse ((parameterTexts ([',', ' '].intercalate texts)).map readParameter) =
      .ok params := by
  rw [h.parameterTexts_eq]
  cases h with
  | nil => rfl
  | unnamed h hrest =>
      rw [List.map_cons, h.readParameter_eq, readParams, h.parse_eq]
      have htail := hrest.readParams_eq
      rw [hrest.parameterTexts_eq] at htail
      rw [htail]
      rfl
  | labelled h hname hqualifier hprimitive hrest =>
      rw [List.map_cons, readParameter_labelled h hname hqualifier hprimitive, readParams,
        h.parse_eq]
      have htail := hrest.readParams_eq
      rw [hrest.parameterTexts_eq] at htail
      rw [htail]
      rfl

end

/-- **Reading undoes spelling.**  Whatever the depth of a type, each of its signatures is read as
the type itself: no rule takes off a suffix that belongs to a part.  By induction on the spelling,
each step of which adds one suffix that the reader takes off first. -/
theorem ofText_of_spells {t : NativeType} {text : String} (h : Spells t text.toList) :
    ofText text = .ok (some t) :=
  h.parse_eq

/-- A function with a callback among its parameters, behind qualifiers and sizes: the spelling is
put together here, and the type that is read is the one that was spelled. -/
theorem ofText_callback :
    ofText ("unsigned long long const[4] (*)(NSView * _Nullable view, uint8_t[], " ++
      "void (*)(NSString *[] names, char const *) _Nonnull done) const[]") =
      .ok (some (.array (.const (.function (some (.array (.const (.primitive "uint64")) "4")) [
        ⟨"view", .nullable (.pointer (.named "NSView")) true⟩,
        ⟨"", .array (.primitive "uint8") ""⟩,
        ⟨"done", .nullable (.function none [⟨"names", .array .string ""⟩,
          ⟨"", .pointer (.const (.primitive "byte"))⟩]) false⟩])) "")) := by
  have hwide : Spells (.primitive "uint64") "unsigned long long".toList := .primitive (by decide)
  have hbyte : Spells (.primitive "uint8") "uint8_t".toList := .primitive (by decide)
  have hchar : Spells (.primitive "byte") "char".toList := .primitive (by decide)
  have hview : Spells (.named "NSView") "NSView".toList :=
    .named ⟨by decide, by decide, by decide, by decide, by decide, by decide +kernel⟩
  have hnames : Spells (.array .string "") ("NSString *".toList ++ "[]".toList) :=
    .array .string (by decide) (by simp)
  have hdone : Spells (.function none [⟨"names", .array .string ""⟩,
      ⟨"", .pointer (.const (.primitive "byte"))⟩])
      "void (*)(NSString *[] names, char const *)".toList :=
    .procedure (.labelled hnames (by decide) (by decide) (by decide)
      (.unnamed (.pointer (.const hchar) (by decide)) .nil))
  have hblock : Spells (.function (some (.array (.const (.primitive "uint64")) "4")) [
      ⟨"view", .nullable (.pointer (.named "NSView")) true⟩, ⟨"", .array (.primitive "uint8") ""⟩,
      ⟨"done", .nullable (.function none [⟨"names", .array .string ""⟩,
        ⟨"", .pointer (.const (.primitive "byte"))⟩]) false⟩]) _ :=
    .function (.array (.const hwide) (by decide) (by decide)) rfl
      (.labelled (.nullable (.pointer hview (by decide))) (by decide) (by decide) (by decide)
        (.unnamed (.array hbyte (by decide) (by simp))
          (.labelled (.nonnull hdone) (by decide) (by decide) (by decide) .nil)))
  have hwhole : Spells (.array _ "") _ := .array (.const hblock) (by decide) (by simp)
  refine ofText_of_spells ?_
  rw [String.toList_append]
  convert hwhole using 1
  decide +kernel

end Signature

end FrameworkBindings
