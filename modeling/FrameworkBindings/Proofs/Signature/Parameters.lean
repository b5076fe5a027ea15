import FrameworkBindings.Proofs.Signature.Cores
import FrameworkBindings.Proofs.Signature.Faults

/-!
# Parameters that are types

A parameter is cut in a type and a name by a look at its last word, before any of it is read.  This
module says what becomes of parameters that are types as they stand and have no name.

**Names.**  A type that is understood is not cut (`EndsInName`), unless a qualifier stands in front
of it (`not_endsInName`); with one in front any last word is taken for a name that is no qualifier
itself (`Leads.endsInName`).

**Why a qualifier makes the difference.**  The last word is taken for a name if something stands
before it, the whole is in no table and the word is no qualifier.  In a type of one word nothing
stands before it, and a type of several words that is understood ends in a mark, is in a table or is
qualified.  Only a qualifier in front is a word like any other to this test.

**Closing brackets.**  A closing `[]` is put behind the type without the blanks before it
(`respaced`).  That changes what is read only where nothing but qualifiers stands before the `[]`:
the last of them becomes a name (`parse_trimEnd_open`).

**`readParameter_keeps_iff`** says that these are the only ways in which a type is misread.  The two
ways are conditions on the text, `TakesWord` and `JoinsBrackets`, and both of them occur
(`readParameter_loses_each`).
-/

namespace FrameworkBindings.Signature

open Text

variable {s : List Char}

/-! ## Names -/

/-- A text with a last word ends in a character of a word. -/
lemma exists_last_of_lastWord (h : lastWord s ≠ []) :
    ∃ front c, s = front ++ [c] ∧ isWordChar c = true := by
  obtain ⟨w, c, hw⟩ := (List.eq_nil_or_concat (lastWord s)).resolve_left h
  rw [List.concat_eq_append] at hw
  have hc : c ∈ lastWord s := by simp [hw]
  refine ⟨frontOf s ++ w, c, ?_, isWordChar_of_mem_lastWord hc⟩
  rw [List.append_assoc, ← hw, frontOf_append_lastWord]

/-- The last word of a text with a qualifier behind it is that qualifier, if it is one.  So a type
that is qualified behind is never cut. -/
lemma lastWord_of_strip {w : String} {wrap : Wrap} {rest : List Char}
    (hw : (.trailing w, wrap) ∈ qualifiers) (h : (Affix.trailing w).strip s = some rest) :
    lastWord s = [] ∨ String.ofList (lastWord s) ∈ qualifierWords := by
  have hs := eq_append_of_strip_trailing h
  simp only [Affix.strip, Option.filter_eq_some_iff] at h
  rcases word_of_trailing hw with rfl | ⟨-, hword, hhead, hmem⟩
  · left
    rw [hs, show "*".toList = ['*'] from rfl]
    simp [lastWord]
  · right
    have hboundary : ∀ c ∈ rest.getLast?, isWordChar c = false := by
      intro c hc
      simpa [hhead, Option.mem_def.1 hc] using h.2
    rwa [hs, lastWord_append hword hboundary, String.ofList_toList]

/-- A word that is taken for a name is not empty. -/
lemma name_splitName_ne (h : EndsInName s) : (splitName s).name ≠ "" := by
  rw [splitName_of_endsInName h]
  exact fun hnil => h.word_ne_nil (String.ofList_eq_empty_iff.1 hnil)

/-- A type that is understood is not cut, unless a qualifier stands in front of it.  By the forms:
of each it is known what its text ends in. -/
lemma not_endsInName {t : NativeType} (hread : parse s = .ok (some t))
    (hknown : t.hasUnknown = false) (htrim : trim s = s) (hled : ¬ Led s) : ¬ EndsInName s := by
  intro hname
  obtain ⟨front, c, hs, hc⟩ := exists_last_of_lastWord hname.word_ne_nil
  have hlast : s.getLast? = some c := by rw [hs, List.getLast?_concat]
  have hfits := Form.fits s
  rw [parse_eq, htrim] at hread
  generalize Form.of s = form at hfits hread
  cases hfits with
  | void => cases hread
  | malformed | unopened => cases hread
  | preset h => rw [hname.not_preset] at h; cases h
  | primitive h => rw [hname.not_primitive] at h; cases h
  | function h =>
      rw [functionParts?_eq_none (by rw [hlast]; rintro ⟨⟩; simp at hc)] at h
      cases h
  | array hend =>
      rw [stripTrailing_eq_some_iff.1 hend, List.getLast?_concat, Option.some.injEq] at hlast
      simp [← hlast] at hc
  | wrapped h =>
      obtain ⟨⟨affix, wrap⟩, hq, hstrip⟩ := List.exists_of_findSome?_eq_some h
      obtain ⟨rest, hrest, -⟩ := Option.map_eq_some_iff.1 hstrip
      cases affix with
      | leading q => exact hled ⟨q, wrap, hq, rest, (stripLeading_eq_some_iff.1 hrest).symm⟩
      | trailing w =>
          rcases lastWord_of_strip hq hrest with hnil | hmem
          · exact hname.word_ne_nil hnil
          · exact hname.not_qualifier hmem
  | named h =>
      have hword : ∀ c ∈ s, isWordChar c = true :=
        List.all_eq_true.1 (Bool.and_eq_true_iff.1 h).2
      exact hname.front_ne_nil (by rw [frontOf_of_word hword]; rfl)
  | unrecognized =>
      cases hread
      cases hknown

namespace Leads

variable {q : String} {wrap : Wrap} {l r : List Char}

/-- A qualifier in front is more than a word with blanks before it, so it is left when the last word
is taken away. -/
lemma trim_frontOf_ne_nil (hq : (.leading q, wrap) ∈ qualifiers) (h : Leads q l) :
    trim (frontOf (l ++ r)) ≠ [] := by
  intro hblank
  have hfront : ∀ c ∈ frontOf (l ++ r), isBlank c = true := by
    rw [← words_eq_nil_iff, ← words_trim, hblank]
    rfl
  obtain ⟨blanks, rfl, -⟩ := h
  obtain ⟨w, hw, hwne, hwords, -⟩ := exists_word_of_leading hq
  obtain ⟨d, v, rfl⟩ := List.exists_cons_of_ne_nil hwne
  have hsplit := frontOf_append_lastWord (q.toList ++ blanks ++ r)
  cases hcut : frontOf (q.toList ++ blanks ++ r) with
  | nil =>
      -- the blank of the qualifier would be in the last word
      rw [hcut, List.nil_append] at hsplit
      have hmem : ' ' ∈ lastWord (q.toList ++ blanks ++ r) := by
        rw [hsplit, hw]
        simp
      exact absurd (isWordChar_of_mem_lastWord hmem) (by simp)
  | cons b rest =>
      -- the word of the qualifier would begin with a blank
      have hb := hfront b (hcut ▸ List.mem_cons_self)
      have hhead : b = d := by
        have heq := congrArg List.head? hsplit
        rw [hcut, hw] at heq
        simpa using heq
      rw [hhead, isBlank_eq_false_of_isWordChar (hwords d (by simp))] at hb
      exact Bool.false_ne_true hb

/-- With a qualifier in front the last word is taken for a name, unless it is a qualifier itself. -/
lemma endsInName (hq : (.leading q, wrap) ∈ qualifiers) (h : Leads q l) (htrim : trim r = r)
    (hne : r ≠ []) (hword : lastWord (l ++ r) ≠ [])
    (hplain : String.ofList (lastWord (l ++ r)) ∉ qualifierWords) : EndsInName (l ++ r) := by
  have hpresets : ∀ p ∈ presets, ∀ q ∈ qualifiers, q.1.isTrailing = false →
      q.1.text.toList <+: p.1.toList → p.1.toList.getLast? = some '*' := by decide
  have hprimitives : ∀ p ∈ primitives, ∀ q ∈ qualifiers, q.1.isTrailing = false →
      ¬ q.1.text.toList <+: p.1.toList := by decide
  have hsqueeze := h.squeeze_append hq (words_ne_nil_of_trim htrim hne)
  obtain ⟨front, c, hs, hc⟩ := exists_last_of_lastWord hword
  refine ⟨preset?_eq_none_iff.2 fun p hp heq => ?_, primitive?_eq_none_iff.2 fun p hp heq => ?_,
    hword, hplain, h.trim_frontOf_ne_nil hq⟩
  · have hlast := hpresets p hp _ hq rfl ⟨squeeze r, by rw [heq, hsqueeze]; rfl⟩
    rw [heq, hs, getLast?_squeeze front (isBlank_eq_false_of_isWordChar hc), Option.some.injEq]
      at hlast
    simp [hlast] at hc
  · exact hprimitives p hp _ hq rfl ⟨squeeze r, by rw [heq, hsqueeze]; rfl⟩

end Leads

/-! ## Closing brackets -/

/-- The text without a closing `[]` and the blanks before it: what is looked at for a name. -/
def body (s : List Char) : List Char :=
  match stripTrailing ['[', ']'] s with
  | none => s
  | some inner => trimEnd inner

/-- The text without the blanks before a closing `[]`, as it is put together again for the type. -/
def respaced (s : List Char) : List Char :=
  match stripTrailing ['[', ']'] s with
  | none => s
  | some inner => trimEnd inner ++ ['[', ']']

/-- Where no name is found, all of the text is the type, but for the blanks before the `[]`. -/
lemma readParameter_of_not_endsInName (h : ¬ EndsInName (body s)) :
    readParameter s = ⟨"", respaced s⟩ := by
  rw [readParameter, respaced]
  cases hend : stripTrailing ['[', ']'] s with
  | none =>
      rw [body, hend] at h
      exact splitName_of_not_endsInName h
  | some inner =>
      rw [body, hend] at h
      simp only [splitName_of_not_endsInName h]

/-- Where one is found the parameter has a name. -/
lemma name_readParameter_ne (h : EndsInName (body s)) : (readParameter s).name ≠ "" := by
  rw [readParameter]
  cases hend : stripTrailing ['[', ']'] s with
  | none | some inner =>
      rw [body, hend] at h
      exact name_splitName_ne h

variable {b : List Char}

/-- What stands before a `[]` begins with no blank if the whole is trimmed. -/
lemma head_visible_of_open (htrim : trim (b ++ ['[', ']']) = b ++ ['[', ']']) (hne : b ≠ []) :
    ∀ c ∈ b.head?, isBlank c = false := by
  have hvisible := (visible_of_trim_eq_self htrim).1
  rwa [List.head?_append_of_ne_nil _ hne] at hvisible

/-- What stands before a `[]` is not blank throughout, if the whole is trimmed. -/
lemma trimEnd_ne_nil_of_open (htrim : trim (b ++ ['[', ']']) = b ++ ['[', ']']) (hne : b ≠ []) :
    trimEnd b ≠ [] := by
  have hhead := head_visible_of_open htrim hne
  obtain ⟨c, b, rfl⟩ := List.exists_cons_of_ne_nil hne
  simp [trimEnd_cons_of_visible (hhead c rfl)]

/-- Without the blanks before the `[]` the text is still trimmed. -/
lemma trim_trimEnd_open (htrim : trim (b ++ ['[', ']']) = b ++ ['[', ']']) :
    trim (trimEnd b ++ ['[', ']']) = trimEnd b ++ ['[', ']'] := by
  by_cases hne : b = []
  · subst hne
    rfl
  · have hhead := head_visible_of_open htrim hne
    obtain ⟨c, b, rfl⟩ := List.exists_cons_of_ne_nil hne
    rw [trimEnd_cons_of_visible (hhead c rfl)]
    refine trim_eq_self (fun d hd => hhead d (by simpa using hd)) fun d hd => ?_
    rw [List.getLast?_append_of_ne_nil _ (by simp)] at hd
    cases hd
    decide

/-- Taking the blanks before a closing `[]` leaves a text as balanced as it was. -/
lemma imbalance?_trimEnd_open (b : List Char) :
    imbalance? (trimEnd b ++ ['[', ']']) = imbalance? (b ++ ['[', ']']) := by
  obtain ⟨trail, hb, htrail⟩ := exists_trimEnd b
  conv_rhs => rw [hb, List.append_assoc]
  exact (imbalance?_insert_plain
    (fun c hc => isBracket_eq_false_of_isBlank (htrail c hc)) _).symm

/-- Without a qualifier in front a closing `[]` makes an array of what stands before it. -/
lemma parse_append_open (hled : ¬ Led b) (htrim : trim (b ++ ['[', ']']) = b ++ ['[', ']'])
    (hbalance : imbalance? (b ++ ['[', ']']) = none) :
    parse (b ++ ['[', ']']) = (parse b).map fun t => some (.array (someType t) "") := by
  by_cases hne : b = []
  · subst hne
    have hform : Form.of (trim ([] ++ ['[', ']'])) = .array [] [] :=
      Form.eq_of_same (by decide +kernel)
    rw [parse_eq, hform, Form.interpret]
  · exact parse_append_size hled (head_visible_of_open htrim hne) hne
      (show '[' ∉ [] by simp) hbalance

/-- A text with a closing `[]` and no qualifier in front is its own core: nothing is taken off at
either end. -/
lemma core_append_open (hled : ¬ Led b) (htrim : trim (b ++ ['[', ']']) = b ++ ['[', ']']) :
    core (b ++ ['[', ']']) = b ++ ['[', ']'] := by
  refine core_eq_self htrim fun wrap inner hform => ?_
  have hqualified := Form.qualified?_of_eq_wrapped hform
  rw [show b ++ ['[', ']'] = (b ++ ['[']) ++ [']'] by simp, qualified?_append_bracket
    (by rwa [led_append_iff (by decide)]) (by decide)] at hqualified
  contradiction

/-- A qualifier in front of a closing `[]` is taken off, and the rest has the same core. -/
lemma parse_leads_open {q : String} {wrap : Wrap} {l : List Char}
    (hq : (.leading q, wrap) ∈ qualifiers) (hl : Leads q l)
    (htrim : trim (b ++ ['[', ']']) = b ++ ['[', ']'])
    (hbalance : imbalance? (b ++ ['[', ']']) = none) :
    core (l ++ (b ++ ['[', ']'])) = core (b ++ ['[', ']']) ∧
      parse (l ++ (b ++ ['[', ']'])) =
        (parse (b ++ ['[', ']'])).map fun t => some (wrap.apply (someType t)) := by
  have hne : b ++ ['[', ']'] ≠ [] := by simp
  have hpreset : preset? (squeeze (l ++ (b ++ ['[', ']']))) = none :=
    (not_vocabulary_of_bracket (c := ']') (by decide) (by simp)).2.1
  have hfunction : functionParts? (b ++ ['[', ']']) = none := functionParts?_eq_none (by simp)
  have hmarks : ∀ q ∈ qualifiers, q.1.text.toList ≠ [] ∧
      ∀ d ∈ q.1.text.toList.getLast?, d ≠ ']' := by decide
  obtain ⟨inner, hform, hinner⟩ := hl.form_first hq hbalance (words_ne_nil_of_trim htrim hne)
    hpreset hfunction fun w hw => by
      obtain ⟨wrap', hmem⟩ := mem_of_mem_before hw
      have hwne : w.toList ≠ [] := (hmarks _ hmem).1
      have hlast : ∀ d ∈ w.toList.getLast?, d ≠ ']' := (hmarks _ hmem).2
      simpa using strip_trailing_eq_none (s := ' ' :: b ++ ['[']) hlast hwne
  rw [← hl.trim_append hq htrim hne] at hform
  refine ⟨(core_of_wrapped hform).trans (core_of_trim_eq hinner), ?_⟩
  rw [parse_eq, hform, Form.interpret, parse_of_trim_eq hinner]

/-- Taking blanks off the end puts no qualifier in front. -/
lemma not_led_trimEnd (h : ¬ Led b) : ¬ Led (trimEnd b) := by
  rintro ⟨q, wrap, hq, hprefix⟩
  obtain ⟨trail, hb, -⟩ := exists_trimEnd b
  exact h ⟨q, wrap, hq, hprefix.trans ⟨trail, hb.symm⟩⟩

/-- A text that begins with a qualifier and ends in `[]` has both: the two do not overlap. -/
lemma exists_leads_open (hled : Led b) (htrim : trim (b ++ ['[', ']']) = b ++ ['[', ']']) :
    ∃ q wrap l b', (.leading q, wrap) ∈ qualifiers ∧ Leads q l ∧ b = l ++ b' ∧
      trim (b' ++ ['[', ']']) = b' ++ ['[', ']'] := by
  obtain ⟨q, wrap, hq, rest, hrest⟩ := (led_append_iff (c := '[') (by decide) [']']).2 hled
  obtain ⟨l, r, hs, hl, htrim', -⟩ := exists_leads hq htrim hrest.symm
  rcases List.append_eq_append_iff.1 hs with ⟨x, hx, hr⟩ | ⟨x, hx, hr⟩
  · cases x with
    | nil => exact ⟨q, wrap, l, [], hq, hl, by simpa using hx.symm, by rfl⟩
    | cons c x =>
        obtain ⟨rfl, -⟩ := List.cons.inj hr
        exact absurd (hl.plain hq '[' (by simp [hx])) (by decide)
  · exact ⟨q, wrap, l, x, hq, hl, hx, hr ▸ htrim'⟩

/-- An array without an element is one of anything. -/
lemma parse_open :
    parse ['[', ']'] = .ok (some (.array (.primitive NativeType.anyName) "")) := by
  have hform : Form.of (trim ['[', ']']) = .array [] [] := Form.eq_of_same (by decide +kernel)
  have hany : Form.of (trim []) = .preset (.primitive NativeType.anyName) := Form.of_eq_preset rfl
  rw [parse_eq, hform, Form.interpret, parse_eq, hany]
  rfl

/-- A qualifier next to a `[]` is the name of the element: the blank that the table looks for is
gone. -/
lemma parse_trimEnd_leads_open {q : String} {wrap : Wrap} {l : List Char}
    (hq : (.leading q, wrap) ∈ qualifiers) (hl : Leads q l)
    (htrim : trim (l ++ ['[', ']']) = l ++ ['[', ']']) :
    parse (trimEnd l ++ ['[', ']']) =
      .ok (some (.array (.named (String.ofList (trimEnd l))) "")) := by
  obtain ⟨-, -, hw, -⟩ := hl.trimEnd_eq hq
  have hbalance : imbalance? (l ++ ['[', ']']) = none := (hl.imbalance?_append hq).trans rfl
  rw [parse_append_open (not_led_of_word hw) (trim_trimEnd_open htrim)
    ((imbalance?_trimEnd_open l).trans hbalance), parse_of_trim_eq (trim_trimEnd l),
    parse_of_leads hq hl]
  rfl

/-- Without the blanks before a closing `[]` a text is read as the same type, unless nothing but
qualifiers stands there: then the last of them becomes a name. -/
lemma parse_trimEnd_open (htrim : trim (b ++ ['[', ']']) = b ++ ['[', ']'])
    (hbalance : imbalance? (b ++ ['[', ']']) = none) :
    (parse (trimEnd b ++ ['[', ']']) = parse (b ++ ['[', ']']) ∧
      (core (b ++ ['[', ']']) = ['[', ']'] → b = [])) ∨
    (b ≠ [] ∧ core (b ++ ['[', ']']) = ['[', ']'] ∧ ∃ t t' w,
      parse (b ++ ['[', ']']) = .ok (some t) ∧ parse (trimEnd b ++ ['[', ']']) = .ok (some t') ∧
      t.Alike (.array (.primitive NativeType.anyName) "") ∧
      t'.Alike (.array (.named (String.ofList w)) "") ∧ w ∈ leadingMarks) := by
  induction hlength : b.length using Nat.strong_induction_on generalizing b with
  | _ n ih =>
  by_cases hled : Led b
  · obtain ⟨q, wrap, l, b', hq, hl, rfl, htrim'⟩ := exists_leads_open hled htrim
    rw [List.append_assoc, hl.imbalance?_append hq] at hbalance
    obtain ⟨hcore, hparse⟩ := parse_leads_open hq hl htrim' hbalance
    rw [List.append_assoc, hcore, hparse]
    have halike := Wrap.alike_apply (ne_pointer_of_leading hq)
    by_cases hne : b' = []
    · subst hne
      rw [List.append_nil] at htrim ⊢
      obtain ⟨-, hword, -, hmark⟩ := hl.trimEnd_eq hq
      rw [List.nil_append, parse_open, parse_trimEnd_leads_open hq hl htrim]
      refine .inr ⟨?_, core_append_open (not_led_of_word (by simp)) htrim', _, _, trimEnd l, rfl,
        rfl, halike _, .refl _, hmark⟩
      rintro rfl
      exact hword rfl
    · have hend := trimEnd_ne_nil_of_open htrim' hne
      obtain ⟨-, hparse'⟩ := parse_leads_open hq hl (trim_trimEnd_open htrim')
        ((imbalance?_trimEnd_open b').trans hbalance)
      have hlt := hl.length_lt hq b'
      rw [trimEnd_append_of_trimEnd_ne_nil l hend, List.append_assoc, hparse']
      rcases ih b'.length (hlength ▸ hlt) htrim' hbalance rfl with
        ⟨hsame, hcore'⟩ | ⟨-, hcore', t, t', w, hread, hread', ht, ht', hw⟩
      · exact .inl ⟨by rw [hsame], fun h => absurd (hcore' h) hne⟩
      · rw [hread, hread']
        exact .inr ⟨by simp [hne], hcore', wrap.apply t, wrap.apply t', w, rfl, rfl,
          (halike t).trans ht, (halike t').trans ht', hw⟩
  · refine .inl ⟨?_, fun hcore => ?_⟩
    · rw [parse_append_open hled htrim hbalance, parse_append_open (not_led_trimEnd hled)
        (trim_trimEnd_open htrim) ((imbalance?_trimEnd_open b).trans hbalance),
        parse_of_trim_eq (trim_trimEnd b)]
    · rw [core_append_open hled htrim] at hcore
      simpa using hcore

/-! ## The main result -/

/-- A qualifier stands in front of the parameter, and the last word, which is none, is taken for the
name: what is left of the type is the qualifier without what it qualifies. -/
def TakesWord (s : List Char) : Prop :=
  Led s ∧ lastWord (body s) ≠ [] ∧ String.ofList (lastWord (body s)) ∉ qualifierWords

/-- Nothing but qualifiers stands before the closing `[]`, and the last of them is put next to
it. -/
def JoinsBrackets (s : List Char) : Prop :=
  core s = ['[', ']'] ∧ ['[', ']'] <:+ s ∧ s ≠ ['[', ']']

/-- What is before the `[]`, without its blanks, is a trimmed text. -/
lemma trim_trimEnd_of_open (htrim : trim (b ++ ['[', ']']) = b ++ ['[', ']']) :
    trim (trimEnd b) = trimEnd b := by
  by_cases hne : b = []
  · subst hne
    rfl
  · rw [trim_trimEnd, trim, trimStart_eq_self (head_visible_of_open htrim hne)]

/-- Where a word is taken the parameter has a name, or the word is the qualifier next to the
`[]`. -/
lemma TakesWord.endsInName_or (h : TakesWord s) (htrim : trim s = s)
    (hbalance : imbalance? s = none) : EndsInName (body s) ∨ JoinsBrackets s := by
  obtain ⟨hled, hword, hplain⟩ := h
  cases hend : stripTrailing ['[', ']'] s with
  | none =>
      rw [body, hend] at hword hplain ⊢
      obtain ⟨q, wrap, hq, rest, hrest⟩ := hled
      obtain ⟨l, r, rfl, hl, htrim', hne⟩ := exists_leads hq htrim hrest.symm
      exact .inl (hl.endsInName hq htrim' hne hword hplain)
  | some b =>
      rw [body, hend] at hword hplain ⊢
      obtain rfl := stripTrailing_eq_some_iff.1 hend
      obtain ⟨q, wrap, l, b', hq, hl, rfl, htrim'⟩ :=
        exists_leads_open ((led_append_iff (by decide) _).1 hled) htrim
      rw [List.append_assoc, hl.imbalance?_append hq] at hbalance
      by_cases hne : b' = []
      · subst hne
        have hcore := (parse_leads_open hq hl htrim' hbalance).1
        rw [core_append_open (not_led_of_word (by simp)) htrim'] at hcore
        refine .inr ⟨by rwa [List.append_assoc], ⟨_, rfl⟩, fun heq => ?_⟩
        obtain ⟨l', c, rfl, -⟩ := hl.exists_last hq
        simpa using congrArg List.length heq
      · have htrimEnd := trimEnd_append_of_trimEnd_ne_nil l (trimEnd_ne_nil_of_open htrim' hne)
        simp only [htrimEnd] at hword hplain ⊢
        exact .inl (hl.endsInName hq (trim_trimEnd_of_open htrim')
          (trimEnd_ne_nil_of_open htrim' hne) hword hplain)

/-- A type that is understood has a name split off only where a word is taken. -/
lemma takesWord_of_endsInName {t : NativeType} (hread : parse s = .ok (some t))
    (hknown : t.hasUnknown = false) (htrim : trim s = s) (h : EndsInName (body s)) :
    TakesWord s := by
  refine ⟨?_, h.word_ne_nil, h.not_qualifier⟩
  by_contra hled
  cases hend : stripTrailing ['[', ']'] s with
  | none =>
      rw [body, hend] at h
      exact not_endsInName hread hknown htrim hled h
  | some b =>
      rw [body, hend] at h
      obtain rfl := stripTrailing_eq_some_iff.1 hend
      have hled' : ¬ Led b := fun hb => hled ((led_append_iff (by decide) _).2 hb)
      rw [parse_append_open hled' htrim (imbalance?_of_parse htrim hread)] at hread
      obtain ⟨type, hb, heq⟩ := map_eq_ok_iff.1 hread
      cases heq
      cases type with
      | none => cases hknown
      | some e =>
          rw [← parse_of_trim_eq (trim_trimEnd b)] at hb
          exact not_endsInName hb hknown (trim_trimEnd_of_open htrim) (not_led_trimEnd hled') h

/-- A list of one parameter is read by reading this one. -/
lemma readParams_singleton (read : List Char → Reading) (p : Param (List Char)) :
    readParams read [p] = (read p.type).map fun type => [⟨p.name, someType type⟩] := by
  rw [readParams]
  cases read p.type <;> rfl

/-- An array of anything is not spelled as an array of a qualifier, so joining the brackets is seen
on the Go side. -/
lemma ne_of_alike {t t' : NativeType} {w : List Char} (hw : w ∈ leadingMarks)
    (h : t.Alike (.array (.primitive NativeType.anyName) ""))
    (h' : t'.Alike (.array (.named (String.ofList w)) "")) : t' ≠ t := by
  rintro rfl
  have hany : NativeType.anyName.toList ∉ leadingMarks := by decide
  have hspelling := (h.spelling .empty).symm.trans (h'.spelling .empty)
  have htext : NativeType.anyName = String.ofList w := by
    simpa [NativeType.spelling, Spelling.exact, Spelling.after] using hspelling
  rw [htext, String.toList_ofList] at hany
  exact hany hw

/-- The pieces of a parameter list are trimmed, before anything else is done to them. -/
lemma trim_of_mem_parameterTexts {text : List Char} (h : s ∈ parameterTexts text) :
    trim s = s := by
  unfold parameterTexts at h
  dsimp only at h
  split at h
  · contradiction
  · obtain ⟨raw, -, rfl⟩ := List.mem_map.1 (List.mem_filter.1 h).1
    exact trim_trim raw

/-- **A parameter that is a type as it stands keeps it and has no name**, unless a qualifier stands
in front of it and a word that is no qualifier behind, or nothing but qualifiers before a closing
`[]`. -/
theorem readParameter_keeps_iff {text : List Char} {t : NativeType}
    (hs : s ∈ parameterTexts text) (hread : parse s = .ok (some t))
    (hknown : t.hasUnknown = false) :
    readParams parse [readParameter s] = .ok [⟨"", t⟩] ↔ ¬ TakesWord s ∧ ¬ JoinsBrackets s := by
  have htrim := trim_of_mem_parameterTexts hs
  have hbalance := imbalance?_of_parse htrim hread
  by_cases hname : EndsInName (body s)
  · refine iff_of_false (fun h => ?_) fun h => ?_
    · rw [readParams_singleton] at h
      obtain ⟨type, -, heq⟩ := map_eq_ok_iff.1 h
      refine name_readParameter_ne hname ?_
      simpa using congrArg (List.map Param.name) heq
    · exact h.1 (takesWord_of_endsInName hread hknown htrim hname)
  · have htakes : ¬ JoinsBrackets s → ¬ TakesWord s := fun hjoins htakes =>
      (htakes.endsInName_or htrim hbalance).elim hname hjoins
    rw [readParameter_of_not_endsInName hname, readParams_singleton, respaced]
    cases hend : stripTrailing ['[', ']'] s with
    | none =>
        have hjoins : ¬ JoinsBrackets s := by
          rintro ⟨-, ⟨b, hb⟩, -⟩
          rw [stripTrailing_eq_some_iff.2 hb.symm] at hend
          contradiction
        exact iff_of_true (by rw [hread]; rfl) ⟨htakes hjoins, hjoins⟩
    | some b =>
        obtain rfl := stripTrailing_eq_some_iff.1 hend
        rcases parse_trimEnd_open htrim hbalance with
          ⟨hsame, hcore⟩ | ⟨hne, hcore, t₁, t₂, w, hread₁, hread₂, ht₁, ht₂, hw⟩
        · have hjoins : ¬ JoinsBrackets (b ++ ['[', ']']) := fun h =>
            h.2.2 (by rw [hcore h.1, List.nil_append])
          exact iff_of_true (by rw [hsame, hread]; rfl) ⟨htakes hjoins, hjoins⟩
        · obtain rfl : t₁ = t := by simpa [hread₁] using hread
          refine iff_of_false (fun h => ?_) fun h => ?_
          · rw [hread₂] at h
            refine ne_of_alike hw ht₁ ht₂ ?_
            simpa [Except.map, someType] using h
          · exact h.2 ⟨hcore, ⟨b, rfl⟩, by simpa using hne⟩

/-- A type with a qualifier on either side keeps both, as the last word is the one behind. -/
theorem readParameter_keeps_nonnull :
    readParams parse [readParameter "const NSRect _Nonnull".toList] =
      .ok [⟨"", .const (.nullable (.named "NSRect") false)⟩] := by
  have hread : parse "const NSRect _Nonnull".toList =
      .ok (some (.const (.nullable (.named "NSRect") false))) := by
    have hconst : Form.of (trim "const NSRect _Nonnull".toList) =
        .wrapped .const "NSRect _Nonnull".toList := Form.eq_of_same (by decide +kernel)
    have hnonnull : Form.of (trim "NSRect _Nonnull".toList) =
        .wrapped .nonnull "NSRect ".toList := Form.eq_of_same (by decide +kernel)
    have hname : Form.of (trim "NSRect ".toList) = .named := Form.eq_of_same (by decide +kernel)
    rw [parse_eq, hconst, Form.interpret, parse_eq, hnonnull, Form.interpret, parse_eq, hname]
    rfl
  have hpiece : "const NSRect _Nonnull".toList ∈
      parameterTexts "int, const NSRect _Nonnull".toList := by decide
  refine (readParameter_keeps_iff hpiece hread rfl).2 ⟨fun h => h.2.2 ?_, fun h => ?_⟩
  · decide +kernel
  · exact absurd h.2.1 (by decide)

/-- Both exceptions occur: a constant number becomes a parameter of type `const`, and a constant
array of anything becomes an array of `const`.  Outside a parameter list both texts are read as they
are meant. -/
theorem readParameter_loses_each :
    ("const uint8_t".toList ∈ parameterTexts "const uint8_t".toList ∧
      parse "const uint8_t".toList = .ok (some (.const (.primitive "uint8"))) ∧
      (NativeType.const (.primitive "uint8")).hasUnknown = false ∧
      readParams parse [readParameter "const uint8_t".toList] =
        .ok [⟨"uint8_t", .named "const"⟩]) ∧
    ("const []".toList ∈ parameterTexts "const []".toList ∧
      parse "const []".toList =
        .ok (some (.const (.array (.primitive NativeType.anyName) ""))) ∧
      (NativeType.const (.array (.primitive NativeType.anyName) "")).hasUnknown = false ∧
      readParams parse [readParameter "const []".toList] =
        .ok [⟨"", .array (.named "const") ""⟩]) := by
  have hconst : Form.of (trim "const".toList) = .named := Form.eq_of_same (by decide +kernel)
  refine ⟨⟨by decide, ?_, rfl, ?_⟩, by decide, ?_, rfl, ?_⟩
  · have hform : Form.of (trim "const uint8_t".toList) = .wrapped .const "uint8_t".toList :=
      Form.eq_of_same (by decide +kernel)
    have hnumber : Form.of (trim "uint8_t".toList) = .primitive "uint8" :=
      Form.eq_of_same (by decide +kernel)
    rw [parse_eq, hform, Form.interpret, parse_eq, hnumber]
    rfl
  · have hparam : readParameter "const uint8_t".toList = ⟨"uint8_t", "const".toList⟩ := by
      decide +kernel
    rw [hparam, readParams, parse_eq, hconst]
    rfl
  · have hform : Form.of (trim "const []".toList) = .wrapped .const "[]".toList :=
      Form.eq_of_same (by decide +kernel)
    have harray : Form.of (trim "[]".toList) = .array [] [] := Form.eq_of_same (by decide +kernel)
    have hany : Form.of (trim []) = .preset (.primitive NativeType.anyName) := Form.of_eq_preset rfl
    rw [parse_eq, hform, Form.interpret, parse_eq, harray, Form.interpret, parse_eq, hany]
    rfl
  · have hparam : readParameter "const []".toList = ⟨"", "const[]".toList⟩ := by
      decide +kernel
    have hform : Form.of (trim "const[]".toList) = .array "const".toList [] :=
      Form.eq_of_same (by decide +kernel)
    rw [hparam, readParams, parse_eq, hform, Form.interpret, parse_eq, hconst]
    rfl

end FrameworkBindings.Signature
