import FrameworkBindings.Proofs.Signature.Cores
import FrameworkBindings.Proofs.Signature.Cuts

/-!
# Qualifiers in front of a signature

On the Go side a qualifier in front of a signature should not show.  The order of the rules decides
whether it does: a function is taken apart before any qualifier is taken off, so that the one in
front goes to the result, and some qualifiers behind a text are taken off before some in front.

* `Bears` — the cores that a qualifier in front does not change: those that have nothing behind them
  that goes before it, and functions with a result like that.
* **`ofText_prefixed`** — with a qualifier in front a signature is read as a type again.  It looks
  the same if the core of the signature bears the qualifier, or if the cores of the two texts agree
  (`CoresAgree`), at the top or at the result of a function.
* `Shows` — the texts where a qualifier in front does make a difference (`shows_each`).

**Both ends.**  A qualifier can be put in front of a text (`LeadsAlike`) if those that go before it
can be taken off behind (`EndsAlike`), and one behind can be taken off if those that go before it
can be put in front of what is left.  Hence `alike_of_trim` proves both, by induction on the length.

**What the induction carries.**  It is not enough to know that the types look alike: a function
hands the qualifier to its result, and there the question is asked again.  `Keeps` therefore says of
two texts that the core of the second bears the qualifier if that of the first does, together with
the likeness of the types; it is transitive, and every step of the proof is one of its instances.

**Where the conditions come from.**  Each condition excludes texts on which the qualifier shows, and
one text of each kind is given: a function without a result, a core that ends in what goes before
the qualifier, and a function whose result is missing.
-/

namespace FrameworkBindings.Signature

open Text

/-! ## Cores that bear qualifiers -/

/-- The qualifier can be put in front of the text: it is the first that is taken off, or goes to a
result where it is. -/
inductive Bears (affix : Affix) : List Char → Prop
  /-- A text that is no function and has nothing behind it that goes before the qualifier. -/
  | bare {s : List Char} (hne : s ≠ []) (hfunction : functionParts? s = none)
      (hclear : ∀ other ∈ before affix, other.isTrailing = true → other.strip (' ' :: s) = none) :
      Bears affix s
  /-- A function with a result that bears the qualifier. -/
  | result {s result : List Char} {params : List (Param (List Char))}
      (hparts : functionParts? s = some (result, params)) (hsome : parse result ≠ .ok none)
      (h : Bears affix (core result)) : Bears affix s

variable {affix : Affix} {s : List Char}

/-- Nothing bears a qualifier less than the empty text, where the qualifier is read as a name. -/
lemma not_bears_nil : ¬ Bears affix [] := by
  intro h
  cases h with
  | bare hne => exact hne rfl
  | result hparts => contradiction

/-- The order of the table is transitive: what goes before one that goes before goes before. -/
lemma before_subset {affix other : Affix} {wrap : Wrap} (haffix : (affix, wrap) ∈ qualifiers)
    (h : other ∈ before affix) : before other ⊆ before affix := by
  have htable : ∀ q ∈ qualifiers, ∀ other ∈ before q.1, before other ⊆ before q.1 := by
    decide +kernel
  exact htable _ haffix other h

/-- A text with a qualifier behind it that goes before does not bear this one, so nothing is claimed
of such a text. -/
lemma not_bears_of_behind {w : String} {wrap : Wrap} {x : List Char}
    (hw : (.trailing w, wrap) ∈ qualifiers) (hmem : .trailing w ∈ before affix)
    (hbehind : (Affix.trailing w).strip (' ' :: s) = some (' ' :: x)) : ¬ Bears affix s := by
  intro h
  cases h with
  | bare _ _ hclear =>
      rw [hclear _ hmem rfl] at hbehind
      contradiction
  | result hparts =>
      have heq : s = x ++ w.toList := by simpa using eq_append_of_strip_trailing hbehind
      rw [(not_function_of_trailing hw heq).1] at hparts
      contradiction

/-- A qualifier behind nothing is its own core, but for the star, which leaves nothing.  Either way
this core does not bear the qualifier. -/
lemma not_bears_mark {w : String} {wrap : Wrap} (hw : (.trailing w, wrap) ∈ qualifiers)
    (hmem : .trailing w ∈ before affix) : ¬ Bears affix (core w.toList) := by
  rcases word_of_trailing hw with rfl | ⟨-, hword, -⟩
  · have hform : Form.of (trim "*".toList) = .wrapped .pointer [] :=
      Form.eq_of_same (by decide +kernel)
    rw [core_of_wrapped hform, core_nil]
    exact not_bears_nil
  · have htrim : trim w.toList = w.toList :=
      trim_eq_self (fun c hc => isBlank_eq_false_of_isWordChar (hword c (List.mem_of_head? hc)))
        fun c hc => isBlank_eq_false_of_isWordChar (hword c (List.mem_of_getLast? hc))
    rw [core_eq_self htrim fun wrap inner hform => ?_]
    · refine not_bears_of_behind (x := []) hw hmem ?_
      have hstrip : stripTrailing w.toList (' ' :: w.toList) = some [' '] :=
        stripTrailing_eq_some_iff.2 rfl
      simp [Affix.strip, hstrip]
    · have hqualified := qualified?_of_word hword
      rw [Form.qualified?_of_eq_wrapped hform] at hqualified
      cases hqualified

/-! ## Qualifiers at the ends -/

/-- If the core of the first text bears the qualifier, so does that of the second, and the types
look alike.  Where the first does not bear it nothing is said, which keeps the relation
transitive. -/
def Keeps (affix : Affix) (s s' : List Char) (t t' : NativeType) : Prop :=
  Bears affix (core s) → Bears affix (core s') ∧ t.Alike t'

namespace Keeps

variable {s' s'' : List Char} {t t' t'' : NativeType}

/-- Texts with the same core bear the same qualifiers. -/
lemma of_core_eq (hcore : core s = core s') (h : t.Alike t') : Keeps affix s s' t t' :=
  fun hbears => ⟨hcore ▸ hbears, h⟩

/-- Of a text that does not bear the qualifier there is nothing to show. -/
lemma of_not_bears (h : ¬ Bears affix (core s)) : Keeps affix s s' t t' :=
  fun hbears => absurd hbears h

lemma trans (h : Keeps affix s s' t t') (h' : Keeps affix s' s'' t' t'') :
    Keeps affix s s'' t t'' := by
  intro hbears
  obtain ⟨hbears', halike⟩ := h hbears
  obtain ⟨hbears'', halike'⟩ := h' hbears'
  exact ⟨hbears'', halike.trans halike'⟩

/-- The relation survives a qualifier around both types. -/
lemma apply (h : Keeps affix s s' t t') (wrap : Wrap) :
    Keeps affix s s' (wrap.apply t) (wrap.apply t') :=
  fun hbears => ⟨(h hbears).1, (h hbears).2.apply wrap⟩

end Keeps

/-- A qualifier that goes no later than `affix` can be put in front of the text.  The bound on the
qualifier lets the two halves of the induction call each other for earlier ones only. -/
def LeadsAlike (affix : Affix) (s : List Char) : Prop :=
  ∀ ⦃q : String⦄ ⦃wrap : Wrap⦄ ⦃l : List Char⦄ ⦃type : Option NativeType⦄,
    (.leading q, wrap) ∈ qualifiers → before (.leading q) ⊆ before affix → Leads q l →
    parse s = .ok type → ∃ type', parse (l ++ s) = .ok (some type') ∧
      Keeps affix s (l ++ s) (someType type) type'

/-- A qualifier that goes before `affix` can be taken off behind the text, and put around the type
instead. -/
def EndsAlike (affix : Affix) (s : List Char) : Prop :=
  ∀ ⦃w : String⦄ ⦃wrap : Wrap⦄ ⦃x : List Char⦄ ⦃type : Option NativeType⦄,
    (.trailing w, wrap) ∈ qualifiers → .trailing w ∈ before affix →
    (Affix.trailing w).strip s = some x → parse s = .ok type →
    ∃ type', parse x = .ok type' ∧
      Keeps affix s x (someType type) (wrap.apply (someType type'))

/-- Blanks around the text do not matter: those in front are handed to the qualifier. -/
lemma LeadsAlike.of_trim (h : LeadsAlike affix (trim s)) : LeadsAlike affix s := by
  intro q wrap l type hq hbefore hl hread
  obtain ⟨l', hl', htrim⟩ := hl.exists_trim s
  obtain ⟨type', hread', hkeeps⟩ := h hq hbefore hl' (by rwa [parse_trim])
  have htrimmed : Keeps affix s (trim s) (someType type) (someType type) :=
    .of_core_eq (core_trim s).symm (.refl _)
  have hsame : Keeps affix (l' ++ trim s) (l ++ s) type' type' :=
    .of_core_eq (core_of_trim_eq htrim.symm) (.refl _)
  exact ⟨type', (parse_of_trim_eq htrim).trans hread', htrimmed.trans (hkeeps.trans hsame)⟩

/-- With nothing behind it a qualifier is read as a name.  It is a reading, though not the one
without. -/
lemma leadsAlike_nil : LeadsAlike affix [] := by
  intro q wrap l type hq hbefore hl hread
  have hread' := parse_of_leads hq hl
  refine ⟨_, by rwa [List.append_nil], .of_not_bears ?_⟩
  rw [core_nil]
  exact not_bears_nil

/-! ### Behind -/

section Behind

variable {w : String} {wrap : Wrap} {x : List Char} {type : Option NativeType}
  (hw : (.trailing w, wrap) ∈ qualifiers) (hmem : .trailing w ∈ before affix)

include hw hmem

/-- A preset does not bear the star that it ends in, so the pointer that is taken off it may
show. -/
lemma ends_preset (htrim : trim s = s) (hstrip : (Affix.trailing w).strip s = some x)
    {preset : NativeType} (hpreset : preset? (squeeze s) = some preset) :
    (∃ type', parse x = .ok type') ∧ ¬ Bears affix (core s) := by
  have hplain : ∀ c ∈ x, isBracket c = false := by
    intro c hc
    by_contra hbracket
    have hcs : c ∈ s := by
      rw [eq_append_of_strip_trailing hstrip]
      exact List.mem_append_left _ hc
    rw [(not_vocabulary_of_bracket (by simpa using hbracket) hcs).2.1] at hpreset
    cases hpreset
  rw [core_eq_self htrim (by simp [Form.of_eq_preset hpreset])]
  exact ⟨exists_parse_of_plain hplain,
    not_bears_of_behind hw hmem (strip_trailing_append hstrip [' '])⟩

/-- With a qualifier in front that goes before the one behind, the two are taken off in either
order. -/
lemma ends_leads {wrap₀ wrap' : Wrap} {q : String} {l r : List Char}
    (haffix : (affix, wrap₀) ∈ qualifiers) (hq : (.leading q, wrap') ∈ qualifiers)
    (hbefore : .leading q ∈ before (.trailing w))
    (hl : Leads q l) (htrim : trim r = r) (hne : r ≠ []) (hbalance : imbalance? r = none)
    (hpreset : preset? (squeeze (l ++ r)) = none)
    (hstrip : (Affix.trailing w).strip (l ++ r) = some x) (hread : parse (l ++ r) = .ok type)
    (ihLeads : ∀ y, y.length < (l ++ r).length → LeadsAlike affix y)
    (ihEnds : EndsAlike affix r) :
    ∃ type', parse x = .ok type' ∧
      Keeps affix (l ++ r) x (someType type) (wrap.apply (someType type')) := by
  obtain ⟨l', c, hlast, hc⟩ := hl.exists_last hq
  rw [hlast, List.append_assoc, List.singleton_append] at hstrip
  obtain ⟨y, rfl, hr, hbehind⟩ := strip_trailing_of_blank hw hc hstrip
  rw [show l' ++ c :: y = l ++ y by simp [hlast]]
  have hclear : ∀ v, .trailing v ∈ before (.leading q) →
      (Affix.trailing v).strip (' ' :: r) = none := by
    intro v hv
    obtain ⟨wrap'', hv'⟩ := mem_of_mem_before hv
    refine Option.eq_none_iff_forall_ne_some.2 fun rest hrest => ?_
    obtain rfl := eq_of_strip_trailing hv' hw (eq_append_of_strip_trailing hbehind) hrest
    exact not_mem_before hv' (.inl hbefore) hv
  obtain ⟨inner, hform, hinner⟩ := hl.form_first hq hbalance (words_ne_nil_of_trim htrim hne)
    hpreset (not_function_of_trailing hw hr).1 hclear
  rw [← hl.trim_append hq htrim hne] at hform
  obtain ⟨type₁, hread₁, rfl⟩ := (parse_eq_ok_of_wrapped_iff hform).1 hread
  rw [parse_of_trim_eq hinner] at hread₁
  have hcore : core (l ++ r) = core r := (core_of_wrapped hform).trans (core_of_trim_eq hinner)
  by_cases hy : y = []
  · subst hy
    have hread' := parse_of_leads hq hl
    refine ⟨_, by rwa [List.append_nil], .of_not_bears ?_⟩
    rw [hcore, hr, List.nil_append]
    exact not_bears_mark hw hmem
  · have hlt : y.length < (l ++ r).length := by
      have := hl.length_lt hq r
      simp only [hr, List.length_append] at this ⊢
      omega
    have hsubset : before (.leading q) ⊆ before affix :=
      List.Subset.trans (before_subset hw hbefore) (before_subset haffix hmem)
    have hfront := Wrap.alike_apply (ne_pointer_of_leading hq) (someType type₁)
    obtain ⟨type₂, hread₂, hkeeps₂⟩ := ihEnds hw hmem (strip_trailing_of_cons hy hbehind) hread₁
    obtain ⟨type₃, hread₃, hkeeps₃⟩ := ihLeads y hlt hq hsubset hl hread₂
    exact ⟨some type₃, hread₃, (Keeps.of_core_eq hcore hfront).trans
      (hkeeps₂.trans (hkeeps₃.apply wrap))⟩

end Behind

/-- What shorter texts do, a text does with a qualifier behind it.  By the first rule that applies
to the text: a preset, the qualifier itself, or one in front that goes before it. -/
lemma endsAlike_of_shorter {wrap₀ : Wrap} (haffix : (affix, wrap₀) ∈ qualifiers)
    (htrim : trim s = s)
    (ihLeads : ∀ r, r.length < s.length → LeadsAlike affix r)
    (ihEnds : ∀ r, r.length < s.length → trim r = r → EndsAlike affix r) :
    EndsAlike affix s := by
  intro w wrap x type hw hmem hstrip hread
  have hbalance := imbalance?_of_parse htrim hread
  cases hpreset : preset? (squeeze s) with
  | some preset =>
      obtain ⟨⟨type', hread'⟩, hbears⟩ := ends_preset hw hmem htrim hstrip hpreset
      exact ⟨type', hread', .of_not_bears hbears⟩
  | none =>
      by_cases hfront : ∃ q rest, .leading q ∈ before (.trailing w) ∧
          (Affix.leading q).strip s = some rest
      · obtain ⟨q, rest, hbefore, hlead⟩ := hfront
        obtain ⟨wrap', hq⟩ := mem_of_mem_before hbefore
        obtain ⟨l, r, rfl, hl, htrim', hne⟩ :=
          exists_leads hq htrim (stripLeading_eq_some_iff.1 hlead)
        rw [hl.imbalance?_append hq] at hbalance
        exact ends_leads hw hmem haffix hq hbefore hl htrim' hne hbalance hpreset hstrip hread
          ihLeads (ihEnds r (hl.length_lt hq r) htrim')
      · have hform : Form.of (trim s) = .wrapped wrap x := by
          rw [htrim]
          refine form_behind hw hstrip hbalance hpreset fun q hbefore => ?_
          refine Option.eq_none_iff_forall_ne_some.2 fun rest hrest => ?_
          exact hfront ⟨q, rest, hbefore, hrest⟩
        obtain ⟨type', hread', rfl⟩ := (parse_eq_ok_of_wrapped_iff hform).1 hread
        exact ⟨type', hread', .of_core_eq (core_of_wrapped hform) (.refl _)⟩

/-! ### In front -/

section Front

variable {q : String} {wrap : Wrap} {l : List Char} {type : Option NativeType}
  (hq : (.leading q, wrap) ∈ qualifiers) (hbefore : before (.leading q) ⊆ before affix)
  (hl : Leads q l) (htrim : trim s = s) (hne : s ≠ [])

include hq hl hne

/-- With a qualifier in front, what has nothing behind still has nothing behind. -/
lemma Bears.leads (hfunction : functionParts? s = none) (h : Bears affix s) :
    Bears affix (l ++ s) := by
  cases h with
  | result hparts =>
      rw [hfunction] at hparts
      contradiction
  | bare _ _ hclear =>
      refine .bare (by simp [hne]) ?_ fun other hother htrail => ?_
      · rw [hl.functionParts?_append hq hne, hfunction, Option.map_none]
      · obtain ⟨l', c, hlast, hc⟩ := hl.exists_last hq
        obtain ⟨wrap', hmem⟩ := mem_of_mem_before hother
        obtain ⟨w, rfl⟩ : ∃ w, other = .trailing w := by
          cases other with
          | leading p => contradiction
          | trailing w => exact ⟨w, rfl⟩
        refine Option.eq_none_iff_forall_ne_some.2 fun rest hrest => ?_
        rw [hlast, List.append_assoc, List.singleton_append, ← List.cons_append] at hrest
        obtain ⟨x, -, -, hbehind⟩ := strip_trailing_of_blank hmem hc hrest
        rw [hclear _ hother rfl] at hbehind
        contradiction

include htrim

/-- A preset that the qualifier completes means the same without it. -/
lemma leads_preset (hread : parse s = .ok type) {preset : NativeType}
    (hpreset : preset? (squeeze (l ++ s)) = some preset) :
    ∃ type', parse (l ++ s) = .ok (some type') ∧
      Keeps affix s (l ++ s) (someType type) type' := by
  obtain ⟨hform, hform'⟩ := hl.form_preset hq (words_ne_nil_of_trim htrim hne) hpreset
  have htrim' := hl.trim_append hq htrim hne
  have hfunction : functionParts? s = none := by
    refine functionParts?_eq_none fun hlast => ?_
    have hparen : ')' ∈ l ++ s := List.mem_append_right _ (List.mem_of_getLast? hlast)
    rw [(not_vocabulary_of_bracket (by decide) hparen).2.1] at hpreset
    contradiction
  have hread' : parse (l ++ s) = .ok (some preset) := by
    rw [parse_eq, htrim', hform, Form.interpret]
  obtain rfl : type = some preset := by
    rw [parse_eq, htrim, hform', Form.interpret] at hread
    exact (Except.ok.inj hread).symm
  refine ⟨preset, hread', fun hbears => ⟨?_, .refl _⟩⟩
  rw [core_eq_self htrim (by simp [hform'])] at hbears
  rw [core_eq_self htrim' (by simp [hform])]
  exact Bears.leads hq hl hne hfunction hbears

variable (hbalance : imbalance? s = none)

include hbalance hbefore

/-- A function hands the qualifier on to its result, where the induction answers for it. -/
lemma leads_function (hread : parse s = .ok type) {result : List Char}
    {params : List (Param (List Char))} (hparts : functionParts? s = some (result, params))
    (ihLeads : LeadsAlike affix result) :
    ∃ type', parse (l ++ s) = .ok (some type') ∧
      Keeps affix s (l ++ s) (someType type) type' := by
  have htrim' := hl.trim_append hq htrim hne
  obtain ⟨hform, hform'⟩ := hl.form_function hq hbalance hne hparts
  have hcore := core_eq_self htrim (by simp [hform])
  have hcore' := core_eq_self htrim' (by simp [hform'])
  rw [← htrim] at hform
  rw [← htrim'] at hform'
  obtain ⟨type₁, params', hresult, hparams, rfl⟩ := (parse_eq_ok_of_function_iff hform).1 hread
  obtain ⟨type₂, hresult', hkeeps⟩ := ihLeads hq hbefore hl hresult
  refine ⟨.function (some type₂) params',
    (parse_eq_ok_of_function_iff hform').2 ⟨_, _, hresult', hparams, rfl⟩, fun hbears => ?_⟩
  rw [hcore] at hbears
  rw [hcore']
  cases hbears with
  | bare _ hfunction =>
      rw [hparts] at hfunction
      contradiction
  | result hparts' hsome hbears =>
      rw [hparts] at hparts'
      cases hparts'
      obtain ⟨hbears, halike⟩ := hkeeps hbears
      have hparts' : functionParts? (l ++ s) = some (l ++ result, params) := by
        rw [hl.functionParts?_append hq hne, hparts, Option.map_some]
      refine ⟨.result hparts' (by simp [hresult']) hbears, ?_⟩
      cases type₁ with
      | none => exact absurd hresult hsome
      | some t => exact halike.function params'

/-- A text that is no function gives way to the qualifier, and what goes before it behind the text
is taken off first.  That leaves a shorter text with the qualifier still in front. -/
lemma leads_other (hread : parse s = .ok type) (hpreset : preset? (squeeze (l ++ s)) = none)
    (hfunction : functionParts? s = none) (hends : EndsAlike affix s)
    (ihLeads : ∀ r, r.length < s.length → LeadsAlike affix r) :
    ∃ type', parse (l ++ s) = .ok (some type') ∧
      Keeps affix s (l ++ s) (someType type) type' := by
  have htrim' := hl.trim_append hq htrim hne
  have hwords := words_ne_nil_of_trim htrim hne
  by_cases hfirst : ∃ w rest, .trailing w ∈ before (.leading q) ∧
      (Affix.trailing w).strip (' ' :: s) = some rest
  · obtain ⟨w, rest, hw, hstrip⟩ := hfirst
    obtain ⟨wrap', hw'⟩ := mem_of_mem_before hw
    obtain ⟨x, rfl, hs, hbehind⟩ := strip_trailing_of_blank (l := []) hw' (by decide) hstrip
    have hform := hl.form_later hq hbalance hwords hpreset hfunction hw' hw hbehind
    rw [← htrim'] at hform
    by_cases hx : x = []
    · subst hx
      have hread' := parse_of_leads hq hl
      rw [← List.append_nil l] at hread'
      refine ⟨_, (parse_eq_ok_of_wrapped_iff hform).2 ⟨_, hread', rfl⟩, .of_not_bears ?_⟩
      rw [hs, List.nil_append]
      exact not_bears_mark hw' (hbefore hw)
    · have hmark : ∀ q ∈ qualifiers, q.1.text.toList ≠ [] := by decide
      have hrest := strip_trailing_of_cons hx hbehind
      obtain ⟨type₁, hread₁, hkeeps₁⟩ := hends hw' (hbefore hw) hrest hread
      obtain ⟨type₂, hread₂, hkeeps₂⟩ :=
        ihLeads x (length_lt_of_strip (hmark _ hw') hrest) hq hbefore hl hread₁
      refine ⟨wrap'.apply type₂, (parse_eq_ok_of_wrapped_iff hform).2 ⟨_, hread₂, rfl⟩, ?_⟩
      exact (hkeeps₁.trans (hkeeps₂.apply wrap')).trans
        (.of_core_eq (core_of_wrapped hform).symm (.refl _))
  · obtain ⟨inner, hform, hinner⟩ := hl.form_first hq hbalance hwords hpreset hfunction fun w hw =>
      Option.eq_none_iff_forall_ne_some.2 fun rest hrest => hfirst ⟨w, rest, hw, hrest⟩
    rw [← htrim'] at hform
    have hread' : parse inner = .ok type := (parse_of_trim_eq hinner).trans hread
    have hcore : core (l ++ s) = core s := (core_of_wrapped hform).trans (core_of_trim_eq hinner)
    exact ⟨wrap.apply (someType type), (parse_eq_ok_of_wrapped_iff hform).2 ⟨_, hread', rfl⟩,
      .of_core_eq hcore.symm (Wrap.alike_apply (ne_pointer_of_leading hq) _).symm⟩

end Front

/-- What shorter texts do, a text does with a qualifier in front of it. -/
lemma leadsAlike_of_shorter (htrim : trim s = s) (hends : EndsAlike affix s)
    (ihLeads : ∀ r, r.length < s.length → LeadsAlike affix r) : LeadsAlike affix s := by
  intro q wrap l type hq hbefore hl hread
  by_cases hne : s = []
  · subst hne
    exact leadsAlike_nil hq hbefore hl hread
  have hbalance := imbalance?_of_parse htrim hread
  cases hpreset : preset? (squeeze (l ++ s)) with
  | some preset => exact leads_preset hq hl htrim hne hread hpreset
  | none =>
      cases hparts : functionParts? s with
      | some parts =>
          obtain ⟨result, params⟩ := parts
          exact leads_function hq hbefore hl htrim hne hbalance hread hparts
            (ihLeads result (length_lt_of_functionParts? hparts).1)
      | none =>
          exact leads_other hq hbefore hl htrim hne hbalance hread hpreset hparts hends ihLeads

/-! ## The main result -/

/-- Both ends of a text at once, by induction on its length: neither goes without the other. -/
lemma alike_of_trim {wrap₀ : Wrap} (haffix : (affix, wrap₀) ∈ qualifiers) (htrim : trim s = s) :
    EndsAlike affix s ∧ LeadsAlike affix s := by
  induction hlength : s.length using Nat.strong_induction_on generalizing s with
  | _ n ih =>
  subst hlength
  have ihLeads : ∀ r, r.length < s.length → LeadsAlike affix r := by
    intro r hr
    have hlt := Nat.lt_of_le_of_lt (length_trim_le r) hr
    exact .of_trim (ih _ hlt (trim_trim r) rfl).2
  have hends := endsAlike_of_shorter haffix htrim ihLeads fun r hr htrim => (ih _ hr htrim rfl).1
  exact ⟨hends, leadsAlike_of_shorter htrim hends ihLeads⟩

/-- **A qualifier in front of a signature does not show**, if the core of the signature bears it or
if the cores agree with it and without it.  Either way the signature is read as a type again, so
nothing that was understood is lost by a qualifier. -/
theorem ofText_prefixed {q text : String} {wrap : Wrap} {type : NativeType}
    (hq : (.leading q, wrap) ∈ qualifiers) (h : ofText text = .ok (some type)) :
    ∃ type', ofText (q ++ text) = .ok (some type') ∧
      (Bears (.leading q) (core text.toList) ∨ CoresAgree text.toList (q ++ text).toList →
        type.Alike type') := by
  have hstars : ∀ q ∈ qualifiers, q.1.isTrailing = false → q.1.text.toList.count '*' = 0 := by
    decide
  have hleads := LeadsAlike.of_trim (alike_of_trim hq (trim_trim text.toList)).2
  obtain ⟨type', hread, hkeeps⟩ := hleads hq (List.Subset.refl _) (.self q) h
  rw [← String.toList_append] at hread hkeeps
  refine ⟨type', hread, ?_⟩
  rintro (hbears | hagree)
  · exact (hkeeps hbears).2
  · have hfree : q.toList.count '*' = 0 := hstars _ hq rfl
    refine hagree.alike ?_ h hread
    rw [String.toList_append, List.count_append, hfree, Nat.zero_add]

/-- A block with a result bears a qualifier, though one behind it is taken off before: what is borne
is read off the core. -/
theorem ofText_prefixed_block :
    ofText "int (^)(float) _Nullable" = .ok (some (.nullable
      (.function (some (.primitive "int")) [⟨"", .primitive "float32"⟩]) true)) ∧
    ∃ type', ofText ("const " ++ "int (^)(float) _Nullable") = .ok (some type') ∧
      (NativeType.nullable
        (.function (some (.primitive "int")) [⟨"", .primitive "float32"⟩]) true).Alike type' := by
  have hwhole : Form.of (trim "int (^)(float) _Nullable".toList) =
      .wrapped .nullable "int (^)(float) ".toList := Form.eq_of_same (by decide +kernel)
  have hblock : Form.of (trim "int (^)(float) ".toList) =
      .function "int ".toList [⟨"", "float".toList⟩] := Form.eq_of_same (by decide +kernel)
  have hresult : Form.of (trim "int ".toList) = .primitive "int" :=
    Form.eq_of_same (by decide +kernel)
  have hparam : Form.of (trim "float".toList) = .primitive "float32" :=
    Form.eq_of_same (by decide +kernel)
  have hread : ofText "int (^)(float) _Nullable" = .ok (some (.nullable
      (.function (some (.primitive "int")) [⟨"", .primitive "float32"⟩]) true)) := by
    rw [ofText, parse_eq, hwhole, Form.interpret, parse_eq, hblock, Form.interpret,
      parse_eq "int ".toList, hresult, Form.interpret, readParams, parse_eq, hparam]
    rfl
  have hconst : (.leading "const ", .const) ∈ qualifiers := by decide
  obtain ⟨type', hread', halike⟩ := ofText_prefixed hconst hread
  refine ⟨hread, type', hread', halike (.inl ?_)⟩
  have hcore : core "int (^)(float) ".toList = "int (^)(float)".toList :=
    core_of_not_wrapped (by rw [hblock]; simp)
  have hcore' : core "int ".toList = "int".toList := core_of_not_wrapped (by rw [hresult]; simp)
  have hparts : functionParts? "int (^)(float)".toList =
      some ("int ".toList, [⟨"", "float".toList⟩]) := rfl
  rw [core_of_wrapped hwhole, hcore]
  refine .result hparts ?_ ?_
  · rw [parse_eq, hresult, Form.interpret]
    simp
  · rw [hcore']
    exact .bare (by decide) rfl (by decide)

/-! ## Where a qualifier shows -/

/-- The qualifier in front of the text changes what the type looks like: both texts are read as
types, and these differ in their names or in their casts. -/
def Shows (q text : String) : Prop :=
  (∃ wrap, (.leading q, wrap) ∈ qualifiers) ∧ trim text.toList ≠ [] ∧
    ∃ type type', ofText text = .ok (some type) ∧ ofText (q ++ text) = .ok (some type') ∧
      ¬ type.Alike type'

/-- The word `int` is a primitive.  Evaluated once, for the texts below that end in it. -/
lemma parse_int : parse "int".toList = .ok (some (.primitive "int")) := by
  have hform : Form.of (trim "int".toList) = .primitive "int" := Form.eq_of_same (by decide +kernel)
  rw [parse_eq, hform, Form.interpret]

/-- A qualifier with nothing behind it is a name. -/
lemma parse_const : parse "const ".toList = .ok (some (.named "const")) := by
  have hform : Form.of (trim "const ".toList) = .named := Form.eq_of_same (by decide +kernel)
  rw [parse_eq, hform]
  rfl

/-- A block without a result gets one, named by the qualifier, which goes to the `void` before
it. -/
lemma shows_void : Shows "nullable " "void (^)(int)" := by
  have hblock : Form.of (trim "void (^)(int)".toList) =
      .function "void ".toList [⟨"", "int".toList⟩] := Form.eq_of_same (by decide +kernel)
  have hblock' : Form.of (trim ("nullable " ++ "void (^)(int)").toList) =
      .function "nullable void ".toList [⟨"", "int".toList⟩] := Form.eq_of_same (by decide +kernel)
  have hresult : Form.of (trim "void ".toList) = .void := Form.eq_of_same (by decide +kernel)
  have hresult' : Form.of (trim "nullable void ".toList) = .wrapped .nullable "void".toList :=
    Form.eq_of_same (by decide +kernel)
  have hvoid : Form.of (trim "void".toList) = .void := Form.eq_of_same (by decide +kernel)
  refine ⟨⟨.nullable, by decide⟩, by decide, .function none [⟨"", .primitive "int"⟩],
    .function (some (.nullable .voidValue true)) [⟨"", .primitive "int"⟩], ?_, ?_,
    fun h => absurd (h.spelling .empty) (by decide)⟩
  · rw [ofText, parse_eq, hblock, Form.interpret, parse_eq "void ".toList, hresult, Form.interpret,
      readParams, parse_int]
    rfl
  · rw [ofText, parse_eq, hblock', Form.interpret, parse_eq "nullable void ".toList, hresult',
      Form.interpret, parse_eq "void".toList, hvoid, Form.interpret, readParams, parse_int]
    rfl

/-- The star of a preset is taken off before the qualifier, so the preset is not found any more. -/
lemma shows_string : Shows "__null_unspecified " "NSString *" := by
  have hstring : Form.of (trim "NSString *".toList) = .preset .string := Form.of_eq_preset rfl
  have hstring' : Form.of (trim ("__null_unspecified " ++ "NSString *").toList) =
      .wrapped .pointer "__null_unspecified NSString ".toList := Form.eq_of_same (by decide +kernel)
  have helem : Form.of (trim "__null_unspecified NSString ".toList) =
      .wrapped .silent "NSString".toList := Form.eq_of_same (by decide +kernel)
  have hname : Form.of (trim "NSString".toList) = .named := Form.eq_of_same (by decide +kernel)
  refine ⟨⟨.silent, by decide⟩, by decide, .string, .pointer (.named "NSString"), ?_, ?_,
    fun h => absurd (h.spelling .empty) (by decide)⟩
  · rw [ofText, parse_eq, hstring, Form.interpret]
  · rw [ofText, parse_eq, hstring', Form.interpret, parse_eq, helem, Form.interpret, parse_eq,
      hname]
    rfl

/-- A name that is a qualifier behind becomes one, as soon as there is a blank in front of it. -/
lemma shows_mark : Shows "const " "_Nullable" := by
  have hword : Form.of (trim "_Nullable".toList) = .named := Form.eq_of_same (by decide +kernel)
  have hword' : Form.of (trim ("const " ++ "_Nullable").toList) =
      .wrapped .nullable "const ".toList := Form.eq_of_same (by decide +kernel)
  refine ⟨⟨.const, by decide⟩, by decide, .named "_Nullable", .nullable (.named "const") true,
    ?_, ?_, fun h => absurd (h.spelling .empty) (by decide)⟩
  · rw [ofText, parse_eq, hword]
    rfl
  · rw [ofText, parse_eq, hword', Form.interpret, parse_const]
    rfl

/-- Where a block has nothing for its result, the qualifier is the name of the result. -/
lemma shows_blank : Shows "const " "(^)(int)" := by
  have hblock : Form.of (trim "(^)(int)".toList) = .function [] [⟨"", "int".toList⟩] :=
    Form.eq_of_same (by decide +kernel)
  have hblock' : Form.of (trim ("const " ++ "(^)(int)").toList) =
      .function "const ".toList [⟨"", "int".toList⟩] := Form.eq_of_same (by decide +kernel)
  have hnil : Form.of (trim []) = .preset (.primitive NativeType.anyName) := Form.of_eq_preset rfl
  refine ⟨⟨.const, by decide⟩, by decide,
    .function (some (.primitive NativeType.anyName)) [⟨"", .primitive "int"⟩],
    .function (some (.named "const")) [⟨"", .primitive "int"⟩], ?_, ?_,
    fun h => absurd (h.spelling .empty) (by decide)⟩
  · rw [ofText, parse_eq, hblock, Form.interpret, parse_eq [], hnil, Form.interpret, readParams,
      parse_int]
    rfl
  · rw [ofText, parse_eq, hblock', Form.interpret, parse_const, readParams, parse_int]
    rfl

/-- Each of the conditions counts: a qualifier shows on a function without a result, on a core that
ends in what goes before it, and on a result that is missing. -/
theorem shows_each :
    Shows "nullable " "void (^)(int)" ∧ Shows "__null_unspecified " "NSString *" ∧
      Shows "const " "_Nullable" ∧ Shows "const " "(^)(int)" :=
  ⟨shows_void, shows_string, shows_mark, shows_blank⟩

end FrameworkBindings.Signature
