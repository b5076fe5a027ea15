import FrameworkBindings.Proofs.Signature.Affixes
import FrameworkBindings.Proofs.Types.Erasure

/-!
# What qualifiers leave of a signature

Qualifiers are taken off a signature one at a time, until another rule applies to the text that is
left.  Of the qualifiers only the star shows on the Go side.

* `core` — the text that is left when the qualifiers are taken off a signature.
* `exists_pointers` — a signature is read as the type of its core, with a pointer around it for each
  star that was taken off.
* **`alike_of_core_eq`** — so texts with the same core and equally many stars are read alike.
* `CoresAgree` — the same one level down and further: functions that differ in a result which comes
  down to the same core.  `CoresAgree.alike` follows the reader from the result to the function.

**Stars are counted, not ordered.**  Which qualifiers are taken off, and in which order, depends on
the table and on both ends of the text.  The number of stars among them does not: it is what the
core has fewer than the text (`count_star_of_qualified?`).  With the count the types can be compared
without following the two readings side by side.

**Functions.**  A qualifier in front of a function goes to the result, so the two texts have
different cores although the difference is in the result alone.  Agreement is therefore defined by
the same recursion that the reader follows: on cores, or on the results of two functions with the
same parameters.
-/

namespace FrameworkBindings

/-! ## Types that look alike -/

namespace NativeType.Alike

variable {t t' : NativeType}

/-- Alike types stay alike under a qualifier, whichever of them it is. -/
lemma apply (h : t.Alike t') (wrap : Signature.Wrap) : (wrap.apply t).Alike (wrap.apply t') where
  spelling store := by
    cases wrap <;> simp [Signature.Wrap.apply, NativeType.spelling, h.spelling store]
  toNative store e := by
    cases wrap <;> simp [Signature.Wrap.apply, NativeType.toNative, h.toNative store e]
  toHost store e := by
    cases wrap <;> simp [Signature.Wrap.apply, NativeType.toHost, h.toHost store e]

/-- Alike results make functions alike, as a function shows its result by what it is cast to. -/
lemma function (h : t.Alike t') (params : List (Param NativeType)) :
    (NativeType.function (some t) params).Alike (.function (some t') params) where
  spelling store := by simp [NativeType.spelling, h.spelling store]
  toNative _ _ := rfl
  toHost _ _ := rfl

/-- Alike types stay alike behind any number of pointers. -/
lemma iterate_pointer (h : t.Alike t') (k : ℕ) :
    (NativeType.pointer^[k] t).Alike (NativeType.pointer^[k] t') := by
  induction k with
  | zero => exact h
  | succ k ih =>
    rw [Function.iterate_succ_apply', Function.iterate_succ_apply']
    exact ih.apply .pointer

end NativeType.Alike

namespace Signature

open Text

/-- Of the qualifiers only the star shows: the others keep the name and the casts of the type. -/
lemma Wrap.alike_apply {wrap : Wrap} (h : wrap ≠ .pointer) (t : NativeType) :
    (wrap.apply t).Alike t := by
  cases wrap with
  | pointer => contradiction
  | external | nullable | nonnull | const | strong | silent =>
      exact ⟨fun _ => rfl, fun _ _ => rfl, fun _ _ => rfl⟩

/-- No qualifier in front is a star, so one in front never shows by itself. -/
lemma ne_pointer_of_leading {q : String} {wrap : Wrap} (hq : (.leading q, wrap) ∈ qualifiers) :
    wrap ≠ .pointer := by
  have htable : ∀ q ∈ qualifiers, q.1.isTrailing = false → q.2 ≠ .pointer := by decide
  exact htable _ hq rfl

variable {s s' : List Char} {type : Option NativeType}

/-! ## Readings of forms -/

/-- One step of reading a qualified text: the rest is read, and the qualifier put around it. -/
lemma parse_eq_ok_of_wrapped_iff {wrap : Wrap} {inner : List Char}
    (h : Form.of (trim s) = .wrapped wrap inner) :
    parse s = .ok type ↔
      ∃ type', parse inner = .ok type' ∧ type = some (wrap.apply (someType type')) := by
  rw [parse_eq, h, Form.interpret]
  cases parse inner <;> simp [Except.map, eq_comm]

/-- One step of reading a function: its result and its parameters are read, each on its own. -/
lemma parse_eq_ok_of_function_iff {result : List Char} {params : List (Param (List Char))}
    (h : Form.of (trim s) = .function result params) :
    parse s = .ok type ↔ ∃ type' params', parse result = .ok type' ∧
      readParams parse params = .ok params' ∧ type = some (.function type' params') := by
  rw [parse_eq, h, Form.interpret]
  cases parse result <;> cases readParams parse params <;> simp [Except.map, eq_comm]

/-! ## Cores -/

/-- The text that is left when the qualifiers are taken off.  It is a function on texts, by the
recursion of the reader; each step leaves a shorter text. -/
def core (s : List Char) : List Char :=
  match _h : Form.of (trim s) with
  | .wrapped _ inner => core inner
  | _ => trim s
termination_by s.length
decreasing_by
  have hpart : inner ∈ (Form.of (trim s)).parts := by simp [_h, Form.parts]
  exact Nat.lt_of_lt_of_le (length_lt_of_mem_parts hpart) (length_trim_le s)

/-- The core of a qualified text is that of the text within. -/
lemma core_of_wrapped {wrap : Wrap} {inner : List Char}
    (h : Form.of (trim s) = .wrapped wrap inner) : core s = core inner := by
  rw [core]
  split
  · rename_i heq
    rw [h] at heq
    cases heq
    rfl
  · rename_i hother
    exact absurd h (hother wrap inner)

/-- Without a qualifier it is the text itself, trimmed. -/
lemma core_of_not_wrapped (h : ∀ wrap inner, Form.of (trim s) ≠ .wrapped wrap inner) :
    core s = trim s := by
  rw [core]
  split
  · rename_i heq
    exact absurd heq (h _ _)
  · rfl

lemma core_nil : core [] = [] := by
  have hform : Form.of (trim []) = .preset (.primitive NativeType.anyName) := rfl
  exact core_of_not_wrapped (by simp [hform])

/-- A text that is not qualified is its own core. -/
lemma core_eq_self (htrim : trim s = s) (h : ∀ wrap inner, Form.of s ≠ .wrapped wrap inner) :
    core s = s := by
  rw [core_of_not_wrapped (by rwa [htrim]), htrim]

/-- Blanks around a text do not matter, as the reader trims before it looks. -/
lemma core_trim (s : List Char) : core (trim s) = core s := by
  rw [core, core, trim_trim]

lemma core_of_trim_eq (h : trim s = trim s') : core s = core s' := by
  rw [← core_trim s, h, core_trim]

/-! ## Stars -/

lemma count_star_trim (s : List Char) : (trim s).count '*' = s.count '*' := by
  obtain ⟨lead, trail, htext, hlead, htrail⟩ := exists_trim s
  have hfree : ∀ blanks : List Char, (∀ c ∈ blanks, isBlank c = true) → blanks.count '*' = 0 := by
    intro blanks hblanks
    refine List.count_eq_zero.2 fun hstar => ?_
    exact absurd (hblanks '*' hstar) (by decide)
  conv_rhs => rw [htext]
  rw [List.count_append, List.count_append, hfree lead hlead, hfree trail htrail]
  omega

/-- A qualifier holds a star just if it makes a pointer, so stars of the text are either left in the
rest or become pointers. -/
lemma count_star_of_qualified? {wrap : Wrap} {inner : List Char}
    (h : qualified? s = some (wrap, inner)) :
    s.count '*' = inner.count '*' + if wrap = .pointer then 1 else 0 := by
  have htable : ∀ q ∈ qualifiers,
      q.1.text.toList.count '*' = if q.2 = .pointer then 1 else 0 := by decide
  obtain ⟨affix, hmem, rfl | rfl⟩ := exists_of_qualified? h
  · rw [List.count_append, htable _ hmem, Nat.add_comm]
  · rw [List.count_append, htable _ hmem]

/-- A signature is read as the type of its core, with a pointer for each star taken off.  By
induction on the qualifiers that are taken off. -/
lemma exists_pointers (h : parse s = .ok type) :
    ∃ k type', parse (core s) = .ok type' ∧ k + (core s).count '*' = s.count '*' ∧
      (someType type).Alike (NativeType.pointer^[k] (someType type')) := by
  induction s using parts_induction generalizing type with
  | step s ih =>
    by_cases hwrapped : ∃ wrap inner, Form.of (trim s) = .wrapped wrap inner
    · obtain ⟨wrap, inner, hform⟩ := hwrapped
      have hstars := count_star_of_qualified? (Form.qualified?_of_eq_wrapped hform)
      obtain ⟨type₁, hinner, rfl⟩ := (parse_eq_ok_of_wrapped_iff hform).1 h
      obtain ⟨k, type', hcore, hcount, halike⟩ := ih inner (by simp [hform, Form.parts]) hinner
      rw [count_star_trim] at hstars
      rw [core_of_wrapped hform]
      by_cases hpointer : wrap = .pointer
      · refine ⟨k + 1, type', hcore, by simp [hstars, hpointer]; omega, ?_⟩
        rw [Function.iterate_succ_apply', hpointer]
        exact halike.apply .pointer
      · refine ⟨k, type', hcore, by simp [hstars, hpointer, hcount], ?_⟩
        exact (Wrap.alike_apply hpointer _).trans halike
    · simp only [not_exists] at hwrapped
      rw [core_of_not_wrapped hwrapped, parse_trim, count_star_trim]
      exact ⟨0, type, h, Nat.zero_add _, .refl _⟩

/-- **Texts with the same core and equally many stars are read alike.** -/
theorem alike_of_core_eq {type' : Option NativeType} (hcore : core s = core s')
    (hstars : s.count '*' = s'.count '*') (h : parse s = .ok type) (h' : parse s' = .ok type') :
    (someType type).Alike (someType type') := by
  obtain ⟨k, t, hread, hcount, halike⟩ := exists_pointers h
  obtain ⟨k', t', hread', hcount', halike'⟩ := exists_pointers h'
  rw [← hcore] at hread' hcount'
  obtain rfl : t = t' := Except.ok.inj (hread.symm.trans hread')
  obtain rfl : k = k' := by omega
  exact halike.trans halike'.symm

/-- The texts come down to the same core, or to functions with results that do.  The parameters are
the same then, and equally many stars are left for the pointers around the functions. -/
inductive CoresAgree : List Char → List Char → Prop
  /-- The reader gets to the same core. -/
  | same {s s' : List Char} (hcore : core s = core s') : CoresAgree s s'
  /-- The reader gets to functions that differ in their results at most, as it does for the block
  `_Nullable *(^)(int)` with `const ` in front of it and without. -/
  | result {s s' result result' : List Char} {params : List (Param (List Char))}
      (hparts : functionParts? (core s) = some (result, params))
      (hparts' : functionParts? (core s') = some (result', params))
      (hcores : (core s).count '*' = (core s').count '*')
      (hresults : result.count '*' = result'.count '*')
      (hvoid : parse result = .ok none ↔ parse result' = .ok none)
      (h : CoresAgree result result') : CoresAgree s s'

/-- A text with the parts of a function is read as one: no word of the vocabulary has a bracket, so
no preset goes before. -/
lemma form_of_functionParts? {result : List Char} {params : List (Param (List Char))}
    (hparts : functionParts? s = some (result, params)) (hbalance : imbalance? s = none) :
    Form.of s = .function result params := by
  have hparen : ')' ∈ s := by
    by_contra hfree
    rw [functionParts?_eq_none fun hlast => hfree (List.mem_of_getLast? hlast)] at hparts
    contradiction
  obtain ⟨hvoid, hpreset, -⟩ := not_vocabulary_of_bracket (by decide) hparen
  exact Form.of_eq_function hvoid hpreset hbalance hparts

/-- A core has no blanks around it: it is what the reader trimmed last. -/
lemma trim_core (s : List Char) : trim (core s) = core s := by
  induction s using parts_induction with
  | step s ih =>
    by_cases hwrapped : ∃ wrap inner, Form.of (trim s) = .wrapped wrap inner
    · obtain ⟨wrap, inner, hform⟩ := hwrapped
      rw [core_of_wrapped hform]
      exact ih inner (by simp [hform, Form.parts])
    · simp only [not_exists] at hwrapped
      rw [core_of_not_wrapped hwrapped, trim_trim]

/-- **Texts with cores that agree and equally many stars are read alike.**  By induction on how far
down they agree: of a function only the result makes a difference. -/
theorem CoresAgree.alike (h : CoresAgree s s') {type type' : Option NativeType}
    (hstars : s.count '*' = s'.count '*') (hread : parse s = .ok type)
    (hread' : parse s' = .ok type') : (someType type).Alike (someType type') := by
  induction h generalizing type type' with
  | same hcore => exact alike_of_core_eq hcore hstars hread hread'
  | @result s s' result result' params hparts hparts' hcores hresults hvoid _ ih =>
    obtain ⟨k, t, hcore, hcount, halike⟩ := exists_pointers hread
    obtain ⟨k', t', hcore', hcount', halike'⟩ := exists_pointers hread'
    obtain rfl : k = k' := by omega
    have htrim := trim_core s
    have htrim' := trim_core s'
    have hform := form_of_functionParts? hparts (imbalance?_of_parse htrim hcore)
    have hform' := form_of_functionParts? hparts' (imbalance?_of_parse htrim' hcore')
    rw [← htrim] at hform
    rw [← htrim'] at hform'
    obtain ⟨r, ps, hresult, hparams, rfl⟩ := (parse_eq_ok_of_function_iff hform).1 hcore
    obtain ⟨r', ps', hresult', hparams', rfl⟩ := (parse_eq_ok_of_function_iff hform').1 hcore'
    obtain rfl : ps = ps' := Except.ok.inj (hparams.symm.trans hparams')
    have hfunctions : (NativeType.function r ps).Alike (.function r' ps) := by
      rw [hresult, hresult', Except.ok.injEq, Except.ok.injEq] at hvoid
      cases r with
      | none => rw [hvoid.1 rfl]
      | some t =>
        cases r' with
        | none => exact absurd (hvoid.2 rfl) (by simp)
        | some t' => exact (ih hresults hresult hresult').function ps
    exact halike.trans ((hfunctions.iterate_pointer k).trans halike'.symm)

end Signature

end FrameworkBindings
