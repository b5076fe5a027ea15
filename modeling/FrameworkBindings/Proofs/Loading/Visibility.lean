import FrameworkBindings.Proofs.Loading.Provenance
import FrameworkBindings.Proofs.Signature.Visibility

/-!
# Marks of visibility are taken off results

The reader knows a mark of visibility as the outermost qualifier of a result, and the loader takes
one off and keeps in mind that it was there.

* `OnceMarked` — the documents in which no result is marked twice.
* `withoutVoid` — a result of which nothing is left but `void`.
* **`visibility_mark_stripped`** — no function that a loader has shows a mark, and a mark in front
  of a result changes nothing but that the function is known to be marked, if it takes the mark.
* `mark_stays_on_function` — a mark in front of a function pointer, which goes to its result.

**From the type back to the text.**  The loader looks at the type and not at the text.  That a type
shows no mark is therefore proved by looking back: a type that was read as marked has a mark in
front of its text (`exists_marked_of_parse`), and if one was taken off and one is left, the text had
two (`eq_of_splitExternal`).

**All runs.**  The first half speaks of every function that a loader has after any run.  It holds of
one function that a member stands for (`result_ne_external`), and every function that a loader has
is one of these.

**`void`.**  A result `void` is no result, but behind a mark the reader puts an unknown type in its
place, so that there is something to mark.  Without the mark this is taken for `void` again.
-/

namespace FrameworkBindings

open Document Loading Signature

namespace Loading

/-- No result of a function in the document has a mark behind its mark. -/
def OnceMarked (compound : Compound) : Prop :=
  ∀ s ∈ compound.sections, ∀ isStatic, s.sectionKind = .functions isStatic →
    ∀ m ∈ functionMembers s, ∀ text, m.type = some ⟨text, []⟩ →
      ∀ rest further, Marked text.toList rest → ¬ Marked rest further

/-- The result, none if it is what stands in for `void` where a type is needed. -/
def withoutVoid : Option NativeType → Option NativeType
  | some (.unknown "void" "void") => none
  | type => type

/-! ## Taking the mark off -/

variable {ν : String → EntityId} {type : Option NativeType}

/-- The loader takes the mark off and remembers it. -/
lemma splitExternal_external (type : Option NativeType) :
    Loader.splitExternal (some (.external (someType type))) = (withoutVoid type, true) := by
  cases type with
  | none => rfl
  | some t =>
      rw [someType, Option.getD_some]
      unfold Loader.splitExternal withoutVoid
      split <;> simp_all

/-- A result without a mark stays as it is. -/
lemma splitExternal_of_ne (h : ∀ e, type ≠ some (.external e)) :
    Loader.splitExternal type = (type, false) := by
  unfold Loader.splitExternal
  split
  · exact absurd rfl (h _)
  · exact absurd rfl (h _)
  · rfl

/-- One mark is taken off, so that one that stays was the second. -/
lemma eq_of_splitExternal {e : NativeType}
    (h : (Loader.splitExternal type).1 = some (.external e)) :
    type = some (.external (.external e)) := by
  unfold Loader.splitExternal at h
  split at h
  · contradiction
  · rw [Option.some.inj h]
  · rename_i hunmarked
    exact (hunmarked e h).elim

/-- A text without references is read, and an error becomes an unknown type. -/
lemma linkedType?_text (text : String) :
    linkedType? ν (some ⟨text, []⟩) "" = recovered (parse text.toList) := by
  have htext : (text ++ " " ++ "").toList = text.toList ++ [' '] := by simp
  rw [linkedType?, readLinked, ofText, htext, parse_append_blank _ (by decide)]

/-- Only what was read has a mark: neither a reference nor what stands in for an error has. -/
lemma recovered_eq_external {reading : Reading} {e : NativeType}
    (h : recovered reading = some (.external e)) : reading = .ok (some (.external e)) := by
  cases reading with
  | ok type => exact congrArg Except.ok h
  | error m => cases h

/-- A marked type comes from a text without references that was read as marked, as a reference and
what stands in for an error have no mark. -/
lemma parse_of_linkedType? {linked : Option LinkedText} {e : NativeType}
    (h : linkedType? ν linked "" = some (.external e)) :
    ∃ text, linked = some ⟨text, []⟩ ∧ parse text.toList = .ok (some (.external e)) := by
  rcases linked with _ | ⟨text, _ | ⟨reference, _ | ⟨other, references⟩⟩⟩
  · cases h
  · rw [linkedType?_text] at h
    exact ⟨text, rfl, recovered_eq_external h⟩
  · cases h
  · cases h

/-- The result of a function shows no mark, unless the text has two. -/
lemma result_ne_external {m : Member} (isStatic : Bool)
    (h : ∀ text, m.type = some ⟨text, []⟩ →
      ∀ rest further, Marked text.toList rest → ¬ Marked rest further) (e : NativeType) :
    (routineOf ν isStatic m).prototype.result ≠ some (.external e) := by
  intro hresult
  obtain ⟨text, htext, hread⟩ := parse_of_linkedType? (eq_of_splitExternal hresult)
  obtain ⟨rest, hmarked, type, htype, hsome⟩ := exists_marked_of_parse hread
  obtain ⟨t, rfl, rfl⟩ : ∃ t, type = some t ∧ t = .external e := by
    cases type with
    | none => cases hsome
    | some t => exact ⟨t, rfl, hsome⟩
  obtain ⟨further, hfurther, -⟩ := exists_marked_of_parse htype
  exact h text htext rest further hmarked hfurther

/-- What a function stands for, with and without a mark in front of its result. -/
lemma routineOf_mark {mark : String} (hmark : mark ∈ visibilityMarks) {r : String}
    (hr : ∀ rest, ¬ Marked r.toList rest) (isStatic : Bool) (m : Member) :
    let marked := routineOf ν isStatic { m with type := some ⟨mark ++ r, []⟩ }
    let plain := routineOf ν isStatic { m with type := some ⟨r, []⟩ }
    (marked.isExternal = true ↔ TakesMark r.toList) ∧ plain.isExternal = false ∧
      (TakesMark r.toList → marked = { plain with
        prototype.result := withoutVoid plain.prototype.result
        isExternal := true }) := by
  intro marked plain
  have hplain : Loader.splitExternal (linkedType? ν (some ⟨r, []⟩) "") =
      (linkedType? ν (some ⟨r, []⟩) "", false) := by
    refine splitExternal_of_ne fun e he => ?_
    rw [linkedType?_text] at he
    obtain ⟨rest, hmarked, -⟩ := exists_marked_of_parse (recovered_eq_external he)
    exact hr rest hmarked
  have hread : linkedType? ν (some ⟨mark ++ r, []⟩) "" =
      recovered (parse (mark.toList ++ r.toList)) := by
    rw [linkedType?_text, String.toList_append]
  have htakes : TakesMark r.toList →
      Loader.splitExternal (linkedType? ν (some ⟨mark ++ r, []⟩) "") =
        (withoutVoid (linkedType? ν (some ⟨r, []⟩) ""), true) := by
    intro h
    obtain ⟨type, htype⟩ := h.parses
    rw [hread, parse_append_mark hmark h, linkedType?_text, htype]
    exact splitExternal_external type
  refine ⟨⟨fun hexternal => ?_, fun h => congrArg Prod.snd (htakes h)⟩, congrArg Prod.snd hplain,
    fun h => ?_⟩
  · by_contra h
    have hunmarked : Loader.splitExternal (recovered (parse (mark.toList ++ r.toList))) =
        (recovered (parse (mark.toList ++ r.toList)), false) := splitExternal_of_ne fun e he =>
      not_external_of_not_takesMark hmark h e (recovered_eq_external he)
    have hexternal : (Loader.splitExternal (linkedType? ν (some ⟨mark ++ r, []⟩) "")).2 = true :=
      hexternal
    rw [hread, hunmarked] at hexternal
    contradiction
  · simp only [marked, plain, routineOf, htakes h, hplain]

end Loading

namespace Loader

/-- A function is what its member stands for, whatever the text of its result.  With the same
numbering for both texts, two members that differ in the text can be compared. -/
lemma exists_buildRoutine_text (l : Loader) (m : Member) (isStatic : Bool) (text other : String) :
    ∃ ν, (l.buildRoutine { m with type := some ⟨text, []⟩ } isStatic).1 =
        routineOf ν isStatic { m with type := some ⟨text, []⟩ } ∧
      (l.buildRoutine { m with type := some ⟨other, []⟩ } isStatic).1 =
        routineOf ν isStatic { m with type := some ⟨other, []⟩ } := by
  -- a text without references gives no slots, so that both functions leave the same store
  have hstore : ∀ text : String,
      (l.buildRoutine { m with type := some ⟨text, []⟩ } isStatic).2.store =
        { l.store.mention (m.params.flatMap fun p => linkedRefids p.type) with
          functions := l.store.functions ++ [] } := fun text =>
    (l.buildRoutine_gives { m with type := some ⟨text, []⟩ } isStatic
      (Store.numberedBy_numbering _)).2.store
  refine ⟨_, (l.buildRoutine_gives _ isStatic (Store.numberedBy_numbering _)).1,
    (l.buildRoutine_gives _ isStatic ?_).1⟩
  rw [hstore other, ← hstore text]
  exact Store.numberedBy_numbering _

/-- **A loader takes the mark of visibility off a result.**  Over documents in which no result has
two marks, no function in the store or waiting has a result that is marked.  A mark in front of the
text of a result that takes it makes no difference but that the function is known to be marked, and
that `void` behind a qualifier that says nothing counts as `void`.  With any other text, one that is
blank, a function or not to be parsed, the function is not known to be marked. -/
theorem visibility_mark_stripped :
    (∀ (documents : Compound → Prop) (l : Loader), RunsOver documents l →
      (∀ compound, documents compound → OnceMarked compound) →
      ∀ f, l.Holds f → ∀ e, f.prototype.result ≠ some (.external e)) ∧
    ∀ (l : Loader) (m : Member) (isStatic : Bool), ∀ mark ∈ visibilityMarks, ∀ r : String,
      (∀ rest, ¬ Marked r.toList rest) →
      let marked := (l.buildRoutine { m with type := some ⟨mark ++ r, []⟩ } isStatic).1
      let plain := (l.buildRoutine { m with type := some ⟨r, []⟩ } isStatic).1
      (marked.isExternal = true ↔ TakesMark r.toList) ∧ plain.isExternal = false ∧
        (TakesMark r.toList → marked = { plain with
          prototype.result := withoutVoid plain.prototype.result
          isExternal := true }) := by
  refine ⟨fun documents l hrun honce f hf e => ?_, fun l m isStatic mark hmark r hr => ?_⟩
  · obtain ⟨compound, hcompound, s, hs, isStatic, hkind, m, hm, ν, rfl⟩ :=
      declared_of_holds hrun hf
    exact result_ne_external _ (honce compound hcompound s hs isStatic hkind m hm) e
  · obtain ⟨ν, hmarked, hplain⟩ := l.exists_buildRoutine_text m isStatic (mark ++ r) r
    rw [hmarked, hplain]
    exact routineOf_mark hmark hr isStatic m

/-- A file with a function whose result is declared by the text. -/
def declaring (text : String) : Compound where
  sections := [{ kind := "func", members := [
    { id := "h", kind := "function", name := "NSHandler", definition := "NSHandler"
      type := some ⟨text, []⟩ }] }]

/-- The loader of such a file, with nothing loaded before it. -/
def afterDeclaring (text : String) : Loader :=
  (({} : Loader).loadEntry ⟨"f", "NSObject.h", "file"⟩ (declaring text)).2

/-- There is no mark in front of `void`, which is checked against all marks. -/
lemma not_marked_void (rest : List Char) : ¬ Marked "void".toList rest := fun h =>
  h.of_first (P := fun _ => False) (by decide) (by decide)

/-- No second mark stands behind the first one in this file. -/
lemma onceMarked_declaring : OnceMarked (declaring "FOUNDATION_EXPORT void") := by
  intro s hs isStatic _ m hm text htext rest further hrest
  obtain rfl := List.mem_singleton.1 hs
  obtain rfl := List.mem_singleton.1 (List.mem_filter.1 hm).1
  cases htext
  obtain rfl : rest = "void".toList :=
    hrest.of_first (P := (· = "void".toList)) (by decide) (by decide)
  exact not_marked_void further

/-- An exported function without a result: it is known to be marked, and shows no mark. -/
theorem visibility_mark_stripped_void :
    (∃ f ∈ (afterDeclaring "FOUNDATION_EXPORT void").store.functions,
      f.isExternal = true ∧ ∀ e, f.prototype.result ≠ some (.external e)) ∧
    TakesMark "void".toList ∧
    (({} : Loader).buildRoutine { type := some ⟨"FOUNDATION_EXPORT " ++ "void", []⟩ }
      false).1.isExternal = true := by
  have htakes : TakesMark "void".toList := by
    have hform : Form.of (Text.trim "void".toList) = .void := rfl
    refine ⟨by decide, ⟨none, ?_⟩, ?_⟩
    · rw [parse_eq, hform]
      rfl
    · rw [hform]
      rintro _ _ ⟨⟩
  have hrun : RunsOver (· = declaring "FOUNDATION_EXPORT void")
      (afterDeclaring "FOUNDATION_EXPORT void") := .loadEntry _ rfl (.fresh #[])
  obtain ⟨hstripped, hmark⟩ := visibility_mark_stripped
  obtain ⟨hexternal, -⟩ := hmark {} {} false "FOUNDATION_EXPORT " (by decide) "void" not_marked_void
  have hfunctions : ∃ f ∈ (afterDeclaring "FOUNDATION_EXPORT void").store.functions,
      f.isExternal = true := by decide +kernel
  obtain ⟨f, hf, hknown⟩ := hfunctions
  refine ⟨⟨f, hf, hknown, ?_⟩, htakes, hexternal.2 htakes⟩
  exact hstripped _ _ hrun (fun _ h => h ▸ onceMarked_declaring) f (.free hf)

/-- A mark in front of a function pointer goes to its result, and the function itself is not known
to be marked. -/
theorem mark_stays_on_function :
    (∀ rest, ¬ Marked "void (*)(int)".toList rest) ∧
      (afterDeclaring "void (*)(int)").store.functions.map
          (fun f => (f.prototype.result.map NativeType.describe, f.isExternal)) =
        [(some "function(int)", false)] ∧
      (afterDeclaring "extern void (*)(int)").store.functions.map
          (fun f => (f.prototype.result.map NativeType.describe, f.isExternal)) =
        [(some "function(int) -> extern unknown \"void\"", false)] := by
  refine ⟨fun rest h => ?_, by decide +kernel, by decide +kernel⟩
  exact h.of_first (P := fun _ => False) (by decide) (by decide)

end Loader

end FrameworkBindings
