import Mathlib.Algebra.Order.BigOperators.Group.List
import Mathlib.Algebra.GroupWithZero.Nat
import Mathlib.Algebra.Order.Group.Nat
import FrameworkBindings.Proofs.Signature.Matching
import FrameworkBindings.Proofs.Signature.Rules
import FrameworkBindings.Proofs.Types.References

/-!
# The size of what is read

Reading is linear in the length of the text.  A function signature may have any number of parts, and
its parameters are put together anew before they are read, so it does not do to say that every part
is shorter than the whole: all parts together are.

**Parts.**  Every part takes up its own characters and one character more, the comma or the bracket
behind it (`sum_parts_le`).  What is done to a parameter in between, taking its name off and putting
a `[]` behind the type, does not make it longer (`sum_parameters_le`).

**Types.**  `NativeType.size` counts the nodes of a type; a form adds one node to those of its parts
(`size_interpret_le`).  The presets are the exception, as there is one that means two nodes; its
text is long enough to pay for them (`size_preset_le`).

**Calls.**  `Reads` is reading without the guard that makes `parse` a function: every part is read,
whatever its length, and the calls are counted.

**Why a relation.**  `parse` is defined by recursion on the length and would give some result for a
reader that does not end.  `Reads` holds of a text only if the calls come to an end, so
`exists_reads` says that reading ends and `Reads.eq_parse` that the guard is never needed.
-/

namespace FrameworkBindings

namespace NativeType

mutual

/-- The number of nodes of a type.  Names and texts count as one node, whatever their length. -/
def size : NativeType → Nat
  | .primitive _ | .named _ | .string | .unknown _ _ | .entity _ => 1
  | .pointer e | .array e _ | .const e | .strong e | .nullable e _ | .external e => e.size + 1
  | .function none params => paramsSize params + 1
  | .function (some r) params => r.size + paramsSize params + 1

/-- The number of nodes of the types of parameters, which a function adds to those of its result. -/
def paramsSize : List (Param NativeType) → Nat
  | [] => 0
  | ⟨_, t⟩ :: params => t.size + paramsSize params

end

/-- A function without a result is no larger than one with it. -/
lemma size_function_le (result : Option NativeType) (params : List (Param NativeType)) :
    (NativeType.function result params).size ≤
      (Signature.someType result).size + paramsSize params + 1 := by
  cases result with
  | none => simp [size]
  | some r => simp [size, Signature.someType]

end NativeType

namespace Signature

open Text

/-! ## Parts -/

/-- The pieces between the commas and the commas make up the text. -/
lemma sum_splitAtCommas (d : Int) (text : List Char) :
    ((splitAtCommas d text).map fun piece => piece.length + 1).sum = text.length + 1 := by
  induction text generalizing d with
  | nil => rfl
  | cons c text ih =>
      by_cases hcut : c = ',' ∧ d = 0
      · rw [splitAtCommas, if_pos hcut]
        simp [ih, Nat.add_comm]
      · have hrest := ih (d + nesting c)
        rw [splitAtCommas_cons hcut]
        cases hpieces : splitAtCommas (d + nesting c) text with
        | nil => exact absurd hpieces (splitAtCommas_ne_nil _ _)
        | cons piece pieces =>
            rw [hpieces] at hrest
            simp only [List.modifyHead_cons, List.map_cons, List.sum_cons, List.length_cons]
              at hrest ⊢
            omega

/-- What is done to a parameter only shortens it, so all of them fit between the parentheses. -/
lemma sum_parameters_le (text : List Char) :
    (((parameterTexts text).map readParameter).map fun p => p.type.length + 1).sum ≤
      text.length + 1 := by
  have hpieces : ((((splitAtCommas 0 text).map trim).filter (! ·.isEmpty)).map
      fun piece => (readParameter piece).type.length + 1).sum ≤ text.length + 1 := by
    rw [← sum_splitAtCommas 0 text]
    calc _ ≤ (((splitAtCommas 0 text).map trim).map
            fun piece => (readParameter piece).type.length + 1).sum :=
          (List.filter_sublist.map _).sum_le_sum fun _ _ => Nat.zero_le _
      _ ≤ _ := by
          rw [List.map_map]
          refine List.sum_le_sum fun piece _ => ?_
          have hread := length_readParameter_le (trim piece)
          have htrim := length_trim_le piece
          simp only [Function.comp_apply]
          omega
  rw [List.map_map]
  unfold parameterTexts
  dsimp only
  split_ifs
  · simp
  · exact hpieces

/-- **All parts of a form together are shorter than the signature**, also if each is counted with
one more character. -/
theorem sum_parts_le (sig : List Char) :
    ((Form.of sig).parts.map fun part => part.length + 1).sum ≤ sig.length := by
  have hfits := Form.fits sig
  generalize Form.of sig = form at *
  cases hfits with
  | void | preset | malformed | unopened | primitive | named | unrecognized => simp [Form.parts]
  | wrapped hqualified =>
      have hlt := length_lt_of_qualified? hqualified
      simp only [Form.parts, List.map_cons, List.map_nil, List.sum_cons, List.sum_nil]
      omega
  | array hend hopen =>
      have hsize := length_lt_of_splitAtLast hopen
      have hbracket := length_lt_of_stripTrailing (by simp) hend
      simp only [Form.parts, List.map_cons, List.map_nil, List.sum_cons, List.sum_nil]
      omega
  | @function result params hparts =>
      unfold functionParts? at hparts
      split_ifs at hparts
      obtain ⟨⟨before, after⟩, hmarker, hsplit⟩ := Option.map_eq_some_iff.1 hparts
      cases hsplit
      obtain ⟨marker, hmem, rfl, -⟩ := eq_of_splitAtMarker hmarker
      have hlength : ∀ marker ∈ functionMarkers, 4 ≤ marker.toList.length := by decide
      have hmarker := hlength marker hmem
      have hparams := sum_parameters_le after.dropLast
      simp only [Form.parts, List.map_cons, List.sum_cons, List.map_map, List.length_append,
        List.length_dropLast, Function.comp_def] at hparams ⊢
      omega

/-! ## Types -/

/-- A qualifier adds at most one node. -/
lemma size_apply_le (wrap : Wrap) (t : NativeType) : (wrap.apply t).size ≤ t.size + 1 := by
  cases wrap <;> simp [Wrap.apply, NativeType.size]

/-- Only a text with at least one character has a meaning of its own with two nodes. -/
lemma size_preset_le {sig : List Char} {type : NativeType} (h : preset? (squeeze sig) = some type) :
    type.size ≤ sig.length + 1 := by
  have hpresets : ∀ p ∈ presets, p.2.size ≤ 2 ∧ (p.1 = "" → p.2.size = 1) := by decide
  obtain ⟨before, after, hsplit, -⟩ := List.lookup_eq_some_iff.1 h
  obtain ⟨htwo, hone⟩ := hpresets (String.ofList (squeeze sig), type) (by simp [hsplit])
  cases sig with
  | nil => exact (hone rfl).le
  | cons c sig =>
      rw [List.length_cons]
      exact htwo.trans (by omega)

/-- Parameters have no more nodes than the bounds for their texts add up to. -/
lemma paramsSize_le {read : List Char → Reading} {bound : List Char → Nat}
    {params : List (Param (List Char))} {types : List (Param NativeType)}
    (hbound : ∀ p ∈ params, ∀ type, read p.type = .ok type → (someType type).size ≤ bound p.type)
    (h : readParams read params = .ok types) :
    NativeType.paramsSize types ≤ (params.map fun p => bound p.type).sum := by
  induction params generalizing types with
  | nil =>
      cases h
      rfl
  | cons p params ih =>
      rw [readParams] at h
      split at h
      · contradiction
      · rename_i type hread
        obtain ⟨rest, hrest, rfl⟩ := map_eq_ok_iff.1 h
        have hfirst := hbound p (by simp) type hread
        have htail := ih (fun q hq => hbound q (by simp [hq])) hrest
        simp only [NativeType.paramsSize, List.map_cons, List.sum_cons]
        omega

/-- A form adds one node to those of its parts, unless its meaning is fixed. -/
lemma size_interpret_le {form : Form} {sig : List Char} {read : List Char → Reading}
    {bound : List Char → Nat} {type : Option NativeType}
    (hpreset : ∀ t, form ≠ .preset t)
    (hbound : ∀ part ∈ form.parts, ∀ type, read part = .ok type →
      (someType type).size ≤ bound part)
    (h : form.interpret sig read = .ok type) :
    (someType type).size ≤ (form.parts.map bound).sum + 1 := by
  cases form with
  | preset t => exact absurd rfl (hpreset t)
  | malformed fault => contradiction
  | void | primitive | named | unrecognized =>
      cases h
      exact Nat.le_refl 1
  | wrapped wrap inner =>
      obtain ⟨t, ht, rfl⟩ := map_eq_ok_iff.1 h
      have hinner := hbound inner (by simp [Form.parts]) t ht
      have hwrap := size_apply_le wrap (someType t)
      simp only [Form.parts, List.map_cons, List.map_nil, List.sum_cons, List.sum_nil]
      exact hwrap.trans (by omega)
  | array elem size =>
      obtain ⟨t, ht, rfl⟩ := map_eq_ok_iff.1 h
      have helem := hbound elem (by simp [Form.parts]) t ht
      simpa [Form.parts, someType, NativeType.size] using helem
  | function result params =>
      rw [Form.interpret] at h
      split at h
      · contradiction
      · rename_i r hresult
        obtain ⟨types, htypes, rfl⟩ := map_eq_ok_iff.1 h
        have hfirst := hbound result (by simp [Form.parts]) r hresult
        have hparams := paramsSize_le
          (fun p hp => hbound p.type (List.mem_cons_of_mem _ (List.mem_map_of_mem hp))) htypes
        have hsize := NativeType.size_function_le r types
        simp only [Form.parts, List.map_cons, List.sum_cons, List.map_map, Function.comp_def]
        exact hsize.trans (by omega)

/-- What is read has at most one node more than the trimmed text has characters.  By induction on
the length, with the sum over the parts in each step. -/
lemma size_parse_le {text : List Char} {type : Option NativeType} (h : parse text = .ok type) :
    (someType type).size ≤ (trim text).length + 1 := by
  induction text using parts_induction generalizing type with
  | step text ih =>
    rw [parse_eq] at h
    by_cases hform : ∃ t, Form.of (trim text) = .preset t
    · obtain ⟨t, hform⟩ := hform
      rw [hform] at h
      cases h
      have hfits := Form.fits (trim text)
      rw [hform] at hfits
      cases hfits with
      | preset hpreset => exact size_preset_le hpreset
    · have hparts : ∀ part ∈ (Form.of (trim text)).parts, ∀ type, parse part = .ok type →
          (someType type).size ≤ part.length + 1 := fun part hpart type hread =>
        (ih part hpart hread).trans (Nat.succ_le_succ (length_trim_le part))
      have hsum := sum_parts_le (trim text)
      have hsize := size_interpret_le (fun t ht => hform ⟨t, ht⟩) hparts h
      omega

/-! ## Calls -/

/-- Reading by calling itself on every part, however long it is; the number counts the calls. -/
inductive Reads : Nat → List Char → Reading → Prop
  | call {text : List Char} {calls : List Char → Nat} {read : List Char → Reading}
      (h : ∀ part ∈ (Form.of (trim text)).parts, Reads (calls part) part (read part)) :
      Reads (((Form.of (trim text)).parts.map calls).sum + 1) text
        ((Form.of (trim text)).interpret (trim text) read)

/-- Reading that ends gives what `parse` gives, by induction on its calls. -/
lemma Reads.eq_parse {calls : Nat} {text : List Char} {reading : Reading}
    (h : Reads calls text reading) : reading = parse text := by
  induction h with
  | call _ ih =>
      rw [parse_eq]
      exact Form.interpret_congr ih

/-- Reading ends, after at most one call more than the trimmed text has characters. -/
lemma exists_reads (text : List Char) :
    ∃ calls ≤ (trim text).length + 1, Reads calls text (parse text) := by
  induction text using parts_induction with
  | step text ih =>
    have hparts : ∀ part : List Char, ∃ calls, part ∈ (Form.of (trim text)).parts →
        calls ≤ part.length + 1 ∧ Reads calls part (parse part) := by
      intro part
      by_cases hpart : part ∈ (Form.of (trim text)).parts
      · obtain ⟨calls, hcalls, hreads⟩ := ih part hpart
        exact ⟨calls, fun _ => ⟨hcalls.trans (Nat.succ_le_succ (length_trim_le part)), hreads⟩⟩
      · exact ⟨0, fun h => absurd h hpart⟩
    choose calls hcalls using hparts
    have hreads : Reads (((Form.of (trim text)).parts.map calls).sum + 1) text (parse text) := by
      rw [parse_eq]
      exact .call fun part hpart => (hcalls part hpart).2
    refine ⟨_, ?_, hreads⟩
    have hsum := sum_parts_le (trim text)
    have hle : ((Form.of (trim text)).parts.map calls).sum ≤
        ((Form.of (trim text)).parts.map fun part => part.length + 1).sum :=
      List.sum_le_sum fun part hpart => (hcalls part hpart).1
    omega

/-! ## The main result -/

/-- **Reading ends on every text, with a result of linear size.**  Every part that is read on is
shorter than what was read, blanks apart; so reading needs no guard, and it ends after at most one
call more than the text has characters.  A type that was read has at most so many nodes. -/
theorem parse_linear (text : List Char) :
    (∀ part ∈ (Form.of (trim text)).parts, (trim part).length < (trim text).length) ∧
    (∃ calls ≤ (trim text).length + 1, Reads calls text (parse text)) ∧
    (∀ calls reading, Reads calls text reading → reading = parse text) ∧
    ∀ t, parse text = .ok (some t) → t.size ≤ (trim text).length + 1 := by
  refine ⟨fun part hpart => ?_, exists_reads text, fun _ _ h => h.eq_parse, fun t ht => ?_⟩
  · exact Nat.lt_of_le_of_lt (length_trim_le part) (length_lt_of_mem_parts hpart)
  · exact size_parse_le ht

/-- The bound is met: two stars are two pointers to nothing in particular, with one node more than
there are characters. -/
theorem parse_linear_stars :
    ∃ t, parse "**".toList = .ok (some t) ∧ t.size = 3 ∧
      t.size ≤ (trim "**".toList).length + 1 := by
  have hread : parse "**".toList =
      .ok (some (.pointer (.pointer (.primitive NativeType.anyName)))) := by
    have hstars : Form.of (trim "**".toList) = .wrapped .pointer "*".toList :=
      Form.eq_of_same (by decide +kernel)
    have hstar : Form.of (trim "*".toList) = .wrapped .pointer [] :=
      Form.eq_of_same (by decide +kernel)
    rw [parse_eq, hstars, Form.interpret, parse_eq, hstar, Form.interpret, parse_eq]
    rfl
  exact ⟨_, hread, rfl, (parse_linear "**".toList).2.2.2 _ hread⟩

end Signature

end FrameworkBindings
