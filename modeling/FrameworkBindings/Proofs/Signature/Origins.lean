import FrameworkBindings.Proofs.Signature.Cuts
import FrameworkBindings.Proofs.Types.References

/-!
# Where the texts in a type come from

A type that was read holds texts: names, sizes of arrays, and comments on what was not understood.
Names are words.  All other texts are pieces of the text that was read, with whatever characters
stand in it.

* `NativeType.nodes` — all types in a type, itself first.
* `mem_of_mem_parts` — what is left to read consists of characters of the whole.
* `Stems` — the texts of a node come from the text; `stems_of_parse`: so it is for all nodes of what
  is read.

**Why characters and not pieces.**  The reader trims, squeezes and joins a `[]` again, so what it
reads next need not be a piece of the text.  It has no character that the text had not, which is
what counts where these texts are written into code: a line feed in the code was one in the text.

**The exception.**  A missing type has the comment `void`, which need not stand in the text.  It is
a fixed word without a line feed, and `Stems` leaves room for it.

**Use.**  The property is decided for a given node (`Stems` is decidable), so the presets and the
primitives are checked once on their tables.
-/

namespace FrameworkBindings

/-! ## Nodes -/

namespace NativeType

mutual

/-- The types in a type, itself first, then those of its parts in the order in which they are
written. -/
def nodes : NativeType → List NativeType
  | .pointer e => .pointer e :: e.nodes
  | .array e size => .array e size :: e.nodes
  | .const e => .const e :: e.nodes
  | .strong e => .strong e :: e.nodes
  | .nullable e allowsNull => .nullable e allowsNull :: e.nodes
  | .external e => .external e :: e.nodes
  | .function none params => .function none params :: paramNodes params
  | .function (some r) params => .function (some r) params :: (r.nodes ++ paramNodes params)
  | .primitive name => [.primitive name]
  | .named name => [.named name]
  | .string => [.string]
  | .unknown raw comment => [.unknown raw comment]
  | .entity id => [.entity id]

/-- The types in the types of parameters, in their order. -/
def paramNodes : List (Param NativeType) → List NativeType
  | [] => []
  | ⟨_, t⟩ :: params => t.nodes ++ paramNodes params

end

/-- The types in parameters, said without the recursion that the definition needs. -/
lemma paramNodes_eq_flatMap (params : List (Param NativeType)) :
    paramNodes params = params.flatMap fun p => p.type.nodes := by
  induction params with
  | nil => rfl
  | cons p params ih => rw [paramNodes, ih, List.flatMap_cons]

/-- The types in a function are itself, those of its result and those of its parameters. -/
lemma nodes_function (result : Option NativeType) (params : List (Param NativeType)) :
    (NativeType.function result params).nodes =
      .function result params
        :: (result.toList.flatMap nodes ++ params.flatMap fun p => p.type.nodes) := by
  cases result <;> simp [nodes, paramNodes_eq_flatMap]

end NativeType

namespace Signature

open Text NativeType

/-! ## Parts -/

/-- The pieces between the commas consist of characters of the text. -/
lemma mem_of_mem_splitAtCommas {d : Int} {text piece : List Char}
    (h : piece ∈ splitAtCommas d text) {c : Char} (hc : c ∈ piece) : c ∈ text := by
  induction text generalizing d piece with
  | nil =>
      rw [splitAtCommas, List.mem_singleton] at h
      exact h ▸ hc
  | cons b text ih =>
      by_cases hcut : b = ',' ∧ d = 0
      · rw [splitAtCommas, if_pos hcut] at h
        rcases List.mem_cons.1 h with rfl | h
        · contradiction
        · exact List.mem_cons_of_mem _ (ih h hc)
      · rw [splitAtCommas_cons hcut] at h
        cases hpieces : splitAtCommas (d + nesting b) text with
        | nil => exact absurd hpieces (splitAtCommas_ne_nil _ _)
        | cons first pieces =>
            rw [hpieces, List.modifyHead_cons] at h
            rcases List.mem_cons.1 h with rfl | h
            · rcases List.mem_cons.1 hc with rfl | hc
              · exact List.mem_cons_self
              · exact List.mem_cons_of_mem _ (ih (hpieces ▸ List.mem_cons_self) hc)
            · exact List.mem_cons_of_mem _ (ih (hpieces ▸ List.mem_cons_of_mem _ h) hc)

/-- The parameters consist of characters of the text, as they are pieces of it, trimmed. -/
lemma mem_of_mem_parameterTexts {text piece : List Char} (h : piece ∈ parameterTexts text)
    {c : Char} (hc : c ∈ piece) : c ∈ text := by
  unfold parameterTexts at h
  dsimp only at h
  split at h
  · contradiction
  · obtain ⟨raw, hraw, rfl⟩ := List.mem_map.1 (List.mem_filter.1 h).1
    exact mem_of_mem_splitAtCommas hraw (mem_of_mem_trim hc)

/-- The type of a parameter has no character that the parameter had not; a `[]` behind it was there
before. -/
lemma mem_of_mem_readParameter {text : List Char} {c : Char} (hc : c ∈ (readParameter text).type) :
    c ∈ text := by
  obtain ⟨lead, type, trail, suffix, htext, htype, -⟩ := exists_readParameter text
  rw [htype] at hc
  rw [htext]
  grind

/-- Both sides of a cut consist of characters of the text. -/
lemma mem_of_mem_splitAtLast {mark : Char} {text before behind : List Char}
    (h : splitAtLast mark text = some (before, behind)) {c : Char} (hc : c ∈ before ∨ c ∈ behind) :
    c ∈ text := by
  unfold splitAtLast at h
  split at h
  · contradiction
  · rename_i b rest hdrop
    cases h
    rw [← List.mem_reverse]
    rcases hc with hc | hc
    · refine (List.dropWhile_sublist (· != mark)).subset ?_
      rw [hdrop]
      exact List.mem_cons_of_mem _ (List.mem_reverse.1 hc)
    · exact (List.takeWhile_sublist _).subset (List.mem_reverse.1 hc)

/-- **What is left to read consists of characters of the whole.**  By the forms; the reader puts no
character of its own into what it reads next. -/
lemma mem_of_mem_parts {sig part : List Char} (h : part ∈ (Form.of sig).parts) {c : Char}
    (hc : c ∈ part) : c ∈ sig := by
  have hfits := Form.fits sig
  generalize Form.of sig = form at *
  cases hfits with
  | void | preset | malformed | unopened | primitive | named | unrecognized => contradiction
  | wrapped hqualified =>
      obtain rfl := List.mem_singleton.1 h
      obtain ⟨mark, -, -, rfl | rfl⟩ := eq_of_qualified? hqualified
      · exact List.mem_append_right _ hc
      · exact List.mem_append_left _ hc
  | array hend hopen =>
      obtain rfl := List.mem_singleton.1 h
      obtain rfl := stripTrailing_eq_some_iff.1 hend
      exact List.mem_append_left _ (mem_of_mem_splitAtLast hopen (.inl hc))
  | @function result params hparts =>
      unfold functionParts? at hparts
      split_ifs at hparts
      obtain ⟨⟨before, after⟩, hmarker, hsplit⟩ := Option.map_eq_some_iff.1 hparts
      cases hsplit
      obtain ⟨marker, -, rfl, -⟩ := eq_of_splitAtMarker hmarker
      rcases List.mem_cons.1 h with rfl | h
      · exact List.mem_append_left _ (List.mem_append_left _ hc)
      · obtain ⟨p, hp, rfl⟩ := List.mem_map.1 h
        obtain ⟨piece, hpiece, rfl⟩ := List.mem_map.1 hp
        have hinner := mem_of_mem_parameterTexts hpiece (mem_of_mem_readParameter hc)
        exact List.mem_append_right _ ((List.dropLast_sublist _).subset hinner)

/-! ## Texts -/

/-- The texts of a node come from a text: a name is visible throughout, and the size of an array and
the comment on what was not understood consist of characters of the text, unless it is `void`, where
a type is needed. -/
def Stems (text : List Char) : NativeType → Prop
  | .primitive name | .named name => ∀ c ∈ name.toList, isBlank c = false
  | .array _ size => ∀ c ∈ size.toList, c ∈ text
  | .unknown _ comment => comment = "void" ∨ ∀ c ∈ comment.toList, c ∈ text
  | _ => True

instance (text : List Char) : (node : NativeType) → Decidable (Stems text node)
  | .primitive name | .named name =>
    inferInstanceAs (Decidable (∀ c ∈ name.toList, isBlank c = false))
  | .array _ size => inferInstanceAs (Decidable (∀ c ∈ size.toList, c ∈ text))
  | .unknown _ comment =>
    inferInstanceAs (Decidable (comment = "void" ∨ ∀ c ∈ comment.toList, c ∈ text))
  | .string | .pointer _ | .const _ | .strong _ | .nullable _ _ | .external _ | .function _ _
  | .entity _ => .isTrue trivial

variable {text : List Char}

/-- What comes from a text comes from any text with the same characters and more. -/
lemma Stems.mono {more : List Char} (hsub : ∀ c ∈ text, c ∈ more) {node : NativeType}
    (h : Stems text node) : Stems more node := by
  cases node with
  | primitive name | named name => exact h
  | array e size => exact fun c hc => hsub c (h c hc)
  | unknown raw comment => exact h.imp_right fun hall c hc => hsub c (hall c hc)
  | _ => trivial

/-- The fixed meanings hold no text but names without blanks, so they come from any text. -/
lemma stems_preset {plain : List Char} {t : NativeType} (h : preset? plain = some t) :
    ∀ node ∈ t.nodes, Stems text node := by
  have htable : ∀ entry ∈ presets, ∀ node ∈ entry.2.nodes, Stems [] node := by decide +kernel
  obtain ⟨before, after, hsplit, -⟩ := List.lookup_eq_some_iff.1 h
  intro node hnode
  refine (htable (String.ofList plain, t) (by simp [hsplit]) node hnode).mono fun c hc => ?_
  contradiction

/-- The names of the primitives have no blanks. -/
lemma stems_primitive {plain : List Char} {name : String} (h : primitive? plain = some name) :
    ∀ c ∈ name.toList, isBlank c = false := by
  have htable : ∀ entry ∈ primitives, ∀ c ∈ entry.2.toList, isBlank c = false := by decide +kernel
  obtain ⟨before, after, hsplit, -⟩ := List.lookup_eq_some_iff.1 h
  exact htable (String.ofList plain, name) (by simp [hsplit])

/-- Qualifying a type adds no text, so what came from the text still does. -/
lemma stems_apply {wrap : Wrap} {t : NativeType} (h : ∀ node ∈ t.nodes, Stems text node) :
    ∀ node ∈ (wrap.apply t).nodes, Stems text node := by
  cases wrap with
  | silent => exact h
  | _ => exact List.forall_mem_cons.2 ⟨trivial, h⟩

/-- If the texts in each parameter come from the text, so do those in the list. -/
lemma stems_readParams {read : List Char → Reading} {params : List (Param (List Char))}
    {types : List (Param NativeType)}
    (hread : ∀ p ∈ params, ∀ type, read p.type = .ok type →
      ∀ node ∈ (someType type).nodes, Stems text node)
    (h : readParams read params = .ok types) :
    ∀ p ∈ types, ∀ node ∈ p.type.nodes, Stems text node := by
  induction params generalizing types with
  | nil =>
      cases h
      exact List.forall_mem_nil _
  | cons p params ih =>
      rw [readParams] at h
      split at h
      · contradiction
      · rename_i type htype
        obtain ⟨rest, hrest, rfl⟩ := map_eq_ok_iff.1 h
        exact List.forall_mem_cons.2 ⟨hread p List.mem_cons_self type htype,
          ih (fun q hq => hread q (List.mem_cons_of_mem _ hq)) hrest⟩

/-- If the texts in the parts come from the text, so do those in the whole. -/
lemma stems_interpret {read : List Char → Reading} {type : Option NativeType}
    (hread : ∀ part ∈ (Form.of text).parts, ∀ type, read part = .ok type →
      ∀ node ∈ (someType type).nodes, Stems text node)
    (h : (Form.of text).interpret text read = .ok type) :
    ∀ node ∈ (someType type).nodes, Stems text node := by
  have hfits := Form.fits text
  generalize Form.of text = form at *
  cases hfits with
  | malformed | unopened => contradiction
  | void _ =>
      cases h
      exact List.forall_mem_singleton.2 (.inl rfl)
  | preset hpreset =>
      cases h
      exact stems_preset hpreset
  | primitive hprimitive =>
      cases h
      exact List.forall_mem_singleton.2 (stems_primitive hprimitive)
  | named hword =>
      cases h
      refine List.forall_mem_singleton.2 fun c hc => ?_
      rw [String.toList_ofList] at hc
      rw [isIdentifier, Bool.and_eq_true, List.all_eq_true] at hword
      exact isBlank_eq_false_of_isWordChar (hword.2 c hc)
  | unrecognized =>
      cases h
      refine List.forall_mem_singleton.2 (.inr fun c hc => ?_)
      rwa [String.toList_ofList] at hc
  | @wrapped wrap inner hqualified =>
      obtain ⟨t, ht, rfl⟩ := map_eq_ok_iff.1 h
      exact stems_apply (hread inner List.mem_cons_self t ht)
  | @array inner elem size hend hopen =>
      obtain ⟨t, ht, rfl⟩ := map_eq_ok_iff.1 h
      refine List.forall_mem_cons.2 ⟨fun c hc => ?_, hread elem List.mem_cons_self t ht⟩
      rw [String.toList_ofList] at hc
      obtain rfl := stripTrailing_eq_some_iff.1 hend
      exact List.mem_append_left _ (mem_of_mem_splitAtLast hopen (.inr (mem_of_mem_trim hc)))
  | @function result params hparts =>
      rw [Form.interpret] at h
      split at h
      · contradiction
      · rename_i r hresult
        obtain ⟨types, htypes, rfl⟩ := map_eq_ok_iff.1 h
        have hparams := stems_readParams
          (fun p hp => hread p.type (List.mem_cons_of_mem _ (List.mem_map_of_mem hp))) htypes
        rw [someType, Option.getD_some, nodes_function]
        refine List.forall_mem_cons.2 ⟨trivial, List.forall_mem_append.2 ⟨?_, ?_⟩⟩
        · intro node hnode
          obtain ⟨t, ht, hmem⟩ := List.mem_flatMap.1 hnode
          obtain rfl := Option.mem_toList.1 ht
          exact hread result List.mem_cons_self (some t) hresult node hmem
        · intro node hnode
          obtain ⟨p, hp, hnode⟩ := List.mem_flatMap.1 hnode
          exact hparams p hp node hnode

/-- **The texts in what is read come from the text.**  By induction on its length, one step by the
form. -/
lemma stems_of_parse {type : Option NativeType} (h : parse text = .ok type) :
    ∀ node ∈ (someType type).nodes, Stems text node := by
  induction text using parts_induction generalizing type with
  | step text ih =>
    rw [parse_eq] at h
    refine fun node hnode => (stems_interpret ?_ h node hnode).mono fun c => mem_of_mem_trim
    exact fun part hpart type hread node hnode =>
      (ih part hpart hread node hnode).mono fun c => mem_of_mem_parts hpart

end Signature

end FrameworkBindings
