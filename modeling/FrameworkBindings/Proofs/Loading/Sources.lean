import FrameworkBindings.Proofs.Loading.Provenance
import FrameworkBindings.Proofs.Output.RawTexts

/-!
# Where the texts of functions come from

The types of a function that was loaded hold names, which have no line feeds, and texts that were
written in its member: in the type of the result, in the types of the parameters, or in a suffix.

* `routineTexts` — what is written in a member about the types of its function.
* `Sourced` — a line feed in a node, other than in a reference id, comes from one of the texts.
* `sourced_of_holds` — so it is for all functions that a loader has.

**Up to the documents.**  What the reader keeps consists of characters of what it was given, and
what it is given is a text of a member or a piece of one.  A function moves through the loader
without being changed, so the statement goes from the code back to the documents: a line feed in the
types of a function was written by hand in some document.

**What is left out.**  A reference id is no text of a type, as the Go side looks up the name of the
entity that it stands for.
-/

namespace FrameworkBindings

open Document Text NativeType

/-! ## Texts of a member -/

namespace NativeType

/-- What a node holds as it was written in a member: the size of an array, or the comment on what
was not understood. -/
def writtenText? : NativeType → Option String
  | .array _ size => some size
  | .unknown _ comment => some comment
  | _ => none

end NativeType

namespace Loading

/-- The text of a text with references, if there is one. -/
def linkedTexts (type : Option LinkedText) : List String := (type.map (·.text)).toList

/-- What is written in a member about the types of its function: the result, and the parameters with
their suffixes. -/
def routineTexts (m : Member) : List String :=
  linkedTexts m.type ++ m.params.flatMap fun p => linkedTexts p.type ++ [p.array]

/-- What is written about the types of functions in a document, whatever section they are in. -/
def functionTexts (compound : Compound) : List String :=
  compound.sections.flatMap fun s => (functionMembers s).flatMap routineTexts

/-- Names have no line feeds, and what is written in the node has one only if one of the texts
does. -/
structure Sourced (texts : List String) (node : NativeType) : Prop where
  name : ∀ name ∈ nameText? node, lineFeeds name = 0
  written : ∀ written ∈ writtenText? node, '\n' ∈ written.toList →
    ∃ text ∈ texts, '\n' ∈ text.toList

variable {texts more : List String} {t node : NativeType} {ν : String → EntityId}

/-- What some texts explain is explained by more texts. -/
lemma Sourced.mono (h : Sourced texts node) (hsub : texts ⊆ more) : Sourced more node where
  name := h.name
  written written hwritten hmem :=
    let ⟨text, htext, hfeed⟩ := h.written written hwritten hmem
    ⟨text, hsub htext, hfeed⟩

/-- A node that holds no text of its own has nothing to explain. -/
lemma sourced_of_none (hname : nameText? node = none) (hwritten : writtenText? node = none) :
    Sourced texts node where
  name name h := by
    rw [hname] at h
    contradiction
  written written h := by
    rw [hwritten] at h
    contradiction

/-- A node without a name is explained by what is written in it. -/
lemma sourced_of_written {written : String} (hname : nameText? node = none)
    (hwritten : writtenText? node = some written)
    (h : '\n' ∈ written.toList → ∃ text ∈ texts, '\n' ∈ text.toList) : Sourced texts node where
  name name hsome := by
    rw [hname] at hsome
    contradiction
  written other hother := Option.some.inj (hwritten.symm.trans hother) ▸ h

/-- A comment of the loader's own is a fixed word without a line feed. -/
lemma sourced_unknown {raw comment : String} (h : '\n' ∉ comment.toList) :
    Sourced texts (.unknown raw comment) :=
  sourced_of_written rfl rfl fun hmem => absurd hmem h

/-- A line feed in a text that was read stands in the text that the signature was taken from. -/
lemma Sourced.of_stems {text : String} {signature : List Char}
    (hsub : '\n' ∈ signature → '\n' ∈ text.toList) (htext : text ∈ texts)
    (h : Signature.Stems signature node) : Sourced texts node := by
  cases node with
  | primitive name | named name =>
      refine ⟨fun other hother => ?_, fun _ hwritten => by contradiction⟩
      cases hother
      refine lineFeeds_eq_zero_iff.2 fun hmem => ?_
      have hblank : isBlank '\n' = true := by decide
      rw [h '\n' hmem] at hblank
      contradiction
  | array e size =>
      exact sourced_of_written rfl rfl fun hmem => ⟨text, htext, hsub (h '\n' hmem)⟩
  | unknown raw comment =>
      rcases h with rfl | h
      · exact sourced_unknown (by decide)
      · exact sourced_of_written rfl rfl fun hmem => ⟨text, htext, hsub (h '\n' hmem)⟩
  | _ => exact sourced_of_none rfl rfl

/-! ## Types -/

/-- A text with references is read, or is a reference; either way its nodes come from the text. -/
lemma sourced_linkedType? (type : Option LinkedText) :
    ∀ node ∈ (Signature.someType (linkedType? ν type "")).nodes,
      Sourced (linkedTexts type) node := by
  rcases type with _ | ⟨text, _ | ⟨reference, _ | ⟨other, references⟩⟩⟩
  · exact List.forall_mem_singleton.2 (sourced_unknown (by decide))
  · rw [linkedType?, readLinked]
    cases hread : Signature.ofText (text ++ " " ++ "") with
    | error m => exact List.forall_mem_singleton.2 (sourced_unknown (by decide))
    | ok type =>
        intro node hnode
        refine .of_stems (fun hmem => ?_) List.mem_cons_self
          (Signature.stems_of_parse hread node hnode)
        simpa using hmem
  · exact List.forall_mem_singleton.2 (sourced_of_none rfl rfl)
  · exact List.forall_mem_singleton.2 (sourced_unknown (by decide))

/-- The size of a suffix is a piece of it. -/
lemma mem_of_mem_arraySize {suffix : String} {c : Char} (h : c ∈ (arraySize suffix).toList) :
    c ∈ suffix.toList := by
  rw [arraySize, String.toList_ofList] at h
  have hclosed := List.mem_reverse.1 (mem_of_mem_trim h)
  have hopened := List.mem_reverse.1 ((List.dropWhile_sublist _).subset hclosed)
  exact mem_of_mem_trim ((List.dropWhile_sublist _).subset hopened)

/-- A parameter is explained by its type and its suffix, which may become the size of an array. -/
lemma sourced_paramOf (p : Parameter) :
    ∀ node ∈ (paramOf ν p).type.nodes, Sourced (linkedTexts p.type ++ [p.array]) node := by
  have htype : ∀ node ∈ (Signature.someType (linkedType? ν p.type "")).nodes,
      Sourced (linkedTexts p.type ++ [p.array]) node := fun node hnode =>
    (sourced_linkedType? p.type node hnode).mono (List.subset_append_left _ _)
  rw [paramOf, Loader.paramType]
  dsimp only
  split
  · exact htype
  · rw [nodes, List.forall_mem_cons]
    refine ⟨sourced_of_written rfl rfl fun hmem => ?_, htype⟩
    exact ⟨p.array, by simp, mem_of_mem_arraySize hmem⟩

/-- Taking a mark of visibility off leaves a part of the type. -/
lemma nodes_splitExternal {type : Option NativeType} (h : (Loader.splitExternal type).1 = some t) :
    t.nodes ⊆ (Signature.someType type).nodes := by
  unfold Loader.splitExternal at h
  split at h
  · contradiction
  · cases h
    exact List.subset_cons_self _ _
  · obtain rfl : type = some t := h
    exact List.Subset.refl _

/-- What a function of a member holds was written in the member. -/
lemma sourced_routineOf (isStatic : Bool) (m : Member) :
    ∀ t ∈ (routineOf ν isStatic m).prototype.types, ∀ node ∈ t.nodes,
      Sourced (routineTexts m) node := by
  intro t ht node hnode
  rcases List.mem_append.1 ht with hresult | hparam
  · refine (sourced_linkedType? (ν := ν) m.type node ?_).mono (List.subset_append_left _ _)
    exact nodes_splitExternal (Option.mem_toList.1 hresult) hnode
  · obtain ⟨_, hq, rfl⟩ := List.mem_map.1 hparam
    obtain ⟨p, hp, rfl⟩ := List.mem_map.1 hq
    refine (sourced_paramOf p node hnode).mono fun text htext => ?_
    exact List.mem_append_right _ (List.mem_flatMap.2 ⟨p, hp, htext⟩)

/-- **What a loader's functions hold was written in the documents**, whatever the run has been. -/
theorem sourced_of_holds {documents : Compound → Prop} {l : Loader} {f : Routine}
    (h : Loader.RunsOver documents l) (hf : l.Holds f) :
    ∃ compound, documents compound ∧ ∀ t ∈ f.prototype.types, ∀ node ∈ t.nodes,
      Sourced (functionTexts compound) node := by
  obtain ⟨compound, hdocument, s, hs, isStatic, -, m, hm, ν, rfl⟩ := Loader.declared_of_holds h hf
  refine ⟨compound, hdocument, fun t ht node hnode => ?_⟩
  refine (sourced_routineOf _ m t ht node hnode).mono fun text htext => ?_
  exact List.mem_flatMap.2 ⟨s, hs, List.mem_flatMap.2 ⟨m, hm, htext⟩⟩

end Loading

end FrameworkBindings
