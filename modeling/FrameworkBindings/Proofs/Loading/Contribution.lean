import Mathlib.Algebra.GroupWithZero.Nat
import Mathlib.Data.List.Nodup
import FrameworkBindings.Loading.Loader
import FrameworkBindings.Proofs.Types.References

/-!
# What the documentation says

The types, members and functions that a document stands for, as functions of the document and of a
numbering of reference ids alone: no loader and no store occur here.

**Texts.**  `readLinked` is the type of a text with references; `linkedRefids` are the reference ids
that get a slot by it, `linkedFaults` counts whether it is malformed.

**Members.**  `attributeOf`, `propertyOf` and `routineOf` are what a member stands for, and
`attributesOf`, `propertiesOf` and `routinesOf` what sections stand for.

**References.**  All slots in them are numbers of reference ids that were given slots
(`refersTo_linkedType?`, `refersTo_routineOf`), and the numbering enters only through these
(`rename_linkedType?`, `rename_routineOf`).

**Methods.**  `novel` are the methods that an entity takes from a list: those of a new name.
`Entity.extend` is an entity with further members.

**Why a numbering and no store.**  The loader gives slots while it reads, so that what it makes of a
member depends on all that was read before.  It depends on it only by the number of each reference
id, and these never change.  With the numbering as a parameter, members can be described once for
all orders of loading, and loaders are compared by comparing numberings.

**One function for each list.**  What a section gives of each sort of member is a list, empty where
the section is of another kind.  So what sections give is one list behind the other, and statements
on sections are proved for one section.
-/

namespace FrameworkBindings

open Document

namespace Loading

variable (ν : String → EntityId)

/-! ## Texts -/

/-- The reference ids that get a slot by a text: the one of a text with a single reference. -/
def linkedRefids : Option LinkedText → List String
  | some ⟨_, [reference]⟩ => [reference.refid]
  | _ => []

/-- What a text with references is read as.  One reference stands for its entity, several are not
understood, and without any the text is a signature. -/
def readLinked (type : Option LinkedText) (suffix : String) : Signature.Reading :=
  match type with
  | none => .ok (some (.unread ""))
  | some ⟨text, []⟩ => Signature.ofText (text ++ " " ++ suffix)
  | some ⟨_, [reference]⟩ => .ok (some (.entity (ν reference.refid)))
  | some ⟨text, _ :: _ :: _⟩ => .ok (some (.unknown text "ref type"))

/-- The type that stands in for a signature that does not parse.  Loading goes on with it. -/
def recovered : Signature.Reading → Option NativeType
  | .ok type => type
  | .error m => some (.unknown m.signature "malformed")

/-- The type of a text with references, none for `void`. -/
def linkedType? (type : Option LinkedText) (suffix : String) : Option NativeType :=
  recovered (readLinked ν type suffix)

/-- How often a text is malformed: once or not at all. -/
def linkedFaults (type : Option LinkedText) (suffix : String) : Nat :=
  match type with
  | some ⟨text, []⟩ =>
    match Signature.ofText (text ++ " " ++ suffix) with
    | .ok _ => 0
    | .error _ => 1
  | _ => 0

/-! ## Members -/

/-- The field that a member stands for. -/
def attributeOf (access : Access) (isStatic : Bool) (m : Member) : Attribute where
  name := m.name
  type := Signature.someType (linkedType? ν m.type m.argsstring)
  access
  isStatic
  location := locationOf m.placement
  extent := extentOf m.placement

/-- The property that a member stands for. -/
def propertyOf (m : Member) : Property where
  name := m.name
  type := Signature.someType (linkedType? ν m.type m.argsstring)
  readable := m.readable
  writable := m.writable
  location := locationOf m.placement
  extent := extentOf m.placement

/-- The parameter that a documented parameter stands for. -/
def paramOf (p : Parameter) : Param NativeType :=
  ⟨p.declname, Loader.paramType (Signature.someType (linkedType? ν p.type "")) p.array⟩

/-- The function that a member stands for.  A mark of visibility is taken off the result and
remembered. -/
def routineOf (isStatic : Bool) (m : Member) : Routine where
  head := {
    refid := m.id, name := m.name, access := m.access
    location := locationOf m.placement, extent := extentOf m.placement }
  prototype := {
    result := (Loader.splitExternal (linkedType? ν m.type "")).1
    params := m.params.map (paramOf ν) }
  receiver := receiverName m.definition
  isExternal := (Loader.splitExternal (linkedType? ν m.type "")).2
  isStatic

/-- The reference ids that get a slot by a function. -/
def routineRefids (m : Member) : List String :=
  linkedRefids m.type ++ m.params.flatMap fun p => linkedRefids p.type

/-- How many signatures of a function are malformed. -/
def routineFaults (m : Member) : Nat :=
  linkedFaults m.type "" + (m.params.map fun p => linkedFaults p.type "").sum

/-! ## Sections -/

/-- The members of a section that are functions; others are passed over. -/
def functionMembers (s : Section) : List Member := s.members.filter (·.kind = "function")

/-- The fields that a section stands for. -/
def sectionAttributes (s : Section) : List Attribute :=
  match s.sectionKind with
  | .attributes access isStatic => s.members.map (attributeOf ν access isStatic)
  | _ => []

/-- The properties that a section stands for. -/
def sectionProperties (s : Section) : List Property :=
  match s.sectionKind with
  | .properties => s.members.map (propertyOf ν)
  | _ => []

/-- The functions that a section stands for; they are static if the section is or the member is. -/
def sectionRoutines (s : Section) : List Routine :=
  match s.sectionKind with
  | .functions isStatic =>
    (functionMembers s).map fun m => routineOf ν (isStatic || m.isStatic) m
  | _ => []

/-- The reference ids that get a slot by the functions of a section. -/
def functionRefids (s : Section) : List String :=
  match s.sectionKind with
  | .functions _ => (functionMembers s).flatMap routineRefids
  | _ => []

/-- The reference ids that get a slot by a section of an entity. -/
def sectionRefids (s : Section) : List String :=
  match s.sectionKind with
  | .attributes _ _ | .properties => s.members.flatMap fun m => linkedRefids m.type
  | .functions _ => functionRefids s
  | .other => []

/-- How many signatures of the functions of a section are malformed. -/
def functionFaults (s : Section) : Nat :=
  match s.sectionKind with
  | .functions _ => ((functionMembers s).map routineFaults).sum
  | _ => 0

/-- How many signatures of a section of an entity are malformed. -/
def sectionFaults (s : Section) : Nat :=
  match s.sectionKind with
  | .attributes _ _ | .properties =>
    (s.members.map fun m => linkedFaults m.type m.argsstring).sum
  | .functions _ => functionFaults s
  | .other => 0

/-- The fields that sections stand for. -/
def attributesOf (sections : List Section) : List Attribute :=
  sections.flatMap (sectionAttributes ν)

/-- The properties that sections stand for. -/
def propertiesOf (sections : List Section) : List Property :=
  sections.flatMap (sectionProperties ν)

/-- The functions that sections stand for. -/
def routinesOf (sections : List Section) : List Routine :=
  sections.flatMap (sectionRoutines ν)

/-! ## Where functions go -/

/-- The functions that belong to no entity. -/
def freeOf (functions : List Routine) : List Routine := functions.filter (·.isFree)

/-- The functions that belong to the entity they are listed under. -/
def ownOf (name : String) (functions : List Routine) : List Routine :=
  functions.filter fun f => !f.isFree && f.receiver == name

/-- The functions that belong to another entity. -/
def waitingOf (name : String) (functions : List Routine) : List Routine :=
  functions.filter fun f => !f.isFree && f.receiver != name

/-- The functions listed in a file that belong to some entity. -/
def boundOf (functions : List Routine) : List Routine := functions.filter (!·.isFree)

/-- The functions of a list that have a name which is new, both to `methods` and in the list.  The
first of a name is the one that counts. -/
def novel (methods : List Routine) : List Routine → List Routine
  | [] => []
  | f :: functions =>
    if methods.any (·.name == f.name) then novel methods functions
    else f :: novel (methods ++ [f]) functions

/-- What is new in a longer list is new in the first part, or in the second behind what was
taken. -/
lemma novel_append (methods functions others : List Routine) :
    novel methods (functions ++ others) =
      novel methods functions ++ novel (methods ++ novel methods functions) others := by
  induction functions generalizing methods with
  | nil => simp [novel]
  | cons f functions ih =>
      rw [List.cons_append, novel, novel]
      split
      · exact ih methods
      · rw [ih, List.cons_append, List.append_assoc, List.singleton_append]

/-- Nothing is taken twice, so no more is taken than was offered. -/
lemma length_novel_le (methods functions : List Routine) :
    (novel methods functions).length ≤ functions.length := by
  induction functions generalizing methods with
  | nil => simp [novel]
  | cons f functions ih =>
      rw [novel]
      split
      · exact Nat.le_succ_of_le (ih methods)
      · exact Nat.succ_le_succ (ih _)

lemma mem_of_mem_novel {methods functions : List Routine} {f : Routine}
    (h : f ∈ novel methods functions) : f ∈ functions := by
  induction functions generalizing methods with
  | nil => exact h
  | cons g functions ih =>
      rw [novel] at h
      split at h
      · exact List.mem_cons_of_mem _ (ih h)
      · rcases List.mem_cons.1 h with rfl | h
        · exact List.mem_cons_self ..
        · exact List.mem_cons_of_mem _ (ih h)

/-- What is taken has names of its own, apart from those that were there. -/
lemma nodup_novel {methods functions : List Routine} (h : (methods.map Routine.name).Nodup) :
    ((methods ++ novel methods functions).map Routine.name).Nodup := by
  induction functions generalizing methods with
  | nil => simpa [novel] using h
  | cons f functions ih =>
      rw [novel]
      split
      · exact ih h
      · rename_i hnew
        rw [List.append_cons]
        refine ih ?_
        rw [List.map_append, List.nodup_append]
        refine ⟨h, List.nodup_singleton _, ?_⟩
        rintro name hname _ hf rfl
        obtain ⟨g, hg, hgf⟩ := List.mem_map.1 hname
        simp only [List.any_eq_true, beq_iff_eq, not_exists, not_and] at hnew
        exact hnew g hg (hgf.trans (List.mem_singleton.1 hf))

end Loading

open Loading

/-- The entity with further members, as far as it can hold them.  Fields and properties are added as
they come, methods only with new names. -/
def Entity.extend (attributes : List Attribute) (properties : List Property)
    (functions : List Routine) : Entity → Entity
  | .record d => .record { d with
      attributes := d.attributes ++ attributes
      properties := d.properties ++ properties
      methods := d.methods ++ novel d.methods functions }
  | .protocol d => .protocol { d with
      properties := d.properties ++ properties
      methods := d.methods ++ novel d.methods functions }
  | .union d => .union { d with attributes := d.attributes ++ attributes }

namespace Entity

variable {attributes : List Attribute} {properties : List Property} {functions : List Routine}

@[simp]
lemma head_extend (entity : Entity) :
    (entity.extend attributes properties functions).head = entity.head := by
  cases entity <;> rfl

@[simp]
lemma name_extend (entity : Entity) :
    (entity.extend attributes properties functions).name = entity.name :=
  congrArg Declaration.name entity.head_extend

@[simp]
lemma refid_extend (entity : Entity) :
    (entity.extend attributes properties functions).refid = entity.refid :=
  congrArg Declaration.refid entity.head_extend

@[simp]
lemma kind_extend (entity : Entity) :
    (entity.extend attributes properties functions).kind = entity.kind := by
  cases entity <;> rfl

lemma attributes?_extend (entity : Entity) :
    (entity.extend attributes properties functions).attributes? =
      entity.attributes?.map (· ++ attributes) := by
  cases entity <;> rfl

lemma properties?_extend (entity : Entity) :
    (entity.extend attributes properties functions).properties? =
      entity.properties?.map (· ++ properties) := by
  cases entity <;> rfl

lemma methods?_extend (entity : Entity) :
    (entity.extend attributes properties functions).methods? =
      entity.methods?.map fun methods => methods ++ novel methods functions := by
  cases entity <;> rfl

@[simp]
lemma extend_nil (entity : Entity) : entity.extend [] [] [] = entity := by
  cases entity <;> simp [extend, novel]

/-- Extending twice is extending once, with the lists joined. -/
lemma extend_extend (entity : Entity) (attributes' : List Attribute)
    (properties' : List Property) (functions' : List Routine) :
    (entity.extend attributes properties functions).extend attributes' properties' functions' =
      entity.extend (attributes ++ attributes') (properties ++ properties')
        (functions ++ functions') := by
  cases entity <;> simp [extend, novel_append]

lemma addAttribute_eq (entity : Entity) (field : Attribute) :
    entity.addAttribute field = entity.extend [field] [] [] := by
  cases entity <;> simp [addAttribute, extend, novel]

lemma addProperty_eq (entity : Entity) (property : Property) :
    entity.addProperty property = entity.extend [] [property] [] := by
  cases entity <;> simp [addProperty, extend, novel]

/-- Attaching a method is extending by it, so what holds of extending holds of attaching. -/
lemma attach_eq (entity : Entity) (f : Routine) :
    (entity.attach f).1 = entity.extend [] [] [f] := by
  cases entity with
  | record d =>
      simp only [attach, methods?, extend, novel]
      split <;> simp [withMethods]
  | protocol d =>
      simp only [attach, methods?, extend, novel]
      split <;> simp [withMethods]
  | union d => simp [attach, methods?, extend]

end Entity

namespace Loading

variable {ν : String → EntityId} {σ : EntityId → EntityId}

/-! ## References -/

/-- All slots in the type are numbers of the given reference ids, so it is known where each comes
from. -/
def RefersTo (ν : String → EntityId) (refids : List String) (t : NativeType) : Prop :=
  ∀ id ∈ t.ids, ∃ refid ∈ refids, ν refid = id

/-- More reference ids may only explain more. -/
lemma RefersTo.mono {refids others : List String} {t : NativeType} (h : RefersTo ν refids t)
    (hsub : refids ⊆ others) : RefersTo ν others t := by
  intro id hid
  obtain ⟨refid, hmem, hν⟩ := h id hid
  exact ⟨refid, hsub hmem, hν⟩

/-- A type without slots refers to nothing, so any reference ids will do. -/
lemma RefersTo.of_ids_eq_nil {refids : List String} {t : NativeType} (h : t.ids = []) :
    RefersTo ν refids t := by
  intro id hid
  simp [h] at hid

/-- A text refers to what it mentions, and a signature to nothing: only a reference becomes a slot.
-/
lemma refersTo_linkedType? (type : Option LinkedText) (suffix : String) :
    RefersTo ν (linkedRefids type) (Signature.someType (linkedType? ν type suffix)) := by
  rcases type with _ | ⟨text, _ | ⟨reference, _ | _⟩⟩
  · exact .of_ids_eq_nil rfl
  · refine .of_ids_eq_nil ?_
    rw [linkedType?, readLinked]
    cases hread : Signature.ofText (text ++ " " ++ suffix) with
    | error m => rfl
    | ok type => exact Signature.ids_someType hread (Signature.ids_of_parse _)
  · intro id hid
    exact ⟨_, List.mem_singleton_self _, (List.mem_singleton.1 hid).symm⟩
  · exact .of_ids_eq_nil rfl

lemma refersTo_paramOf (p : Parameter) :
    RefersTo ν (linkedRefids p.type) (paramOf ν p).type := by
  have htype := refersTo_linkedType? (ν := ν) p.type ""
  simp only [paramOf, Loader.paramType]
  split
  · exact htype
  · exact htype

/-- Taking a mark of visibility off adds no reference. -/
lemma refersTo_splitExternal {refids : List String} {type : Option NativeType}
    (h : RefersTo ν refids (Signature.someType type)) :
    ∀ r ∈ (Loader.splitExternal type).1, RefersTo ν refids r := by
  intro r hr
  unfold Loader.splitExternal at hr
  split at hr
  · simp at hr
  · cases Option.mem_def.1 hr
    exact h
  · obtain rfl : type = some r := hr
    exact h

lemma refersTo_routineOf (isStatic : Bool) (m : Member) :
    ∀ t ∈ (routineOf ν isStatic m).types, RefersTo ν (routineRefids m) t := by
  intro t ht
  rcases List.mem_append.1 ht with hresult | hparam
  · have htype := refersTo_linkedType? (ν := ν) m.type ""
    exact (refersTo_splitExternal htype t (Option.mem_toList.1 hresult)).mono
      (List.subset_append_left _ _)
  · obtain ⟨_, hq, rfl⟩ := List.mem_map.1 hparam
    obtain ⟨p, hp, rfl⟩ := List.mem_map.1 hq
    refine (refersTo_paramOf p).mono fun refid hrefid => ?_
    exact List.mem_append_right _ (List.mem_flatMap.2 ⟨p, hp, hrefid⟩)

lemma refersTo_sectionRoutines (s : Section) :
    ∀ f ∈ sectionRoutines ν s, ∀ t ∈ f.types, RefersTo ν (functionRefids s) t := by
  intro f hf t ht
  unfold sectionRoutines at hf
  unfold functionRefids
  split at hf
  · obtain ⟨m, hm, rfl⟩ := List.mem_map.1 hf
    exact (refersTo_routineOf _ m t ht).mono fun refid hrefid =>
      List.mem_flatMap.2 ⟨m, hm, hrefid⟩
  · simp at hf

lemma functionRefids_subset (s : Section) : functionRefids s ⊆ sectionRefids s := by
  cases hkind : s.sectionKind <;> simp [functionRefids, sectionRefids, hkind]

lemma refersTo_sectionAttributes (s : Section) :
    ∀ field ∈ sectionAttributes ν s, RefersTo ν (sectionRefids s) field.type := by
  intro field hfield
  cases hkind : s.sectionKind with
  | attributes access isStatic =>
      simp only [sectionAttributes, sectionRefids, hkind] at hfield ⊢
      obtain ⟨m, hm, rfl⟩ := List.mem_map.1 hfield
      exact (refersTo_linkedType? m.type m.argsstring).mono fun refid hrefid =>
        List.mem_flatMap.2 ⟨m, hm, hrefid⟩
  | _ => simp [sectionAttributes, hkind] at hfield

lemma refersTo_sectionProperties (s : Section) :
    ∀ property ∈ sectionProperties ν s, RefersTo ν (sectionRefids s) property.type := by
  intro property hproperty
  cases hkind : s.sectionKind with
  | properties =>
      simp only [sectionProperties, sectionRefids, hkind] at hproperty ⊢
      obtain ⟨m, hm, rfl⟩ := List.mem_map.1 hproperty
      exact (refersTo_linkedType? m.type m.argsstring).mono fun refid hrefid =>
        List.mem_flatMap.2 ⟨m, hm, hrefid⟩
  | _ => simp [sectionProperties, hkind] at hproperty

/-! ## Renumbering -/

/-- Under another numbering a text has the same type with other slots. -/
lemma rename_linkedType? (type : Option LinkedText) (suffix : String) :
    linkedType? (fun refid => σ (ν refid)) type suffix =
      (linkedType? ν type suffix).map (·.rename σ) := by
  rcases type with _ | ⟨text, _ | ⟨reference, _ | _⟩⟩
  · rfl
  · rw [linkedType?, linkedType?, readLinked, readLinked]
    cases hread : Signature.ofText (text ++ " " ++ suffix) with
    | error m => rfl
    | ok type =>
        cases type with
        | none => rfl
        | some t =>
            have hids : t.ids = [] := by
              have := Signature.ids_of_parse (text ++ " " ++ suffix).toList
              rwa [show Signature.parse (text ++ " " ++ suffix).toList = .ok (some t) from hread]
                at this
            simp [recovered, NativeType.rename_of_ids_eq_nil hids]
  · rfl
  · rfl

lemma someType_rename (type : Option NativeType) :
    Signature.someType (type.map (·.rename σ)) = (Signature.someType type).rename σ := by
  cases type <;> rfl

lemma splitExternal_rename (type : Option NativeType) :
    Loader.splitExternal (type.map (·.rename σ)) =
      ((Loader.splitExternal type).1.map (·.rename σ), (Loader.splitExternal type).2) := by
  rcases type with _ | t
  · rfl
  cases t with
  | external e =>
      cases e with
      | unknown raw comment =>
          have hsame : (NativeType.unknown raw comment).rename σ = .unknown raw comment := rfl
          by_cases hvoid : raw = "void" ∧ comment = "void"
          · obtain ⟨rfl, rfl⟩ := hvoid
            rfl
          · have hplain : Loader.splitExternal (some (.external (.unknown raw comment))) =
                (some (.unknown raw comment), true) := by
              unfold Loader.splitExternal
              split
              · rename_i heq
                simp_all
              · rename_i heq
                simp_all
              · simp_all
            rw [hplain]
            exact hplain
      | function result params =>
          cases result <;> simp [NativeType.rename, Loader.splitExternal]
      | _ => rfl
  | function result params => cases result <;> simp [NativeType.rename, Loader.splitExternal]
  | _ => rfl

lemma rename_paramOf (p : Parameter) :
    paramOf (fun refid => σ (ν refid)) p = ⟨p.declname, (paramOf ν p).type.rename σ⟩ := by
  simp only [paramOf, rename_linkedType?, someType_rename, Loader.paramType]
  split <;> rfl

lemma rename_routineOf (isStatic : Bool) (m : Member) :
    routineOf (fun refid => σ (ν refid)) isStatic m = (routineOf ν isStatic m).rename σ := by
  have hparams : m.params.map (paramOf fun refid => σ (ν refid)) =
      (m.params.map (paramOf ν)).map fun p => ⟨p.name, p.type.rename σ⟩ := by
    rw [List.map_map]
    exact List.map_congr_left fun p _ => rename_paramOf p
  simp only [routineOf, rename_linkedType?, splitExternal_rename, hparams]
  rfl

lemma rename_sectionRoutines (s : Section) :
    sectionRoutines (fun refid => σ (ν refid)) s = (sectionRoutines ν s).map (·.rename σ) := by
  unfold sectionRoutines
  split
  · rw [List.map_map]
    exact List.map_congr_left fun m _ => rename_routineOf _ m
  · rfl

lemma rename_sectionAttributes (s : Section) :
    sectionAttributes (fun refid => σ (ν refid)) s =
      (sectionAttributes ν s).map (·.rename σ) := by
  unfold sectionAttributes
  split
  · rw [List.map_map]
    refine List.map_congr_left fun m _ => ?_
    simp only [attributeOf, rename_linkedType?, someType_rename]
    rfl
  · rfl

lemma rename_sectionProperties (s : Section) :
    sectionProperties (fun refid => σ (ν refid)) s =
      (sectionProperties ν s).map (·.rename σ) := by
  unfold sectionProperties
  split
  · rw [List.map_map]
    refine List.map_congr_left fun m _ => ?_
    simp only [propertyOf, rename_linkedType?, someType_rename]
    rfl
  · rfl

lemma rename_routinesOf (sections : List Section) :
    routinesOf (fun refid => σ (ν refid)) sections = (routinesOf ν sections).map (·.rename σ) := by
  rw [routinesOf, routinesOf, List.map_flatMap]
  exact List.flatMap_congr fun s _ => rename_sectionRoutines s

lemma rename_attributesOf (sections : List Section) :
    attributesOf (fun refid => σ (ν refid)) sections =
      (attributesOf ν sections).map (·.rename σ) := by
  rw [attributesOf, attributesOf, List.map_flatMap]
  exact List.flatMap_congr fun s _ => rename_sectionAttributes s

lemma rename_propertiesOf (sections : List Section) :
    propertiesOf (fun refid => σ (ν refid)) sections =
      (propertiesOf ν sections).map (·.rename σ) := by
  rw [propertiesOf, propertiesOf, List.map_flatMap]
  exact List.flatMap_congr fun s _ => rename_sectionProperties s

/-- Where a function goes depends on names, which renumbering keeps. -/
lemma freeOf_rename (functions : List Routine) :
    freeOf (functions.map (·.rename σ)) = (freeOf functions).map (·.rename σ) :=
  List.filter_map

lemma ownOf_rename (name : String) (functions : List Routine) :
    ownOf name (functions.map (·.rename σ)) = (ownOf name functions).map (·.rename σ) :=
  List.filter_map

lemma waitingOf_rename (name : String) (functions : List Routine) :
    waitingOf name (functions.map (·.rename σ)) = (waitingOf name functions).map (·.rename σ) :=
  List.filter_map

lemma boundOf_rename (functions : List Routine) :
    boundOf (functions.map (·.rename σ)) = (boundOf functions).map (·.rename σ) :=
  List.filter_map

/-- New names stay new names under other numbers, since slots have no part in names. -/
lemma novel_rename (methods functions : List Routine) :
    novel (methods.map (·.rename σ)) (functions.map (·.rename σ)) =
      (novel methods functions).map (·.rename σ) := by
  induction functions generalizing methods with
  | nil => rfl
  | cons f functions ih =>
      have hany : (methods.map (·.rename σ)).any (·.name == (f.rename σ).name) =
          methods.any (·.name == f.name) := by
        rw [List.any_map]
        rfl
      have hrest := ih (methods ++ [f])
      rw [List.map_append, List.map_singleton] at hrest
      rw [List.map_cons, novel, novel, hany, ih, hrest]
      split <;> rfl

/-- Entities grow in the same way under other numbers, since only names decide what is taken. -/
lemma extend_rename (entity : Entity) (attributes : List Attribute) (properties : List Property)
    (functions : List Routine) :
    (entity.rename σ).extend (attributes.map (·.rename σ)) (properties.map (·.rename σ))
        (functions.map (·.rename σ)) =
      (entity.extend attributes properties functions).rename σ := by
  cases entity <;> simp [Entity.extend, Entity.rename, novel_rename]

end Loading

end FrameworkBindings
