import Mathlib.Tactic.Lemma
import FrameworkBindings.Entity
import FrameworkBindings.Signature.Parse

/-!
# The slots that types refer to

A type refers to entities by the numbers of their slots, and these depend on the order in which a
store heard of the entities.  Everything that is said about types and stores goes through two
functions on types.

**References.**  `NativeType.ids` lists the slots that occur anywhere in a type; `types` lists the
types of a function, of a member or of an entity.  What is read from a signature refers to no slot
at all (`Signature.ids_of_parse`): slots come from the references of the documentation only.

**Renumbering.**  `NativeType.rename` replaces every slot of a type, and `rename` on functions,
members and entities does so in all their types.  Nothing but the slots is changed.

The two are tied together by `rename_congr`: a renumbering is seen only at the slots that occur, so
two of them do the same to a type if they agree on its slots.  A store is well-formed if all slots
that its types refer to exist, and two stores are the same but for the order of loading if one is a
renumbering of the other; both are stated with these functions.
-/

namespace FrameworkBindings

lemma map_eq_ok_iff {ε α β : Type} {x : Except ε α} {f : α → β} {b : β} :
    x.map f = .ok b ↔ ∃ a, x = .ok a ∧ f a = b := by
  cases x <;> simp [Except.map]

lemma map_eq_error_iff {ε α β : Type} {x : Except ε α} {f : α → β} {e : ε} :
    x.map f = .error e ↔ x = .error e := by
  cases x <;> simp [Except.map]

namespace NativeType

mutual

/-- The slots that occur in a type, at any depth; a slot that occurs twice is listed twice. -/
def ids : NativeType → List EntityId
  | .primitive _ | .named _ | .string | .unknown _ _ => []
  | .pointer e | .array e _ | .const e | .strong e | .nullable e _ | .external e => e.ids
  | .function none params => paramIds params
  | .function (some r) params => r.ids ++ paramIds params
  | .entity id => [id]

/-- The slots that occur in the types of parameters, written out for the sake of the recursion. -/
def paramIds : List (Param NativeType) → List EntityId
  | [] => []
  | ⟨_, t⟩ :: params => t.ids ++ paramIds params

end

mutual

/-- The type with every slot renumbered, and otherwise the same. -/
def rename (σ : EntityId → EntityId) : NativeType → NativeType
  | .primitive name => .primitive name
  | .named name => .named name
  | .string => .string
  | .pointer e => .pointer (e.rename σ)
  | .array e size => .array (e.rename σ) size
  | .const e => .const (e.rename σ)
  | .strong e => .strong (e.rename σ)
  | .nullable e allowsNull => .nullable (e.rename σ) allowsNull
  | .external e => .external (e.rename σ)
  | .function none params => .function none (renameParams σ params)
  | .function (some r) params => .function (some (r.rename σ)) (renameParams σ params)
  | .unknown raw comment => .unknown raw comment
  | .entity id => .entity (σ id)

/-- Parameters with every slot in their types renumbered. -/
def renameParams (σ : EntityId → EntityId) : List (Param NativeType) → List (Param NativeType)
  | [] => []
  | ⟨name, t⟩ :: params => ⟨name, t.rename σ⟩ :: renameParams σ params

end

variable {σ : EntityId → EntityId}

lemma paramIds_eq_flatMap (params : List (Param NativeType)) :
    paramIds params = params.flatMap fun p => p.type.ids := by
  induction params with
  | nil => rfl
  | cons p params ih => rw [paramIds, ih, List.flatMap_cons]

lemma renameParams_eq_map (params : List (Param NativeType)) :
    renameParams σ params = params.map fun p => ⟨p.name, p.type.rename σ⟩ := by
  induction params with
  | nil => rfl
  | cons p params ih => rw [renameParams, ih, List.map_cons]

lemma mem_ids_function {id : EntityId} {result : Option NativeType}
    {params : List (Param NativeType)} :
    id ∈ (NativeType.function result params).ids ↔
      (∃ r ∈ result, id ∈ r.ids) ∨ ∃ p ∈ params, id ∈ p.type.ids := by
  cases result <;> simp [ids, paramIds_eq_flatMap]

lemma ids_function_eq_nil {result : Option NativeType} {params : List (Param NativeType)}
    (hresult : ∀ r ∈ result, r.ids = []) (hparams : ∀ p ∈ params, p.type.ids = []) :
    (NativeType.function result params).ids = [] := by
  rw [List.eq_nil_iff_forall_not_mem]
  intro id hid
  rcases mem_ids_function.1 hid with ⟨r, hr, hmem⟩ | ⟨p, hp, hmem⟩
  · simp [hresult r hr] at hmem
  · simp [hparams p hp] at hmem

lemma rename_function (result : Option NativeType) (params : List (Param NativeType)) :
    (NativeType.function result params).rename σ =
      .function (result.map (rename σ)) (params.map fun p => ⟨p.name, p.type.rename σ⟩) := by
  cases result <;> simp [rename, renameParams_eq_map]

/-- Renumbering is seen only at the slots that occur in the type. -/
lemma rename_congr {τ : EntityId → EntityId} {t : NativeType} (h : ∀ id ∈ t.ids, σ id = τ id) :
    t.rename σ = t.rename τ := by
  induction t using NativeType.recursion with
  | function result params ihr ihp =>
      have hresult : result.map (rename σ) = result.map (rename τ) := by
        refine Option.map_congr fun r hr => ?_
        exact ihr r hr fun id hid => h id (mem_ids_function.2 (.inl ⟨r, hr, hid⟩))
      have hparams : (params.map fun p => (⟨p.name, p.type.rename σ⟩ : Param NativeType)) =
          params.map fun p => ⟨p.name, p.type.rename τ⟩ := by
        refine List.map_congr_left fun p hp => ?_
        rw [ihp p hp fun id hid => h id (mem_ids_function.2 (.inr ⟨p, hp, hid⟩))]
      rw [rename_function, rename_function, hresult, hparams]
  | entity id => rw [rename, rename, h id (by simp [ids])]
  | primitive _ | named _ | string | unknown _ _ => rfl
  | pointer _ ih | array _ _ ih | const _ ih | strong _ ih | nullable _ _ ih | external _ ih =>
      rw [rename, rename, ih h]

@[simp]
lemma rename_id (t : NativeType) : t.rename id = t := by
  induction t using NativeType.recursion with
  | function result params ihr ihp =>
      have hresult : result.map (rename id) = result := by
        cases result with
        | none => rfl
        | some r => rw [Option.map_some, ihr r rfl]
      have hparams : (params.map fun p => (⟨p.name, p.type.rename id⟩ : Param NativeType)) =
          params := by
        calc _ = params.map id := List.map_congr_left fun p hp => by rw [ihp p hp]; rfl
          _ = params := List.map_id params
      rw [rename_function, hresult, hparams]
  | primitive _ | named _ | string | unknown _ _ | entity _ => rfl
  | pointer _ ih | array _ _ ih | const _ ih | strong _ ih | nullable _ _ ih | external _ ih =>
      rw [rename, ih]

/-- A type that refers to no slot is not changed, as is the case for all that come from
signatures. -/
lemma rename_of_ids_eq_nil {t : NativeType} (h : t.ids = []) : t.rename σ = t := by
  rw [rename_congr (τ := id) (by simp [h]), rename_id]

end NativeType

/-! ## Functions, members and entities -/

/-- The types in a prototype, the result first. -/
def Prototype.types (prototype : Prototype) : List NativeType :=
  prototype.result.toList ++ prototype.params.map (·.type)

/-- The prototype with every slot renumbered. -/
def Prototype.rename (σ : EntityId → EntityId) (prototype : Prototype) : Prototype where
  result := prototype.result.map (·.rename σ)
  params := prototype.params.map fun p => ⟨p.name, p.type.rename σ⟩

/-- The field with every slot renumbered. -/
def Attribute.rename (σ : EntityId → EntityId) (field : Attribute) : Attribute :=
  { field with type := field.type.rename σ }

/-- The property with every slot renumbered. -/
def Property.rename (σ : EntityId → EntityId) (property : Property) : Property :=
  { property with type := property.type.rename σ }

@[simp]
lemma Attribute.rename_id (field : Attribute) : field.rename id = field := by
  simp [rename]

@[simp]
lemma Property.rename_id (property : Property) : property.rename id = property := by
  simp [rename]

/-- The types in a function: that of its result and those of its parameters. -/
def Routine.types (f : Routine) : List NativeType := f.prototype.types

/-- The function with every slot renumbered. -/
def Routine.rename (σ : EntityId → EntityId) (f : Routine) : Routine :=
  { f with prototype := f.prototype.rename σ }

@[simp]
lemma Routine.rename_id (f : Routine) : f.rename id = f := by
  simp [rename, Prototype.rename]

namespace Entity

/-- The types in the members of an entity: fields, properties, methods. -/
def types (entity : Entity) : List NativeType :=
  (entity.attributes?.getD []).map (·.type) ++ (entity.properties?.getD []).map (·.type)
    ++ (entity.methods?.getD []).flatMap Routine.types

/-- The entity with every slot in its members renumbered. -/
def rename (σ : EntityId → EntityId) : Entity → Entity
  | .record d => .record { d with
      attributes := d.attributes.map (·.rename σ)
      properties := d.properties.map (·.rename σ)
      methods := d.methods.map (·.rename σ) }
  | .protocol d => .protocol { d with
      properties := d.properties.map (·.rename σ)
      methods := d.methods.map (·.rename σ) }
  | .union d => .union { d with attributes := d.attributes.map (·.rename σ) }

@[simp]
lemma head_rename (σ : EntityId → EntityId) (entity : Entity) :
    (entity.rename σ).head = entity.head := by
  cases entity <;> rfl

@[simp]
lemma name_rename (σ : EntityId → EntityId) (entity : Entity) :
    (entity.rename σ).name = entity.name :=
  congrArg Declaration.name (entity.head_rename σ)

@[simp]
lemma rename_id (entity : Entity) : entity.rename id = entity := by
  cases entity <;> simp [rename]

@[simp]
lemma methods?_rename (σ : EntityId → EntityId) (entity : Entity) :
    (entity.rename σ).methods? = entity.methods?.map (·.map (·.rename σ)) := by
  cases entity <;> rfl

end Entity

/-! ## Signatures -/

namespace Signature

open Text

/-- The presets are types of Go and strings, and refer to nothing. -/
lemma ids_of_preset {plain : List Char} {t : NativeType} (h : preset? plain = some t) :
    t.ids = [] := by
  have hpresets : ∀ p ∈ presets, p.2.ids = [] := by
    intro p hp
    simp only [presets, List.mem_cons, List.not_mem_nil, or_false] at hp
    rcases hp with rfl | rfl | rfl | rfl | rfl | rfl | rfl | rfl | rfl | rfl | rfl <;> rfl
  obtain ⟨before, after, hsplit, _⟩ := List.lookup_eq_some_iff.1 h
  exact hpresets (String.ofList plain, t) (by simp [hsplit])

/-- Qualifying a type adds no reference and takes none away. -/
lemma ids_apply (wrap : Wrap) (t : NativeType) : (wrap.apply t).ids = t.ids := by
  cases wrap <;> rfl

/-- What the reading of a text refers to; a text that was not read refers to nothing. -/
def readIds : Reading → List EntityId
  | .ok (some t) => t.ids
  | _ => []

lemma ids_someType {reading : Reading} {type : Option NativeType} (h : reading = .ok type)
    (hids : readIds reading = []) : (someType type).ids = [] := by
  cases type with
  | none => rfl
  | some t => simpa [h, readIds, someType] using hids

lemma ids_of_readParams {read : List Char → Reading} {texts : List (Param (List Char))}
    {params : List (Param NativeType)} (h : readParams read texts = .ok params)
    (hread : ∀ p ∈ texts, readIds (read p.type) = []) : ∀ p ∈ params, p.type.ids = [] := by
  induction texts generalizing params with
  | nil =>
      cases h
      simp
  | cons text texts ih =>
      rw [readParams] at h
      split at h
      · contradiction
      · rename_i type htype
        obtain ⟨rest, hrest, rfl⟩ := map_eq_ok_iff.1 h
        intro p hp
        rcases List.mem_cons.1 hp with rfl | hp
        · exact ids_someType htype (hread text (by simp))
        · exact ih hrest (fun q hq => hread q (by simp [hq])) p hp

/-- Only the presets bring types of their own into a form; what is in the other forms is still
text. -/
lemma ids_of_form_eq_preset {sig : List Char} {t : NativeType} (h : Form.of sig = .preset t) :
    t.ids = [] := by
  have hplain : Form.ofPlain sig ≠ .preset t := by
    unfold Form.ofPlain
    split <;> split <;> (try split) <;> simp
  unfold Form.of at h
  split at h
  · contradiction
  split at h
  case h_1 type htype =>
    cases h
    exact ids_of_preset htype
  split at h
  · contradiction
  split at h
  · contradiction
  split at h
  · contradiction
  · exact absurd h hplain

/-- If the parts of a text refer to nothing, neither does the whole. -/
lemma readIds_interpret {sig : List Char} {read : List Char → Reading}
    (hread : ∀ part ∈ (Form.of sig).parts, readIds (read part) = []) :
    readIds ((Form.of sig).interpret sig read) = [] := by
  cases hform : Form.of sig with
  | void | malformed _ | primitive _ | named | unrecognized => rfl
  | preset t => exact ids_of_form_eq_preset hform
  | function result params =>
      rw [hform] at hread
      cases hresult : read result with
      | error e => simp [Form.interpret, hresult, readIds]
      | ok type =>
          cases hparams : readParams read params with
          | error e => simp [Form.interpret, hresult, hparams, Except.map, readIds]
          | ok ps =>
              simp only [Form.interpret, hresult, hparams, Except.map, readIds]
              refine NativeType.ids_function_eq_nil ?_ ?_
              · intro r hr
                have hids := hread result (by simp [Form.parts])
                rw [hresult, Option.mem_def.1 hr] at hids
                exact hids
              · refine ids_of_readParams hparams fun p hp => ?_
                exact hread p.type (by simp only [Form.parts]; grind)
  | wrapped wrap inner =>
      have hinner := hread inner (by simp [hform, Form.parts])
      cases htype : read inner with
      | error e => simp [Form.interpret, htype, Except.map, readIds]
      | ok type =>
          simp only [Form.interpret, htype, Except.map, readIds, ids_apply]
          exact ids_someType htype hinner
  | array elem size =>
      have helem := hread elem (by simp [hform, Form.parts])
      cases htype : read elem with
      | error e => simp [Form.interpret, htype, Except.map, readIds]
      | ok type =>
          simp only [Form.interpret, htype, Except.map, readIds, NativeType.ids]
          exact ids_someType htype helem

/-- **A signature refers to no slot**, by induction on its parts: names stay names. -/
theorem ids_of_parse (text : List Char) : readIds (parse text) = [] := by
  induction text using parts_induction with
  | step text ih =>
    rw [parse_eq]
    exact readIds_interpret ih

end Signature

end FrameworkBindings
