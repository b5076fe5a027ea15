import Mathlib.Data.List.Basic
import FrameworkBindings.Output.Generate
import FrameworkBindings.Proofs.Types.References

/-!
# Output and the numbers of slots

The output for an entity depends on the store in one way only: through the Go name, the cast to
native and the cast to the host of the slots that its types refer to.

* `Relocates` — under a renumbering, the slots of a list show the same in another store.
* `spelling_rename`, `toNative_rename`, `toHost_rename` — then so do all types over these slots.
* `cross_rename`, `setter_rename`, `method_rename`, `accept_rename`, `stub_rename` — then members
  cross the bridge alike, and have the same text and the same verdict.
* `emit_rename` — and the output for an entity is the same, events included.

**Two uses.**  With another numbering it compares stores that were filled in different orders.  With
the same numbers it compares a store with one whose entities have other members: types do not look
at members, so the output for an entity does not depend on those of others.

**Function by function.**  The lemmas follow the functions of the generator, each with the
hypothesis on the types that the function looks at.  A function that asked the store for anything
else would not have such a lemma.
-/

namespace FrameworkBindings

/-! ## Slots that show the same -/

/-- Two slots of two stores show the same on the Go side: one name, and the same casts. -/
structure SameFace (store store' : Store) (id id' : EntityId) : Prop where
  spelling : store'.spelling id' = store.spelling id
  toNative : ∀ expression,
    (store'.entity? id').bind (·.toNative expression) =
      (store.entity? id).bind (·.toNative expression)
  toHost : ∀ expression,
    (store'.entity? id').bind (·.toHost expression) =
      (store.entity? id).bind (·.toHost expression)

/-- Only the head and the kind of an entity show. -/
lemma SameFace.of_entity? {store store' : Store} {id id' : EntityId} {entity entity' : Entity}
    (h : store.entity? id = some entity) (h' : store'.entity? id' = some entity')
    (hhead : entity'.head = entity.head) (hkind : entity'.kind = entity.kind) :
    SameFace store store' id id' := by
  cases entity with
  | record d =>
      cases entity' with
      | record d' =>
          have hhead : d'.head = d.head := hhead
          constructor <;>
            simp [Store.spelling, h, h', Entity.head, Entity.toNative, Entity.toHost, hhead]
      | protocol _ | union _ => simp only [Entity.kind] at hkind; split at hkind <;> contradiction
  | protocol d =>
      cases entity' with
      | protocol d' =>
          have hhead : d'.head = d.head := hhead
          constructor <;>
            simp [Store.spelling, h, h', Entity.head, Entity.toNative, Entity.toHost, hhead]
      | record _ => simp only [Entity.kind] at hkind; split at hkind <;> contradiction
      | union _ => contradiction
  | union d =>
      cases entity' with
      | union d' =>
          have hhead : d'.head = d.head := hhead
          constructor <;>
            simp [Store.spelling, h, h', Entity.head, Entity.toNative, Entity.toHost, hhead]
      | record _ => simp only [Entity.kind] at hkind; split at hkind <;> contradiction
      | protocol _ => contradiction

/-- A slot that holds the same entity in both stores shows the same. -/
lemma SameFace.of_entity?_eq {store store' : Store} {id : EntityId}
    (h : store'.entity? id = store.entity? id) : SameFace store store' id id := by
  constructor <;> simp [Store.spelling, h]

/-- Every slot of the list shows the same under its new number. -/
def Relocates (σ : EntityId → EntityId) (store store' : Store) (ids : List EntityId) : Prop :=
  ∀ id ∈ ids, SameFace store store' id (σ id)

/-- Every slot in the types shows the same under its new number. -/
def RelocatesTypes (σ : EntityId → EntityId) (store store' : Store) (types : List NativeType) :
    Prop :=
  ∀ t ∈ types, Relocates σ store store' t.ids

variable {σ : EntityId → EntityId} {store store' : Store}

/-! ## Types -/

namespace NativeType

/-- **The Go name of a type depends on its slots by their faces only.** -/
theorem spelling_rename {t : NativeType} (h : Relocates σ store store' t.ids) :
    (t.rename σ).spelling store' = t.spelling store := by
  induction t using NativeType.recursion with
  | function result params ihr ihp =>
      have hresult : ∀ r ∈ result, (r.rename σ).spelling store' = r.spelling store :=
        fun r hr => ihr r hr fun id hid => h id (mem_ids_function.2 (.inl ⟨r, hr, hid⟩))
      have hparams : ∀ p ∈ params, (p.type.rename σ).spelling store' = p.type.spelling store :=
        fun p hp => ihp p hp fun id hid => h id (mem_ids_function.2 (.inr ⟨p, hp, hid⟩))
      rw [rename_function, spelling_function, spelling_function]
      exact congrArg (Spelling.after "func") (Prototype.spelling_map hresult hparams)
  | entity id => exact (h id (by simp [ids])).spelling
  | primitive _ | named _ | string | unknown _ _ => rfl
  | pointer _ ih | array _ _ ih | const _ ih | strong _ ih | nullable _ _ ih | external _ ih =>
      rw [rename, spelling, spelling, ih h]

/-- The cast to native depends on the slots of a type by their faces only, for every expression. -/
theorem toNative_rename {t : NativeType} (h : Relocates σ store store' t.ids)
    (expression : String) :
    (t.rename σ).toNative store' expression = t.toNative store expression := by
  induction t using NativeType.recursion with
  | function result params _ _ => rw [rename_function, toNative, toNative]
  | entity id => exact (h id (by simp [ids])).toNative expression
  | primitive _ | named _ | string | unknown _ _ => rfl
  | pointer _ ih | array _ _ ih | const _ ih | strong _ ih | nullable _ _ ih | external _ ih =>
      rw [rename, toNative, toNative, ih h]

/-- The cast to the host depends on the slots of a type by their faces only, for every
expression. -/
theorem toHost_rename {t : NativeType} (h : Relocates σ store store' t.ids) (expression : String) :
    (t.rename σ).toHost store' expression = t.toHost store expression := by
  induction t using NativeType.recursion with
  | function result params _ _ => rw [rename_function, toHost, toHost]
  | entity id => exact (h id (by simp [ids])).toHost expression
  | primitive _ | named _ | string | unknown _ _ => rfl
  | pointer _ ih | array _ _ ih | const _ ih | strong _ ih | nullable _ _ ih | external _ ih =>
      rw [rename, toHost, toHost, ih h]

end NativeType

/-- A signature has the same Go name, parameter by parameter. -/
lemma Prototype.spelling_rename {prototype : Prototype}
    (h : RelocatesTypes σ store store' prototype.types) :
    (prototype.rename σ).spelling store' = prototype.spelling store := by
  refine Prototype.spelling_map (fun r hr => ?_) fun p hp => ?_
  · exact NativeType.spelling_rename (h r (by simp [types, hr]))
  · exact NativeType.spelling_rename (h p.type (by simpa [types] using .inr ⟨p, hp, rfl⟩))

/-! ## Crossing the bridge -/

namespace Output

/-- The result with every slot in its type renumbered; the Go text of it is kept. -/
def Result.rename (σ : EntityId → EntityId) : Result → Result
  | .typed goType type => .typed goType (type.rename σ)
  | result => result

/-- The crossing with every slot in its result renumbered; arguments hold texts only. -/
def Crossing.rename (σ : EntityId → EntityId) (crossing : Crossing) : Crossing :=
  { crossing with result := crossing.result.rename σ }

@[simp]
lemma verdict_rename (result : Result) : (result.rename σ).verdict = result.verdict := by
  cases result <;> rfl

lemma crossArgument_rename {p : Param NativeType} (h : Relocates σ store store' p.type.ids)
    (direction : Direction) (place : Nat) :
    crossArgument store' direction place ⟨p.name, p.type.rename σ⟩ =
      crossArgument store direction place p := by
  simp only [crossArgument, NativeType.spelling_rename h, NativeType.toNative_rename h,
    NativeType.toHost_rename h]

lemma crossArguments_rename {params : List (Param NativeType)}
    (h : ∀ p ∈ params, Relocates σ store store' p.type.ids) (direction : Direction) (place : Nat) :
    crossArguments store' direction place (params.map fun p => ⟨p.name, p.type.rename σ⟩) =
      crossArguments store direction place params := by
  induction params generalizing place with
  | nil => rfl
  | cons p params ih =>
      rw [List.map_cons, crossArguments, crossArguments, crossArgument_rename (h p (by simp)),
        ih fun q hq => h q (by simp [hq])]

lemma resultCrosses_rename {type : NativeType} (h : Relocates σ store store' type.ids)
    (direction : Direction) :
    resultCrosses store' direction (type.rename σ) = resultCrosses store direction type := by
  cases direction with
  | call => exact congrArg Option.isSome (NativeType.toHost_rename h "v")
  | callback => exact congrArg Option.isSome (NativeType.toNative_rename h "v")

lemma crossResult_rename {result : Option NativeType}
    (h : ∀ r ∈ result, Relocates σ store store' r.ids) (direction : Direction) :
    crossResult store' direction (result.map (·.rename σ)) =
      (crossResult store direction result).rename σ := by
  cases result with
  | none => rfl
  | some r =>
      have hr := h r rfl
      simp only [Option.map_some, crossResult, NativeType.spelling_rename hr,
        resultCrosses_rename hr]
      split
      · split <;> rfl
      · rfl

/-- A function crosses alike, or is refused alike, since its arguments and its result do. -/
lemma cross_rename {prototype : Prototype} (h : RelocatesTypes σ store store' prototype.types)
    (direction : Direction) :
    (prototype.rename σ).cross store' direction =
      (prototype.cross store direction).map (·.rename σ) := by
  have hparams : ∀ p ∈ prototype.params, Relocates σ store store' p.type.ids := fun p hp =>
    h p.type (by simpa [Prototype.types] using .inr ⟨p, hp, rfl⟩)
  have hresult : ∀ r ∈ prototype.result, Relocates σ store store' r.ids := fun r hr =>
    h r (by simp [Prototype.types, Option.mem_def.1 hr])
  rw [Prototype.cross, Prototype.cross, Prototype.rename, crossArguments_rename hparams]
  simp only [crossResult_rename hresult]
  cases crossArguments store direction 0 prototype.params <;> rfl

/-! ## Members -/

/-- A member that is treated alike whatever the numbers of the slots. -/
lemma setter_rename {property : Property} (h : Relocates σ store store' property.type.ids)
    (receiver : String) :
    setter store' receiver (property.rename σ) = setter store receiver property := by
  simp only [setter, Property.rename, NativeType.spelling_rename h, NativeType.toNative_rename h]

/-- The text of a method is the same, if its result is cast alike. -/
lemma methodText_rename {f : Routine} {crossing : Crossing}
    (h : ∀ goType type, crossing.result = .typed goType type →
      ∀ expression, (type.rename σ).toHost store' expression = type.toHost store expression)
    (receiver className : String) :
    methodText store' receiver className (f.rename σ) (crossing.rename σ) =
      methodText store receiver className f crossing := by
  obtain ⟨arguments, result⟩ := crossing
  cases result with
  | typed goType type =>
      simp only [methodText, Crossing.rename, Result.rename, methodLines, h goType type rfl]
      rfl
  | void | untyped _ | unspelled _ => rfl

/-- The type of a result that crosses is the declared one. -/
lemma result_of_cross {prototype : Prototype} {direction : Direction} {crossing : Crossing}
    {goType : String} {type : NativeType} (h : prototype.cross store direction = .ok crossing)
    (hresult : crossing.result = .typed goType type) : prototype.result = some type := by
  obtain ⟨arguments, _, rfl⟩ := map_eq_ok_iff.1 h
  cases hp : prototype.result with
  | none => simp [hp, crossResult] at hresult
  | some r =>
      simp only [hp, crossResult] at hresult
      split at hresult
      · split at hresult
        · cases hresult
          rfl
        · contradiction
      · contradiction

lemma method_rename {f : Routine} (h : RelocatesTypes σ store store' f.types)
    (receiver className : String) :
    method store' receiver className (f.rename σ) = method store receiver className f := by
  have hcross := cross_rename h .call
  rw [method, method, show (f.rename σ).prototype = f.prototype.rename σ from rfl, hcross]
  cases hcrossing : f.prototype.cross store .call with
  | error refusal => rfl
  | ok crossing =>
      have htext : methodText store' receiver className (f.rename σ) (crossing.rename σ) =
          methodText store receiver className f crossing := by
        refine methodText_rename (fun goType type hresult expression => ?_) receiver className
        refine NativeType.toHost_rename (h type ?_) expression
        simp [Routine.types, Prototype.types, result_of_cross hcrossing hresult]
      simp only [Except.map, htext]
      rw [show (crossing.rename σ).result = crossing.result.rename σ from rfl, verdict_rename]
      rfl

/-- A method that is taken, with every slot renumbered. -/
def Accepted.rename (σ : EntityId → EntityId) (a : Accepted) : Accepted :=
  ⟨a.method.rename σ, a.crossing.rename σ⟩

lemma accept_rename {f : Routine} (h : RelocatesTypes σ store store' f.types) :
    accept store' (f.rename σ) = (accept store f).map (·.rename σ) := by
  have hcross := cross_rename h .callback
  rw [accept, accept, show (f.rename σ).prototype = f.prototype.rename σ from rfl, hcross,
    show (f.rename σ).isStatic = f.isStatic from rfl]
  split
  · rfl
  · cases f.prototype.cross store .callback <;> rfl

lemma handle_rename {f : Routine} (h : RelocatesTypes σ store store' f.types) :
    handle store' (f.rename σ) = handle store f := by
  rw [handle, handle, accept_rename h]
  cases accept store f with
  | error refusal => rfl
  | ok a =>
      simp only [Except.map]
      rw [show (a.rename σ).crossing.result = a.crossing.result.rename σ from rfl, verdict_rename]
      rfl

/-- The same methods of a protocol are taken, in the same order. -/
lemma acceptedMethods_rename {methods : List Routine}
    (h : ∀ f ∈ methods, RelocatesTypes σ store store' f.types) :
    acceptedMethods store' (methods.map (·.rename σ)) =
      (acceptedMethods store methods).map (·.rename σ) := by
  rw [acceptedMethods, acceptedMethods, List.filterMap_map, List.map_filterMap]
  refine List.filterMap_congr fun f hf => ?_
  rw [Function.comp_apply, accept_rename (h f hf)]
  cases accept store f <;> rfl

/-- The method and the crossing of what is taken belong together. -/
lemma of_accept {f : Routine} {a : Accepted} (h : accept store f = .ok a) :
    f.isStatic = false ∧ a.method = f ∧ f.prototype.cross store .callback = .ok a.crossing := by
  unfold accept at h
  split at h
  · contradiction
  · rename_i hstatic
    obtain ⟨crossing, hcross, rfl⟩ := map_eq_ok_iff.1 h
    exact ⟨by simpa using hstatic, rfl, hcross⟩

lemma forwarder_rename {f : Routine} {a : Accepted} (hf : RelocatesTypes σ store store' f.types)
    (h : accept store f = .ok a) (name : String) :
    forwarder store' name (a.rename σ) = forwarder store name a := by
  obtain ⟨_, _, hcross⟩ := of_accept h
  obtain ⟨method, arguments, result⟩ := a
  cases result with
  | typed goType type =>
      have hnative : ∀ expression,
          (type.rename σ).toNative store' expression = type.toNative store expression :=
        NativeType.toNative_rename
          (hf type (by simp [Routine.types, Prototype.types, result_of_cross hcross rfl]))
      simp only [forwarder, Accepted.rename, Crossing.rename, Result.rename, hnative]
      rfl
  | void | untyped _ | unspelled _ => rfl

/-! ## Entities -/

lemma interfaceLines_rename (a : Accepted) : interfaceLines (a.rename σ) = interfaceLines a := by
  obtain ⟨method, arguments, result⟩ := a
  cases result <;> rfl

lemma interfaceText_rename (head : Declaration) (name : String) (accepted : List Accepted) :
    interfaceText head name (accepted.map (·.rename σ)) = interfaceText head name accepted := by
  simp only [interfaceText, List.isEmpty_map, List.flatMap_map, interfaceLines_rename]

lemma registrationText_rename (name : String) (accepted : List Accepted) :
    registrationText name (accepted.map (·.rename σ)) = registrationText name accepted := by
  simp only [registrationText, List.map_map]
  rfl

lemma wrap_rename {d : RecordDef}
    (h : RelocatesTypes σ store store' (Entity.record d).types) :
    emit store' ((Entity.record d).rename σ) = emit store (.record d) := by
  have hsetters : ∀ receiver,
      ((d.properties.map (·.rename σ)).filter (·.writable)).map (setter store' receiver) =
        (d.properties.filter (·.writable)).map (setter store receiver) := by
    intro receiver
    rw [List.filter_map, List.map_map]
    refine List.map_congr_left fun property hproperty => setter_rename ?_ receiver
    refine h property.type ?_
    have hmem := (List.mem_filter.1 hproperty).1
    simp only [Entity.types, Entity.properties?, Option.getD_some, List.mem_append, List.mem_map]
    exact .inl (.inr ⟨property, hmem, rfl⟩)
  have hmethods : ∀ receiver, (d.methods.map (·.rename σ)).map
      (method store' receiver d.head.name) = d.methods.map (method store receiver d.head.name) := by
    intro receiver
    rw [List.map_map]
    refine List.map_congr_left fun f hf => method_rename (fun t ht => h t ?_) receiver d.head.name
    simp only [Entity.types, Entity.methods?, Option.getD_some, List.mem_append, List.mem_flatMap]
    exact .inr ⟨f, hf, ht⟩
  simp only [Entity.rename, emit, wrap]
  cases d.head.hostName with
  | none => rfl
  | some name =>
      simp only [classMembers, hsetters, hmethods]
      rfl

lemma bind_rename {d : ProtocolDef}
    (h : RelocatesTypes σ store store' (Entity.protocol d).types) :
    emit store' ((Entity.protocol d).rename σ) = emit store (.protocol d) := by
  have hmethods : ∀ f ∈ d.methods, RelocatesTypes σ store store' f.types := by
    intro f hf t ht
    refine h t ?_
    simp only [Entity.types, Entity.methods?, Option.getD_some, List.mem_append, List.mem_flatMap]
    exact .inr ⟨f, hf, ht⟩
  have hforwarders : ∀ name, ((acceptedMethods store d.methods).map (·.rename σ)).map
      (forwarder store' name) = (acceptedMethods store d.methods).map (forwarder store name) := by
    intro name
    rw [List.map_map]
    refine List.map_congr_left fun a ha => ?_
    obtain ⟨f, hf, hok⟩ := List.mem_filterMap.1 ha
    cases haccept : accept store f with
    | error refusal => simp [haccept, Except.toOption] at hok
    | ok a' =>
        obtain rfl : a' = a := by simpa [haccept, Except.toOption] using hok
        exact forwarder_rename (hmethods f hf) haccept name
  have hhandled : (d.methods.map (·.rename σ)).map (handle store') =
      d.methods.map (handle store) := by
    rw [List.map_map]
    exact List.map_congr_left fun f hf => handle_rename (hmethods f hf)
  simp only [Entity.rename, emit, bind]
  cases d.head.hostName with
  | none => rfl
  | some name =>
      simp only [acceptedMethods_rename hmethods, interfaceText_rename, hforwarders,
        registrationText_rename, hhandled]
      rfl

/-- **The output for an entity does not depend on the numbers of the slots.** -/
theorem emit_rename {entity : Entity} (h : RelocatesTypes σ store store' entity.types) :
    emit store' (entity.rename σ) = emit store entity := by
  cases entity with
  | record d => exact wrap_rename h
  | protocol d => exact bind_rename h
  | union d => rfl

/-! ## Free functions -/

lemma stub_rename {f : Routine} (h : RelocatesTypes σ store store' f.types)
    (taken : List String) : stub store' taken (f.rename σ) = stub store taken f := by
  simp only [stub, show (f.rename σ).prototype = f.prototype.rename σ from rfl,
    Prototype.spelling_rename h]
  rfl

lemma stubsFrom_rename {functions : List Routine}
    (h : ∀ f ∈ functions, RelocatesTypes σ store store' f.types) (taken : List String) :
    stubsFrom store' taken (functions.map (·.rename σ)) = stubsFrom store taken functions := by
  induction functions generalizing taken with
  | nil => rfl
  | cons f functions ih =>
      rw [List.map_cons, stubsFrom, stubsFrom, stub_rename (h f (by simp)),
        ih fun g hg => h g (by simp [hg])]
      rfl

end Output

end FrameworkBindings
