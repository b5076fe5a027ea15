import FrameworkBindings.Declaration
import FrameworkBindings.NativeType

/-!
# Entities

The things a framework declares: classes and C structs, protocols and unions, with their members,
and functions, free or bound to a receiver.

## Groups

* Members: `Attribute`, `Property`, `Routine`.
* Entities: `RecordDef`, `ProtocolDef`, `UnionDef`, joined in `Entity`.
* Capabilities: `EntityKind.hosts` says which members a kind of entity can hold, and
  `attributes?`, `properties?`, `methods?` are the members where it can.
* Growing: `addAttribute`, `addProperty` and `attach` put members at the end.  Of two methods with
  one name the first stays.

**What a kind cannot hold.**  A protocol has no fields and a union nothing but fields.  The types
say so: there is no place for such a member, and what is offered is dropped or refused.  Fields and
properties come with the definition of their entity, so dropping them says nothing to anyone; a
method may come long afterwards, and `attach` tells what became of it (`Attachment`).

**Placeholders.**  Before its definition an entity is known as a record without a name.  It takes
any method, until the definition takes its place.
-/

namespace FrameworkBindings

/-! ## Members -/

/-- A field of a struct, a union or a class. -/
structure Attribute where
  name : String
  type : NativeType
  access : Access := .everyone
  isStatic : Bool := false
  location : Option Location := none
  extent : Option Extent := none

/-- A property, which may have a getter and a setter.  On the Go side each of them is a method. -/
structure Property where
  name : String
  type : NativeType
  readable : Bool
  writable : Bool
  location : Option Location := none
  extent : Option Extent := none

/-- A function.  `receiver` is the name of the entity it belongs to, empty for a free function. -/
structure Routine where
  head : Declaration
  prototype : Prototype
  receiver : String := ""
  isExternal : Bool := false
  isStatic : Bool := false

namespace Routine

/-- The name of the function, a selector if it is a method. -/
def name (f : Routine) : String := f.head.name

/-- Whether the function belongs to no entity.  What is free is written as a stub and not as a
method. -/
def isFree (f : Routine) : Bool := f.receiver == ""

end Routine

/-! ## Entities -/

/-- A class, an interface or a C struct, which hold the same kinds of members. -/
structure RecordDef where
  head : Declaration
  isClass : Bool
  attributes : List Attribute := []
  properties : List Property := []
  methods : List Routine := []

/-- A protocol: methods that a Go value can implement, and properties. -/
structure ProtocolDef where
  head : Declaration
  properties : List Property := []
  methods : List Routine := []

/-- A C union.  Its fields share one place in memory, which Go has no means to say. -/
structure UnionDef where
  head : Declaration
  attributes : List Attribute := []

/-- A type that a framework declares. -/
inductive Entity where
  | record (definition : RecordDef)
  | protocol (definition : ProtocolDef)
  | union (definition : UnionDef)

/-- The kinds of entities that reports tell apart. -/
inductive EntityKind where
  | struct
  | objectClass
  | protocol
  | union
deriving DecidableEq

/-- The word for a kind, as it stands in tables. -/
def EntityKind.word : EntityKind → String
  | struct => "struct"
  | objectClass => "class"
  | protocol => "protocol"
  | union => "union"

/-- The groups of members an entity may hold.  Each can be refused by a kind as a whole. -/
inductive Capability where
  | attributes
  | properties
  | methods
deriving DecidableEq

/-- The word for a group of members. -/
def Capability.word : Capability → String
  | attributes => "attributes"
  | properties => "properties"
  | methods => "methods"

/-- Which members a kind of entity can hold: protocols have no fields and unions only fields. -/
def EntityKind.hosts : EntityKind → Capability → Bool
  | protocol, .attributes => false
  | union, .properties => false
  | union, .methods => false
  | _, _ => true

/-- What became of a method offered to an entity.  The loader counts each of the cases. -/
inductive Attachment where
  | added
  /-- A method of that name was there already. -/
  | duplicate
  /-- The entity holds no methods. -/
  | refused
deriving DecidableEq

namespace Entity

/-- What is known of an entity that has only been referred to: its reference id.  It is taken for a
record until the definition tells. -/
def placeholder (refid : String) : Entity :=
  .record { head := { refid, name := "" }, isClass := false }

/-- The head of the entity's declaration. -/
def head : Entity → Declaration
  | .record d => d.head
  | .protocol d => d.head
  | .union d => d.head

/-- The name in the documentation, which need not be unique. -/
def name (entity : Entity) : String := entity.head.name

/-- The reference id, which is unique. -/
def refid (entity : Entity) : String := entity.head.refid

/-- The kind of the entity; a record is a class or a struct. -/
def kind : Entity → EntityKind
  | .record d => if d.isClass then .objectClass else .struct
  | .protocol _ => .protocol
  | .union _ => .union

/-- The fields, where the kind has any.  Having none is not the same as a list without entries: see
`EntityKind.hosts`. -/
def attributes? : Entity → Option (List Attribute)
  | .record d => some d.attributes
  | .protocol _ => none
  | .union d => some d.attributes

/-- The properties, where the kind has any. -/
def properties? : Entity → Option (List Property)
  | .record d => some d.properties
  | .protocol d => some d.properties
  | .union _ => none

/-- The methods, where the kind has any. -/
def methods? : Entity → Option (List Routine)
  | .record d => some d.methods
  | .protocol d => some d.methods
  | .union _ => none

/-- The entity with one more field at the end, if it has fields. -/
def addAttribute (field : Attribute) : Entity → Entity
  | .record d => .record { d with attributes := d.attributes ++ [field] }
  | .protocol d => .protocol d
  | .union d => .union { d with attributes := d.attributes ++ [field] }

/-- The entity with one more property at the end, if it has properties. -/
def addProperty (property : Property) : Entity → Entity
  | .record d => .record { d with properties := d.properties ++ [property] }
  | .protocol d => .protocol { d with properties := d.properties ++ [property] }
  | .union d => .union d

/-- The entity with other methods, if it has methods, and otherwise as it is. -/
def withMethods (methods : List Routine) : Entity → Entity
  | .record d => .record { d with methods }
  | .protocol d => .protocol { d with methods }
  | .union d => .union d

/-- Offers a method to the entity: it is added at the end unless one of its name is there, which
stays.  Arguments do not count, as the native side does not overload. -/
def attach (entity : Entity) (method : Routine) : Entity × Attachment :=
  match entity.methods? with
  | none => (entity, .refused)
  | some methods =>
    if methods.any (·.name == method.name) then (entity, .duplicate)
    else (entity.withMethods (methods ++ [method]), .added)

/-! ## How the members follow -/

/-- The members are there just where the table of capabilities says so; this and the next two lemmas
keep the table and the types in step. -/
theorem isSome_attributes? (entity : Entity) :
    entity.attributes?.isSome = entity.kind.hosts .attributes := by
  cases entity with
  | record d => cases h : d.isClass <;> simp [attributes?, kind, EntityKind.hosts, h]
  | protocol d => rfl
  | union d => rfl

theorem isSome_properties? (entity : Entity) :
    entity.properties?.isSome = entity.kind.hosts .properties := by
  cases entity with
  | record d => cases h : d.isClass <;> simp [properties?, kind, EntityKind.hosts, h]
  | protocol d => rfl
  | union d => rfl

theorem isSome_methods? (entity : Entity) :
    entity.methods?.isSome = entity.kind.hosts .methods := by
  cases entity with
  | record d => cases h : d.isClass <;> simp [methods?, kind, EntityKind.hosts, h]
  | protocol d => rfl
  | union d => rfl

@[simp]
theorem head_withMethods (entity : Entity) (methods : List Routine) :
    (entity.withMethods methods).head = entity.head := by
  cases entity <;> rfl

theorem methods?_withMethods (entity : Entity) (methods : List Routine) :
    (entity.withMethods methods).methods? = entity.methods?.map fun _ => methods := by
  cases entity <;> rfl

/-- Attaching a method changes nothing in the head of the declaration, so names and reference ids
survive it. -/
theorem head_attach (entity : Entity) (method : Routine) :
    (entity.attach method).1.head = entity.head := by
  unfold attach
  split
  · rfl
  · split <;> simp

end Entity

end FrameworkBindings
