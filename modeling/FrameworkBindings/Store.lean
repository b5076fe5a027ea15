import FrameworkBindings.Entity

/-!
# The store

Everything a run has gathered: one slot for each reference id that was mentioned, the free functions
and the files.  A slot is awaited until the entity it stands for is defined; types refer to slots,
so that a definition reaches every type that mentioned it before.

**Slots.**  `Store.intern` gives the slot of a reference id and makes one at the first mention, so
that forward references need no second reading of the documentation.  `Store.install` and
`Store.define` fill a slot, which can be done once; what is refused leaves the store usable.
`Store.attach` offers a method to what is in a slot, defined or not; a definition takes the place of
all that was in the slot before, methods included.

**Views.**  `lookup` finds a slot by reference id, `findByName` by the name in the documentation.
Names are not unique there, so the first definition of a name counts and an empty name finds
nothing.  `unresolved` lists what is still awaited and `sorted` the defined entities; both are
sorted, so that what is written does not depend on the order in which entries were read.

**The rest.**  Free functions (`addFunction`) and files (`addFile`) belong to no slot.  A file has a
reference id of its own, which must be new.

There is one array of slots and everything is found by looking through it.  `Tables` is the same
store with a table for each kind of question, and is shown to answer alike.
-/

namespace FrameworkBindings

/-- A place for an entity.  It belongs to one reference id from the start, and only what is known of
the entity changes. -/
inductive Slot where
  /-- The entity has been referred to but not defined.  Methods may have been given to it before. -/
  | undefined (refid : String) (methods : List Routine)
  /-- The entity that was defined for a reference id, as a rule for its own. -/
  | defined (entity : Entity) (refid : String := entity.refid)

namespace Slot

/-- The slot of an entity that has been referred to and no more, as it is made at the first
mention. -/
def awaited (refid : String) : Slot := undefined refid []

/-- What is known of the entity: for one that was not defined a placeholder with the reference id
and no name, which holds the methods that were given to it. -/
def entity : Slot → Entity
  | undefined refid methods => (Entity.placeholder refid).withMethods methods
  | defined entity _ => entity

/-- The reference id the slot belongs to.  A definition under another one is filed where it was
asked for, so this need not be the reference id of the entity. -/
def refid : Slot → String
  | undefined refid _ => refid
  | defined _ refid => refid

/-- Whether the entity has been defined, that is, whether the slot can no longer be filled. -/
def isDefined : Slot → Bool
  | undefined _ _ => false
  | defined _ _ => true

/-- Offers a method to what is known of the entity.  A placeholder takes any method with a new name,
as its kind is not known yet; a defined entity decides for itself. -/
def attach (method : Routine) : Slot → Slot
  | undefined refid methods =>
    undefined refid
      (if methods.any (·.name == method.name) then methods else methods ++ [method])
  | defined entity refid => defined (entity.attach method).1 refid

end Slot

/-- Why the store refuses something: each reference id is defined once, and so is each file. -/
inductive StoreError where
  | duplicateDefinition (refid : String)
  | duplicateFile (refid : String)
deriving DecidableEq

/-- The refusal in words, with the reference id in question. -/
def StoreError.message : StoreError → String
  | duplicateDefinition refid => "Duplicate definition for reference id '" ++ refid ++ "'"
  | duplicateFile refid => "Duplicate file definition for reference id '" ++ refid ++ "'"

/-- What a run has gathered.  `order` lists the defined slots in the order of their definitions. -/
structure Store where
  slots : Array Slot := #[]
  order : List EntityId := []
  functions : List Routine := []
  files : List Declaration := []

namespace Store

/-- The store that holds nothing, with which each session begins. -/
def empty : Store := {}

/-- The number of slots, which is also the slot that the next new reference id will get. -/
def size (store : Store) : Nat := store.slots.size

/-- The slot of a reference id that has been mentioned, whether or not it was defined. -/
def lookup (store : Store) (refid : String) : Option EntityId :=
  (store.slots.findIdx? (·.refid == refid)).map EntityId.mk

/-- What is known of the entity in a slot; nothing only for a slot that there is not. -/
def entity? (store : Store) (id : EntityId) : Option Entity :=
  store.slots[id.slot]?.map Slot.entity

/-- Whether a slot has been defined.  A slot that there is not counts as not defined. -/
def isDefined (store : Store) (id : EntityId) : Bool :=
  (store.slots[id.slot]?.map Slot.isDefined).getD false

/-- The slot of a reference id; a new one at the end, if it is mentioned for the first time. -/
def intern (store : Store) (refid : String) : EntityId × Store :=
  match store.lookup refid with
  | some id => (id, store)
  | none => (⟨store.size⟩, { store with slots := store.slots.push (.awaited refid) })

/-- Fills the slot of a reference id, unless that has been done.  The store is what there is
afterwards in either case; a refusal leaves it as it was, since only a known reference id can be
refused. -/
def install (store : Store) (refid : String) (entity : Entity) :
    Except StoreError EntityId × Store :=
  let (id, store) := store.intern refid
  if store.isDefined id then (.error (.duplicateDefinition refid), store)
  else (.ok id,
    { store with
      slots := store.slots.setIfInBounds id.slot (.defined entity refid)
      order := store.order ++ [id] })

/-- Fills the slot of an entity, which must not have been defined before.  A refusal gives no store
back, as nothing has changed then. -/
def define (store : Store) (entity : Entity) : Except StoreError (EntityId × Store) :=
  match store.install entity.refid entity with
  | (.ok id, store) => .ok (id, store)
  | (.error e, _) => .error e

/-- Offers a method to the entity in a slot. -/
def attach (store : Store) (id : EntityId) (method : Routine) : Store :=
  { store with slots := store.slots.modify id.slot (Slot.attach method) }

/-- The name of the entity in a slot, as it stands in the documentation. -/
def nameOf (store : Store) (id : EntityId) : Option String :=
  (store.entity? id).map Entity.name

/-- The first entity that was defined under a name.  Later ones of the same name are found by their
reference ids only. -/
def findByName (store : Store) (name : String) : Option EntityId :=
  if name = "" then none else store.order.find? fun id => store.nameOf id == some name

/-- Whether a text comes no later than another in the order of code points, by which all listings
go. -/
def textLe (a b : String) : Bool := decide (a ≤ b)

/-- The reference ids that were mentioned and not defined, in order: what the documentation refers
to but does not hold. -/
def unresolved (store : Store) : List String :=
  ((store.slots.toList.filter (! ·.isDefined)).map Slot.refid).mergeSort textLe

/-- The key of the order of entities: Go name, then reference id, which tells namesakes apart. -/
def sortKey (entity : Entity) : String × String :=
  (entity.head.hostName.getD "", entity.refid)

/-- Whether an entity comes no later than another, by their keys. -/
def entityLe (a b : EntityId × Entity) : Bool :=
  let (nameA, refidA) := sortKey a.2
  let (nameB, refidB) := sortKey b.2
  nameA < nameB || (nameA == nameB && textLe refidA refidB)

/-- The defined slots with their entities, in order of slots. -/
def definitions (store : Store) : List (EntityId × Entity) :=
  store.slots.toList.zipIdx.filterMap fun
    | (.undefined _ _, _) => none
    | (.defined entity _, slot) => some (⟨slot⟩, entity)

/-- The defined entities in order of Go names, which is the order in which they are written. -/
def sorted (store : Store) : List (EntityId × Entity) :=
  store.definitions.mergeSort entityLe

/-- Adds a free function at the end. -/
def addFunction (store : Store) (function : Routine) : Store :=
  { store with functions := store.functions ++ [function] }

/-- Adds a file, whose reference id must be new; otherwise it is refused and the store stays as it
is. -/
def addFile (store : Store) (file : Declaration) : Except StoreError Store :=
  if store.files.any (·.refid == file.refid) then .error (.duplicateFile file.refid)
  else .ok { store with files := store.files ++ [file] }

/-- The files in order of reference ids. -/
def sortedFiles (store : Store) : List Declaration :=
  store.files.mergeSort fun a b => textLe a.refid b.refid

end Store

end FrameworkBindings
