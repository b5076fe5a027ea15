import FrameworkBindings.Files.Basic
import FrameworkBindings.Loading.Receiver
import FrameworkBindings.Loading.Resolve
import FrameworkBindings.Loading.Stats

/-!
# Loading documentation

Entries of the documentation become entities, free functions and files of a store.  A method whose
definition names another receiver than the entity it is listed under waits until all entries are
loaded (`finish`).

## Groups

* `Loader` — a session with the waiting methods and the counters.
* Members: `loadAttribute`, `loadProperty`, `loadFunction`.  They never fail: a signature that does
  not parse becomes an unknown type (`recover`).
* Entries: `loadSections` stops at the first section the entity cannot hold; `loadEntry` may also
  fail because the entity or file is already there (`LoadError`).
* `finish` — gives the waiting methods to their receivers.

**Before the definition.**  The members of an entity are loaded into a value of their own, and the
slot is filled when they all are.  If a section cannot be held, the slot is left as it was; but what
the members before it have done to the rest, slots that were mentioned, methods that wait, counters,
stays done.

**Counting.**  Each operation counts what it does at the place where it does it.  The counters are
therefore changes and not levels, and what they add up to is a fact about whole loads.
-/

namespace FrameworkBindings

open Document Loading

/-- Why an entry, or an index, cannot be loaded: what was loaded before it stays in any case. -/
inductive LoadError where
  | unsupportedSection (entity : String) (kind : EntityKind) (capability : Capability)
    (tag : String)
  | store (error : StoreError)
  | unknownCompound (refid : String)
  | unreadable (path : String) (error : FileError)
  | undecodable (path : String)
deriving DecidableEq

/-- The reason in words, as it is told to whoever asked for the load. -/
def LoadError.message : LoadError → String
  | unsupportedSection entity kind capability tag =>
    kind.word ++ " " ++ Text.quoted entity ++ " cannot host " ++ capability.word
      ++ " (section " ++ Text.quoted tag ++ ")"
  | store error => error.message
  | unknownCompound refid => "Unknown compound: " ++ refid
  | unreadable path error => "Cannot open documentation index " ++ path ++ ": " ++ error.message
  | undecodable path => "Cannot decode " ++ path

/-- A session of loading, with what it has to come back to and what it has counted. -/
structure Loader extends Session where
  /-- Methods that wait for their receiver. -/
  pending : List Routine := []
  stats : LoadStats := {}

namespace Loader

/-- A loader for a store and a journal, with nothing counted. -/
def ofSession (session : Session) : Loader := { session with }

/-- Notes an event in the journal of the session. -/
def note (l : Loader) (level : Level) (message : String) : Loader :=
  { l with toSession := l.toSession.say level message }

/-- Applies a change to the counters.  Store, journal and waiting methods stay as they are, which is
what lets facts about them pass over any counting. -/
def count (l : Loader) (f : LoadStats → LoadStats) : Loader :=
  { l with stats := f l.stats }

/-- Applies a change to the store, which nothing else of the loader depends on. -/
def onStore (l : Loader) (f : Store → Store) : Loader :=
  { l with store := f l.store }

/-- Runs an operation of the session, which knows nothing of waiting methods and counters. -/
def run {α : Type} (l : Loader) (operation : Session → α × Session) : α × Loader :=
  let (result, session) := operation l.toSession
  (result, { l with toSession := session })

/-! ## Members -/

/-- A signature that does not parse becomes an unknown type, is noted with the member it was found
in, and counted. -/
def recover (l : Loader) (member : Member) (reading : Signature.Reading) :
    Option NativeType × Loader :=
  match reading with
  | .ok type => (type, l)
  | .error m =>
    (some (.unknown m.signature "malformed"),
      (l.note .warn
          ("malformed signature " ++ Text.quoted m.signature ++ " on " ++ Text.quoted member.name
            ++ ": " ++ m.fault.reason)).count
        fun s => { s with malformed := s.malformed + 1 })

/-- The type of a text in a member, none for `void`. -/
def typeOf? (l : Loader) (member : Member) (type : Option LinkedText) (suffix : String) :
    Option NativeType × Loader :=
  let (reading, l) := l.run (·.resolve type suffix)
  l.recover member reading

/-- The type of a text in a member, where `void` will not do. -/
def typeOf (l : Loader) (member : Member) (type : Option LinkedText) (suffix : String) :
    NativeType × Loader :=
  let (type, l) := l.typeOf? member type suffix
  (Signature.someType type, l)

/-- Adds a member of an attribute section to the entity.  A member of another kind is noted and
added all the same. -/
def loadAttribute (access : Access) (isStatic : Bool) :
    Loader × Entity → Member → Loader × Entity
  | (l, entity), member =>
    let l :=
      if member.kind = "variable" then l
      else
        l.note .warn
          ("unexpected attribute kind " ++ Text.quoted member.kind ++ " for "
            ++ Text.quoted member.name)
    let (type, l) := l.typeOf member member.type member.argsstring
    (l, entity.addAttribute
      { name := member.name, type, access, isStatic,
        location := locationOf member.placement, extent := extentOf member.placement })

/-- Adds a member of a property section to the entity.  A member of another kind is noted and added
all the same. -/
def loadProperty : Loader × Entity → Member → Loader × Entity
  | (l, entity), member =>
    let l :=
      if member.kind = "property" then l
      else
        l.note .warn
          ("unexpected property kind " ++ Text.quoted member.kind ++ " for "
            ++ Text.quoted member.name)
    let (type, l) := l.typeOf member member.type member.argsstring
    (l, entity.addProperty
      { name := member.name, type, readable := member.readable, writable := member.writable,
        location := locationOf member.placement, extent := extentOf member.placement })

/-- The result of a function without its mark of visibility, and whether it had one.  A mark on
`void` has to be undone: behind it there was a type where none was meant. -/
def splitExternal : Option NativeType → Option NativeType × Bool
  | some (.external (.unknown "void" "void")) => (none, true)
  | some (.external type) => (some type, true)
  | type => (type, false)

/-- The type of a parameter with its array suffix, which is taken for the size of one array. -/
def paramType (type : NativeType) (suffix : String) : NativeType :=
  if suffix = "" then type else .array type (arraySize suffix)

/-- The parameters of a function, in order; a type that is missing or does not parse is unknown. -/
def loadParams (l : Loader) (member : Member) :
    List Parameter → List (Param NativeType) × Loader
  | [] => ([], l)
  | p :: params =>
    let (type, l) := l.typeOf member p.type ""
    let (rest, l) := l.loadParams member params
    (⟨p.declname, paramType type p.array⟩ :: rest, l)

/-- The function that a member declares.  Whether it is free depends on its definition and not on
where it is listed. -/
def buildRoutine (l : Loader) (member : Member) (isStatic : Bool) : Routine × Loader :=
  let (type, l) := l.typeOf? member member.type ""
  let (params, l) := l.loadParams member member.params
  ({ head := {
        refid := member.id, name := member.name, access := member.access,
        location := locationOf member.placement, extent := extentOf member.placement }
     prototype := { result := (splitExternal type).1, params }
     receiver := receiverName member.definition
     isExternal := (splitExternal type).2
     isStatic }, l)

/-- Adds a free function to the store. -/
def addFree (l : Loader) (f : Routine) : Loader :=
  ((l.note .trace ("free function " ++ Text.quoted f.name)).onStore (·.addFunction f)).count
    fun s => { s with freeFunctions := s.freeFunctions + 1 }

/-- Lets a method wait for its receiver, behind those that wait already. -/
def defer (l : Loader) (f : Routine) : Loader :=
  let l := (l.note .trace ("deferring " ++ f.receiver ++ "::" ++ f.name)).count
    fun s => { s with deferred := s.deferred + 1 }
  { l with pending := l.pending ++ [f] }

/-- Gives a method to the entity that is being loaded, and counts what became of it. -/
def attachTo (l : Loader) (entity : Entity) (f : Routine) : Loader × Entity :=
  let (entity', outcome) := entity.attach f
  let l := { l with toSession := l.toSession.noteAttachment entity.name f.name outcome }
  let l := l.count fun s =>
    match outcome with
    | .added => { s with methods := s.methods + 1 }
    | .duplicate => { s with duplicateMethods := s.duplicateMethods + 1 }
    | .refused => s
  (l, entity')

/-- Loads a member of a function section, inside an entity or (without an owner) inside a file.  It
is free, belongs to the owner, or waits. -/
def loadFunction (isStatic : Bool) : Loader × Option Entity → Member → Loader × Option Entity
  | (l, owner), member =>
    if member.kind ≠ "function" then
      (l.note .warn
        ("skipping member " ++ Text.quoted member.name ++ " of kind " ++ Text.quoted member.kind
          ++ " in a function section"), owner)
    else
      let (f, l) := l.buildRoutine member (isStatic || member.isStatic)
      if f.isFree then (l.addFree f, owner)
      else
        match owner with
        | some entity =>
          if entity.name = f.receiver then
            let (l, entity) := l.attachTo entity f
            (l, some entity)
          else (l.defer f, some entity)
        | none => (l.defer f, none)

/-! ## Entries -/

/-- Loads a section that the entity can hold, member by member. -/
def loadSection (l : Loader) (entity : Entity) (s : Section) : Loader × Entity :=
  match s.sectionKind with
  | .attributes access isStatic => s.members.foldl (loadAttribute access isStatic) (l, entity)
  | .properties => s.members.foldl loadProperty (l, entity)
  | .functions isStatic =>
    let (l, owner) := s.members.foldl (loadFunction isStatic) (l, some entity)
    (l, owner.getD entity)
  | .other => (l.note .trace ("ignoring section " ++ Text.quoted s.kind), entity)

/-- Whether an entity can hold a section; if not, the error names both and the kind of members. -/
def canHold (entity : Entity) (s : Section) : Except LoadError Unit :=
  match s.sectionKind.capability? with
  | none => .ok ()
  | some capability =>
    if entity.kind.hosts capability then .ok ()
    else .error (.unsupportedSection entity.name entity.kind capability s.kind)

/-- Loads sections, up to the first that the entity cannot hold.  The loader is what it has become
by then. -/
def loadSections (l : Loader) (entity : Entity) :
    List Section → Except LoadError Entity × Loader
  | [] => (.ok entity, l)
  | s :: rest =>
    match canHold entity s with
    | .error e => (.error e, l)
    | .ok () =>
      let (l, entity) := l.loadSection entity s
      l.loadSections entity rest

/-- The head of the declaration of an entry. -/
def declarationOf (entry : IndexEntry) (compound : Compound) (name : String) : Declaration where
  refid := entry.refid
  name
  access := compound.access
  location := locationOf compound.placement
  extent := extentOf compound.placement

/-- Loads the members of an entity and defines it, if all sections can be held and the slot is
free. -/
def loadObject (l : Loader) (entity : Entity) (compound : Compound) :
    Except LoadError Unit × Loader :=
  let l := l.note .debug ("loading " ++ entity.kind.word ++ " " ++ Text.quoted entity.name)
  match l.loadSections entity compound.sections with
  | (.error e, l) => (.error e, l)
  | (.ok entity, l) =>
    let (result, l) := l.run (·.define entity)
    match result with
    | .ok _ => (.ok (), l)
    | .error e => (.error (.store e), l)

/-- Loads a section of a file, where only functions count. -/
def loadFileSection (l : Loader) (s : Section) : Loader :=
  match s.sectionKind with
  | .functions isStatic => (s.members.foldl (loadFunction isStatic) (l, none)).1
  | _ => l.note .trace ("ignoring file section " ++ Text.quoted s.kind)

/-- Loads a file with the functions declared in it.  The file itself goes first, so a second file of
the same reference id is refused before anything in it is read. -/
def loadFile (l : Loader) (entry : IndexEntry) (compound : Compound) :
    Except LoadError Unit × Loader :=
  let l := l.note .debug ("loading file " ++ Text.quoted entry.name)
  match l.store.addFile (declarationOf entry compound entry.name) with
  | .error e => (.error (.store e), l)
  | .ok store =>
    let l := (l.onStore fun _ => store).count fun s => { s with files := s.files + 1 }
    (.ok (), compound.sections.foldl loadFileSection l)

/-- Loads an entry of the documentation, by its kind; other kinds are counted and ignored. -/
def loadEntry (l : Loader) (entry : IndexEntry) (compound : Compound) :
    Except LoadError Unit × Loader :=
  let l := l.count fun s => { s with entries := s.entries + 1 }
  match entry.compoundKind with
  | .struct | .interface =>
    (l.count fun s => { s with structs := s.structs + 1 }).loadObject
      (.record { head := declarationOf entry compound entry.name, isClass := false }) compound
  | .objectClass =>
    (l.count fun s => { s with structs := s.structs + 1 }).loadObject
      (.record { head := declarationOf entry compound entry.name, isClass := true }) compound
  | .protocol =>
    (l.count fun s => { s with protocols := s.protocols + 1 }).loadObject
      (.protocol { head := declarationOf entry compound (protocolName entry.name) }) compound
  | .union =>
    (l.count fun s => { s with unions := s.unions + 1 }).loadObject
      (.union { head := declarationOf entry compound entry.name }) compound
  | .file => l.loadFile entry compound
  | .other =>
    (.ok (),
      (l.note .trace ("ignoring " ++ entry.kind ++ " entry " ++ Text.quoted entry.name)).count
        fun s => { s with ignored := s.ignored + 1 })

/-! ## The second pass -/

/-- Gives a waiting method to its receiver, if that has been defined and holds methods.  Receivers
are found by name, and the first definition of a name counts. -/
def settle (l : Loader) (f : Routine) : Loader :=
  match l.store.findByName f.receiver with
  | none =>
    (l.note .warn
        ("receiver " ++ Text.quoted f.receiver ++ " of method " ++ Text.quoted f.name
          ++ " was never defined")).count
      fun s => { s with unattached := s.unattached + 1 }
  | some id =>
    let (outcome, l) := l.run (·.attach id f)
    match outcome with
    | .added => l.count fun s => { s with attached := s.attached + 1 }
    | .duplicate => l.count fun s => { s with duplicateMethods := s.duplicateMethods + 1 }
    | .refused =>
      (l.note .warn (Text.quoted f.receiver ++ " cannot host method " ++ Text.quoted f.name)).count
        fun s => { s with unattached := s.unattached + 1 }

/-- The totals of a load in words, for the journal. -/
def totals (l : Loader) : String :=
  let s := l.stats
  "loaded " ++ toString s.entries ++ " entries: " ++ toString s.structs ++ " structs, "
    ++ toString s.protocols ++ " protocols, " ++ toString s.unions ++ " unions, "
    ++ toString s.freeFunctions ++ " free functions, " ++ toString l.store.unresolved.length
    ++ " unresolved references"

/-- Gives all waiting methods to their receivers, in order, and empties the queue. -/
def finish (l : Loader) : Loader :=
  let l := l.pending.foldl settle { l with pending := [] }
  let l := l.note .info l.totals
  if l.stats.unattached > 0 then
    l.note .warn (toString l.stats.unattached ++ " methods left without a receiver")
  else l

/-! ## Indexes -/

/-- Loads entries in order, up to the first that fails; `decode` finds what an entry stands for. -/
def loadIndex {m : Type → Type} [Monad m] (decode : IndexEntry → m (Except LoadError Compound))
    (l : Loader) : List IndexEntry → m (Except LoadError Unit × Loader)
  | [] => return (.ok (), l)
  | entry :: rest => do
    match ← decode entry with
    | .error e => return (.error e, l)
    | .ok compound =>
      match l.loadEntry entry compound with
      | (.error e, l) => return (.error e, l)
      | (.ok (), l) => l.loadIndex decode rest

end Loader

end FrameworkBindings
