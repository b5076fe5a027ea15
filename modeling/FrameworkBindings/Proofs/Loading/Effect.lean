import Mathlib.Algebra.BigOperators.Group.List.Basic
import FrameworkBindings.Proofs.Loading.Contribution
import FrameworkBindings.Proofs.Store.Definitions

/-!
# The effect of loading

Whatever a loader reads, it does four things to its state besides writing its journal: it gives
slots to reference ids, it adds free functions, it lets methods wait, and it counts.  An `Effect`
says what of each, and `Effect.Takes` that one loader is another one after an effect.

**Counters.**  `LoadStats` are added place by place, a commutative monoid.

**One member.**  `typeOf?_gives` and `buildRoutine_gives` describe what is read from a member, each
by what the document stands for (`linkedType?`, `routineOf`) and by its effect.

**Lists of members.**  Effects are appended (`Effect.Takes.trans`), so going through a list has the
effect of the list: `loadAttributes_gives`, `loadProperties_gives`, and for functions
`loadFunctions_owned` where an entity takes them and `loadFunctions_filed` where none does.

All results are stated for a numbering of the *last* store, since slots are never renumbered.

**Why effects.**  The loader mixes its four concerns in every function, and each of the theorems on
loads is about one or two of them.  An effect is a value, so a theorem looks at the part it needs
(`Takes.refids_eq`, `Takes.functions`, and so on) and is proved without the code of the loader.

**The journal is left out.**  What a loader tells on its way has no effect on what it loads, and a
loader that differs in its journal only takes the same effect (`Takes.of_eq`).
-/

namespace FrameworkBindings

open Document Loading

/-! ## Counters -/

attribute [ext] LoadStats

/-- Counters are added place by place. -/
def LoadStats.plus (s t : LoadStats) : LoadStats where
  entries := s.entries + t.entries
  structs := s.structs + t.structs
  protocols := s.protocols + t.protocols
  unions := s.unions + t.unions
  files := s.files + t.files
  ignored := s.ignored + t.ignored
  methods := s.methods + t.methods
  deferred := s.deferred + t.deferred
  attached := s.attached + t.attached
  unattached := s.unattached + t.unattached
  freeFunctions := s.freeFunctions + t.freeFunctions
  duplicateMethods := s.duplicateMethods + t.duplicateMethods
  malformed := s.malformed + t.malformed

instance : Add LoadStats := ⟨LoadStats.plus⟩

instance : Zero LoadStats := ⟨{}⟩

instance : AddCommMonoid LoadStats where
  add_assoc s t u := by
    ext <;> exact Nat.add_assoc ..
  zero_add s := by
    ext <;> exact Nat.zero_add _
  add_zero s := rfl
  add_comm s t := by
    ext <;> exact Nat.add_comm ..
  nsmul := nsmulRec

/-- Each counter of a sum is a sum.  All thirteen are in one statement, which rewriting takes apart
by itself; sums of several counters are opened first. -/
lemma LoadStats.counters_add (s t : LoadStats) :
    (s + t).entries = s.entries + t.entries ∧
      (s + t).structs = s.structs + t.structs ∧
      (s + t).protocols = s.protocols + t.protocols ∧
      (s + t).unions = s.unions + t.unions ∧
      (s + t).files = s.files + t.files ∧
      (s + t).ignored = s.ignored + t.ignored ∧
      (s + t).methods = s.methods + t.methods ∧
      (s + t).deferred = s.deferred + t.deferred ∧
      (s + t).attached = s.attached + t.attached ∧
      (s + t).unattached = s.unattached + t.unattached ∧
      (s + t).freeFunctions = s.freeFunctions + t.freeFunctions ∧
      (s + t).duplicateMethods = s.duplicateMethods + t.duplicateMethods ∧
      (s + t).malformed = s.malformed + t.malformed :=
  ⟨rfl, rfl, rfl, rfl, rfl, rfl, rfl, rfl, rfl, rfl, rfl, rfl, rfl⟩

/-! ## Effects -/

/-- What loading does to a loader, its journal and its definitions apart.  It is a value that
follows from the document and a numbering. -/
structure Effect where
  /-- The reference ids that get slots. -/
  refids : List String := []
  /-- The functions that belong to no entity. -/
  free : List Routine := []
  /-- The methods that wait. -/
  waiting : List Routine := []
  counts : LoadStats := 0

instance : Append Effect where
  append e e' := ⟨e.refids ++ e'.refids, e.free ++ e'.free, e.waiting ++ e'.waiting,
    e.counts + e'.counts⟩

namespace Effect

/-- One effect after the other: lists are appended and counters added. -/
lemma append_def (e e' : Effect) : e ++ e' = ⟨e.refids ++ e'.refids, e.free ++ e'.free,
    e.waiting ++ e'.waiting, e.counts + e'.counts⟩ := rfl

/-- The second loader is the first one after the effect.  The store is given as a whole, so that
nothing else has changed in it. -/
structure Takes (e : Effect) (l l' : Loader) : Prop where
  store : l'.store =
    { l.store.mention e.refids with functions := l.store.functions ++ e.free }
  pending : l'.pending = l.pending ++ e.waiting
  stats : l'.stats = l.stats + e.counts

end Effect

/-- Free functions and slots do not get into each other's way. -/
lemma Store.mention_withFunctions (store : Store) (functions : List Routine)
    (refids : List String) :
    Store.mention { store with functions } refids =
      { store.mention refids with functions } := by
  have hintern : ∀ (s : Store) (r : String),
      (Store.intern { s with functions } r).2 = { (s.intern r).2 with functions } := by
    intro s r
    rw [Store.intern_eq, Store.intern_eq]
    have hrefids : Store.refids { s with functions } = s.refids := rfl
    rw [hrefids]
    split <;> rfl
  induction refids generalizing store with
  | nil => rfl
  | cons refid refids ih => rw [Store.mention_cons, hintern, ih, Store.mention_cons]

namespace Effect.Takes

variable {e e' : Effect} {l l' l'' : Loader}

/-- Only the store, the waiting methods and the counters matter. -/
lemma of_eq (h : e.Takes l l') (hstore : l''.store = l'.store) (hpending : l''.pending = l'.pending)
    (hstats : l''.stats = l'.stats) : e.Takes l l'' :=
  ⟨hstore.trans h.store, hpending.trans h.pending, hstats.trans h.stats⟩

/-- Doing nothing is an effect, the one with nothing in it. -/
lemma refl (l : Loader) : ({} : Effect).Takes l l :=
  ⟨by simp, by simp, (add_zero l.stats).symm⟩

/-- Effects are appended: one after the other is the effect with the lists of both, in order. -/
lemma trans (h : e.Takes l l') (h' : e'.Takes l' l'') : (e ++ e').Takes l l'' where
  store := by
    rw [h'.store, h.store, Store.mention_withFunctions]
    simp [append_def, Store.mention_append]
  pending := by simp [append_def, h'.pending, h.pending]
  stats := by simp [append_def, h'.stats, h.stats, add_assoc]

lemma refids_eq (h : e.Takes l l') : l'.store.refids = (l.store.mention e.refids).refids := by
  rw [h.store]
  rfl

lemma consistent (h : e.Takes l l') (hl : l.store.Consistent) : l'.store.Consistent := by
  rw [h.store]
  exact (hl.mention e.refids).of_slots rfl rfl

lemma ordered (h : e.Takes l l') : l'.store.ordered = l.store.ordered := by
  rw [h.store]
  exact l.store.ordered_mention e.refids

lemma functions (h : e.Takes l l') : l'.store.functions = l.store.functions ++ e.free := by
  rw [h.store]

lemma files (h : e.Takes l l') : l'.store.files = l.store.files := by
  rw [h.store]
  rw [Store.mention_frame]

/-- Slots are there for what had one and for what is mentioned. -/
lemma mem_refids (h : e.Takes l l') (refid : String) :
    refid ∈ l'.store.refids ↔ refid ∈ l.store.refids ∨ refid ∈ e.refids := by
  rw [h.refids_eq, Store.mem_refids_mention]

/-- Slots are only added, so those that were there keep their places. -/
lemma refids_grown (h : e.Takes l l') : l.store.refids <+: l'.store.refids := by
  rw [h.refids_eq]
  exact l.store.prefix_mention e.refids

/-- A numbering of the later store is one of the earlier store, as slots are only added. -/
lemma numberedBy (h : e.Takes l l') {ν : String → EntityId} (hν : l'.store.NumberedBy ν) :
    l.store.NumberedBy ν :=
  hν.of_grown h.refids_grown

/-- Counting is an effect, on the counters alone. -/
lemma of_count (l : Loader) {f : LoadStats → LoadStats} {c : LoadStats}
    (hf : f l.stats = l.stats + c) : ({ counts := c } : Effect).Takes l (l.count f) where
  store := by simp [Loader.count]
  pending := by simp [Loader.count]
  stats := hf

end Effect.Takes

/-! ## Members -/

namespace Loader

variable {ν : String → EntityId}

/-- An operation gives a result and takes an effect, if slots have the numbers they have at its end.
The numbering of a later store will do, as it agrees with that of this one. -/
def Gives {α : Type} (ν : String → EntityId) (result : α) (e : Effect) (l : Loader)
    (out : α × Loader) : Prop :=
  out.2.store.NumberedBy ν → out.1 = result ∧ e.Takes l out.2

/-- One operation after the other gives both results, under the numbering of the last store. -/
lemma Gives.trans {α β : Type} {a : α} {b : β} {e e' : Effect} {l : Loader} {first : α × Loader}
    {second : β × Loader} (h : Gives ν a e l first) (h' : Gives ν b e' first.2 second)
    (hν : second.2.store.NumberedBy ν) :
    first.1 = a ∧ second.1 = b ∧ (e ++ e').Takes l second.2 := by
  obtain ⟨hsecond, htakes'⟩ := h' hν
  obtain ⟨hfirst, htakes⟩ := h (htakes'.numberedBy hν)
  exact ⟨hfirst, hsecond, htakes.trans htakes'⟩

/-- Working on the session gives slots at most, as its journal is not looked at. -/
lemma takes_session (l : Loader) {session : Session} {refids : List String}
    (hstore : session.store = l.store.mention refids) :
    ({ refids } : Effect).Takes l { l with toSession := session } where
  store := by
    rw [hstore, List.append_nil, l.store.mention_frame refids]
  pending := (List.append_nil l.pending).symm
  stats := (add_zero l.stats).symm

/-- A text is read as what it stands for, and gives slots to what it mentions. -/
lemma resolve_gives (l : Loader) (type : Option LinkedText) (suffix : String) :
    Gives ν (readLinked ν type suffix) { refids := linkedRefids type } l
      (l.run (·.resolve type suffix)) := by
  intro hν
  rcases type with _ | ⟨text, _ | ⟨reference, _ | ⟨other, references⟩⟩⟩
  · exact ⟨rfl, l.takes_session rfl⟩
  · exact ⟨rfl, l.takes_session (Session.store_sayAll ..)⟩
  · have hnumber : ν reference.refid = (l.store.intern reference.refid).1 :=
      hν _ _ (l.store.lookup_intern reference.refid)
    refine ⟨?_, l.takes_session (Session.store_intern ..)⟩
    rw [readLinked, hnumber]
    rfl
  · exact ⟨rfl, l.takes_session (Session.store_say ..)⟩

/-- How often a reading is malformed: once or not at all. -/
def faults : Signature.Reading → Nat
  | .ok _ => 0
  | .error _ => 1

/-- Where a reading failed, the failure is counted and a type is put in its place. -/
lemma recover_gives (l : Loader) (m : Member) (reading : Signature.Reading) :
    Gives ν (recovered reading) { counts := { malformed := faults reading } } l
      (l.recover m reading) := by
  intro _
  cases reading with
  | ok type => exact ⟨rfl, .refl l⟩
  | error fault =>
      have hcounted := Effect.Takes.of_count l (c := { malformed := 1 })
        (f := fun s => { s with malformed := s.malformed + 1 }) rfl
      exact ⟨rfl, hcounted.of_eq rfl rfl rfl⟩

/-- The effect of reading a text with references. -/
def linkedEffect (type : Option LinkedText) (suffix : String) : Effect where
  refids := linkedRefids type
  counts := { malformed := linkedFaults type suffix }

/-- What is malformed does not depend on the numbering, as references are no signatures. -/
lemma linkedFaults_eq (ν : String → EntityId) (type : Option LinkedText) (suffix : String) :
    linkedFaults type suffix = faults (readLinked ν type suffix) := by
  rcases type with _ | ⟨text, _ | ⟨reference, _ | ⟨other, references⟩⟩⟩
  · rfl
  · rw [linkedFaults, readLinked]
    cases Signature.ofText (text ++ " " ++ suffix) <;> rfl
  · rfl
  · rfl

/-- **A text with references is read as what it stands for**, and its effect is to give slots to
what it mentions and to count it if it is malformed. -/
lemma typeOf?_gives (l : Loader) (m : Member) (type : Option LinkedText) (suffix : String) :
    Gives ν (linkedType? ν type suffix) (linkedEffect type suffix) l (l.typeOf? m type suffix) := by
  have hsteps : l.typeOf? m type suffix =
      (l.run (·.resolve type suffix)).2.recover m (l.run (·.resolve type suffix)).1 := rfl
  have hresolve : Gives ν (readLinked ν type suffix) { refids := linkedRefids type } l
      (l.run (·.resolve type suffix)) := l.resolve_gives type suffix
  rw [hsteps]
  generalize l.run (·.resolve type suffix) = resolved at hresolve ⊢
  intro hν
  obtain ⟨hreading, htype, htakes⟩ := hresolve.trans (resolved.2.recover_gives m resolved.1) hν
  rw [hreading] at htype htakes ⊢
  refine ⟨htype, ?_⟩
  rw [← linkedFaults_eq] at htakes
  simpa [linkedEffect, Effect.append_def] using htakes

lemma typeOf_gives (l : Loader) (m : Member) (type : Option LinkedText) (suffix : String) :
    Gives ν (Signature.someType (linkedType? ν type suffix)) (linkedEffect type suffix) l
      (l.typeOf m type suffix) := by
  intro hν
  obtain ⟨htype, htakes⟩ := l.typeOf?_gives m type suffix hν
  exact ⟨congrArg Signature.someType htype, htakes⟩

/-- The effect of reading parameters, one after the other. -/
def paramsEffect (params : List Parameter) : Effect where
  refids := params.flatMap fun p => linkedRefids p.type
  counts := { malformed := (params.map fun p => linkedFaults p.type "").sum }

/-- One step of reading parameters, with the loader that the first one leaves for the others. -/
lemma loadParams_cons (l : Loader) (m : Member) (p : Parameter) (params : List Parameter) :
    l.loadParams m (p :: params) =
      (⟨p.declname, paramType (l.typeOf m p.type "").1 p.array⟩
          :: ((l.typeOf m p.type "").2.loadParams m params).1,
        ((l.typeOf m p.type "").2.loadParams m params).2) := rfl

/-- Parameters are read one after the other, each as what it stands for. -/
lemma loadParams_gives (l : Loader) (m : Member) (params : List Parameter) :
    Gives ν (params.map (paramOf ν)) (paramsEffect params) l (l.loadParams m params) := by
  induction params generalizing l with
  | nil => exact fun _ => ⟨rfl, .refl l⟩
  | cons p params ih =>
      intro hν
      rw [loadParams_cons] at hν ⊢
      obtain ⟨htype, hrest, htakes⟩ := Gives.trans (l.typeOf_gives m p.type "")
        (ih (l.typeOf m p.type "").2) hν
      refine ⟨?_, htakes⟩
      rw [hrest, htype]
      rfl

/-- The effect of reading a function. -/
def routineEffect (m : Member) : Effect where
  refids := routineRefids m
  counts := { malformed := routineFaults m }

/-- What is built from a member, with the names that the loader gives to each step. -/
lemma buildRoutine_eq (l : Loader) (m : Member) (isStatic : Bool) :
    l.buildRoutine m isStatic =
      ({ head := {
          refid := m.id, name := m.name, access := m.access
          location := locationOf m.placement, extent := extentOf m.placement }
         prototype := {
          result := (splitExternal (l.typeOf? m m.type "").1).1
          params := ((l.typeOf? m m.type "").2.loadParams m m.params).1 }
         receiver := receiverName m.definition
         isExternal := (splitExternal (l.typeOf? m m.type "").1).2
         isStatic },
        ((l.typeOf? m m.type "").2.loadParams m m.params).2) := rfl

/-- **A function is read as what it stands for.** -/
lemma buildRoutine_gives (l : Loader) (m : Member) (isStatic : Bool) :
    Gives ν (routineOf ν isStatic m) (routineEffect m) l (l.buildRoutine m isStatic) := by
  intro hν
  rw [buildRoutine_eq] at hν ⊢
  obtain ⟨htype, hparams, htakes⟩ := Gives.trans (l.typeOf?_gives m m.type "")
    ((l.typeOf? m m.type "").2.loadParams_gives m m.params) hν
  refine ⟨?_, htakes⟩
  rw [htype, hparams]
  rfl

/-! ## Fields and properties -/

/-- The effect of reading the members of an attribute or property section. -/
def fieldsEffect (members : List Member) : Effect where
  refids := members.flatMap fun m => linkedRefids m.type
  counts := { malformed := (members.map fun m => linkedFaults m.type m.argsstring).sum }

/-- A remark is no effect, so a member of an unexpected kind is read like any other. -/
lemma typeOf_remark_gives (l : Loader) (m : Member) (kind message : String) :
    Gives ν (Signature.someType (linkedType? ν m.type m.argsstring))
      (linkedEffect m.type m.argsstring) l
      ((if m.kind = kind then l else l.note .warn message).typeOf m m.type m.argsstring) := by
  intro hν
  obtain ⟨htype, htakes⟩ := typeOf_gives _ m m.type m.argsstring hν
  refine ⟨htype, ?_⟩
  split at htakes
  · rename_i hkind
    rwa [if_pos hkind]
  · rename_i hkind
    rw [if_neg hkind]
    exact ⟨htakes.store, htakes.pending, htakes.stats⟩

/-- One step of an attribute section: a remark if the member is of another kind, a type and a
field. -/
lemma loadAttribute_eq (access : Access) (isStatic : Bool) (l : Loader) (entity : Entity)
    (m : Member) :
    loadAttribute access isStatic (l, entity) m =
      let read := (if m.kind = "variable" then l
        else l.note .warn ("unexpected attribute kind " ++ Text.quoted m.kind ++ " for "
          ++ Text.quoted m.name)).typeOf m m.type m.argsstring
      (read.2, entity.addAttribute
        { name := m.name, type := read.1, access, isStatic,
          location := locationOf m.placement, extent := extentOf m.placement }) := rfl

/-- The members of an attribute section add the fields they stand for. -/
lemma loadAttributes_gives (access : Access) (isStatic : Bool) (members : List Member) (l : Loader)
    (entity : Entity)
    (hν : (members.foldl (loadAttribute access isStatic) (l, entity)).1.store.NumberedBy ν) :
    (members.foldl (loadAttribute access isStatic) (l, entity)).2 =
        entity.extend (members.map (attributeOf ν access isStatic)) [] [] ∧
      (fieldsEffect members).Takes l
        (members.foldl (loadAttribute access isStatic) (l, entity)).1 := by
  induction members generalizing l entity with
  | nil => exact ⟨entity.extend_nil.symm, .refl l⟩
  | cons m members ih =>
      rw [List.foldl_cons, loadAttribute_eq] at hν ⊢
      obtain ⟨hentity, htakes⟩ := ih _ _ hν
      obtain ⟨htype, hfirst⟩ := typeOf_remark_gives l m "variable" _ (htakes.numberedBy hν)
      refine ⟨?_, hfirst.trans htakes⟩
      rw [hentity, htype, Entity.addAttribute_eq, Entity.extend_extend]
      rfl

/-- One step of a property section: a remark if the member is of another kind, a type and a
property. -/
lemma loadProperty_eq (l : Loader) (entity : Entity) (m : Member) :
    loadProperty (l, entity) m =
      let read := (if m.kind = "property" then l
        else l.note .warn ("unexpected property kind " ++ Text.quoted m.kind ++ " for "
          ++ Text.quoted m.name)).typeOf m m.type m.argsstring
      (read.2, entity.addProperty
        { name := m.name, type := read.1, readable := m.readable, writable := m.writable,
          location := locationOf m.placement, extent := extentOf m.placement }) := rfl

/-- The members of a property section add the properties they stand for. -/
lemma loadProperties_gives (members : List Member) (l : Loader) (entity : Entity)
    (hν : (members.foldl loadProperty (l, entity)).1.store.NumberedBy ν) :
    (members.foldl loadProperty (l, entity)).2 =
        entity.extend [] (members.map (propertyOf ν)) [] ∧
      (fieldsEffect members).Takes l (members.foldl loadProperty (l, entity)).1 := by
  induction members generalizing l entity with
  | nil => exact ⟨entity.extend_nil.symm, .refl l⟩
  | cons m members ih =>
      rw [List.foldl_cons, loadProperty_eq] at hν ⊢
      obtain ⟨hentity, htakes⟩ := ih _ _ hν
      obtain ⟨htype, hfirst⟩ := typeOf_remark_gives l m "property" _ (htakes.numberedBy hν)
      refine ⟨?_, hfirst.trans htakes⟩
      rw [hentity, htype, Entity.addProperty_eq, Entity.extend_extend]
      rfl

end Loader

/-! ## Functions -/

namespace Loading

/-- What is counted when an entity is offered methods. -/
def attachCounts (entity : Entity) (functions : List Routine) : LoadStats :=
  match entity.methods? with
  | none => 0
  | some methods => {
      methods := (novel methods functions).length
      duplicateMethods := functions.length - (novel methods functions).length }

lemma attachCounts_nil (entity : Entity) : attachCounts entity [] = 0 := by
  unfold attachCounts
  split <;> rfl

/-- Offering more counts for the entity as it has grown. -/
lemma attachCounts_append (entity : Entity) (attributes : List Attribute)
    (properties : List Property) (functions others : List Routine) :
    attachCounts entity (functions ++ others) = attachCounts entity functions +
      attachCounts (entity.extend attributes properties functions) others := by
  unfold attachCounts
  rw [Entity.methods?_extend]
  cases entity.methods? with
  | none => rfl
  | some methods =>
      have hfirst := length_novel_le methods functions
      have hsecond := length_novel_le (methods ++ novel methods functions) others
      ext <;> simp only [Option.map_some, novel_append, List.length_append,
        LoadStats.counters_add]
      omega

/-- The effect of reading texts: slots and malformed signatures. -/
def reading (refids : List String) (faults : Nat) : Effect where
  refids := refids
  counts := { malformed := faults }

/-- The effect of finding places for the functions listed under an entity: some are free, some its
own, and the others wait. -/
def placing (entity : Entity) (functions : List Routine) : Effect where
  free := freeOf functions
  waiting := waitingOf entity.name functions
  counts :=
    { freeFunctions := (freeOf functions).length
      deferred := (waitingOf entity.name functions).length }
      + attachCounts entity (ownOf entity.name functions)

/-- The effect of finding places for the functions listed in a file, which has no methods of its
own. -/
def filing (functions : List Routine) : Effect where
  free := freeOf functions
  waiting := boundOf functions
  counts :=
    { freeFunctions := (freeOf functions).length, deferred := (boundOf functions).length }

lemma reading_append (refids others : List String) (faults more : Nat) :
    reading refids faults ++ reading others more = reading (refids ++ others) (faults + more) := rfl

lemma placing_append (entity : Entity) (attributes : List Attribute) (properties : List Property)
    (functions others : List Routine) :
    placing entity (functions ++ others) = placing entity functions ++
      placing (entity.extend attributes properties (ownOf entity.name functions)) others := by
  have hcounts := attachCounts_append entity attributes properties
    (ownOf entity.name functions) (ownOf entity.name others)
  simp only [placing, Effect.append_def, freeOf, waitingOf, ownOf, List.filter_append,
    List.length_append, Entity.name_extend, List.append_nil] at hcounts ⊢
  rw [hcounts]
  refine congrArg (Effect.mk _ _ _) ?_
  ext <;> simp only [LoadStats.counters_add] <;> omega

lemma placing_nil (entity : Entity) : placing entity [] = {} := by
  have hown : ownOf entity.name [] = [] := rfl
  rw [placing, hown, attachCounts_nil, add_zero]
  rfl

/-- Finding places for the functions of a file adds up, as there is no entity that grows. -/
lemma filing_append (functions others : List Routine) :
    filing (functions ++ others) = filing functions ++ filing others := by
  simp only [filing, Effect.append_def, freeOf, boundOf, List.filter_append, List.length_append]
  rfl

/-- Reading and finding places do not get into each other's way. -/
lemma placing_reading (entity : Entity) (functions : List Routine) (refids : List String)
    (faults : Nat) :
    placing entity functions ++ reading refids faults =
      reading refids faults ++ placing entity functions := by
  simp only [placing, reading, Effect.append_def, List.append_nil, List.nil_append]
  rw [add_comm]

lemma filing_reading (functions : List Routine) (refids : List String) (faults : Nat) :
    filing functions ++ reading refids faults = reading refids faults ++ filing functions := by
  simp only [filing, reading, Effect.append_def, List.append_nil, List.nil_append]
  rw [add_comm]

end Loading

namespace Effect

lemma append_assoc (e e' e'' : Effect) : e ++ e' ++ e'' = e ++ (e' ++ e'') := by
  simp only [append_def, List.append_assoc, add_assoc]

lemma nil_append (e : Effect) : {} ++ e = e := by
  simp only [append_def, List.nil_append, zero_add]

lemma append_nil (e : Effect) : e ++ {} = e := by
  simp only [append_def, List.append_nil, add_zero]

end Effect

/-- Telling what becomes of a method does not touch the store. -/
@[simp]
lemma Session.store_noteAttachment (session : Session) (owner method : String)
    (outcome : Attachment) :
    (session.noteAttachment owner method outcome).store = session.store := by
  cases outcome <;> rfl

namespace Loader

variable {ν : String → EntityId}

lemma addFree_takes (l : Loader) (f : Routine) :
    ({ free := [f], counts := { freeFunctions := 1 } } : Effect).Takes l (l.addFree f) where
  store := rfl
  pending := (List.append_nil _).symm
  stats := rfl

lemma defer_takes (l : Loader) (f : Routine) :
    ({ waiting := [f], counts := { deferred := 1 } } : Effect).Takes l (l.defer f) where
  store := by simp [defer, note, count]
  pending := rfl
  stats := rfl

/-- A method is attached to the entity that is being loaded. -/
lemma attachTo_takes (l : Loader) (entity : Entity) (f : Routine) :
    (l.attachTo entity f).2 = entity.extend [] [] [f] ∧
      ({ counts := attachCounts entity [f] } : Effect).Takes l (l.attachTo entity f).1 := by
  refine ⟨entity.attach_eq f, ?_⟩
  refine ⟨?_, ?_, ?_⟩
  · simp [attachTo, count]
  · simp [attachTo, count]
  · unfold attachTo attachCounts Entity.attach
    cases entity.methods? with
    | none => rfl
    | some methods =>
        by_cases hnew : methods.any (·.name == f.name) = true
        · simp only [hnew, if_true, novel]
          rfl
        · simp only [hnew, novel]
          rfl

/-- A function listed under an entity finds its place. -/
lemma loadFunction_owned (l : Loader) (isStatic : Bool) (entity : Entity) (m : Member)
    (hkind : m.kind = "function") :
    (loadFunction isStatic (l, some entity) m).2 = some (entity.extend [] []
        (ownOf entity.name [(l.buildRoutine m (isStatic || m.isStatic)).1])) ∧
      (placing entity [(l.buildRoutine m (isStatic || m.isStatic)).1]).Takes
        (l.buildRoutine m (isStatic || m.isStatic)).2
        (loadFunction isStatic (l, some entity) m).1 := by
  rw [loadFunction, if_neg (not_not_intro hkind)]
  generalize l.buildRoutine m (isStatic || m.isStatic) = built
  obtain ⟨f, l⟩ := built
  by_cases hfree : f.isFree = true
  · have hown : ownOf entity.name [f] = [] := by simp [ownOf, hfree]
    have hplacing : placing entity [f] = { free := [f], counts := { freeFunctions := 1 } } := by
      rw [placing, hown, attachCounts_nil, add_zero]
      simp [freeOf, waitingOf, hfree]
    simp only [hfree, if_true, hplacing, hown, Entity.extend_nil]
    exact ⟨trivial, l.addFree_takes f⟩
  · by_cases hname : entity.name = f.receiver
    · have hown : ownOf entity.name [f] = [f] := by simp [ownOf, hfree, hname]
      have hplacing : placing entity [f] = { counts := attachCounts entity [f] } := by
        rw [placing, hown]
        simp only [freeOf, waitingOf, hfree, hname, List.filter_cons, List.filter_nil,
          bne_self_eq_false, Bool.and_false, Bool.false_eq_true, if_false, List.length_nil]
        exact congrArg (Effect.mk [] [] []) (zero_add _)
      obtain ⟨hentity, htakes⟩ := l.attachTo_takes entity f
      simp only [hfree, hname, if_true, Bool.false_eq_true, if_false]
      rw [← hname, hown, hplacing]
      exact ⟨congrArg some hentity, htakes⟩
    · have hname' : f.receiver ≠ entity.name := fun h => hname h.symm
      have hown : ownOf entity.name [f] = [] := by simp [ownOf, hname']
      have hplacing : placing entity [f] = { waiting := [f], counts := { deferred := 1 } } := by
        rw [placing, hown, attachCounts_nil, add_zero]
        simp [freeOf, waitingOf, hfree, hname']
      simp only [hfree, hname, Bool.false_eq_true, if_false, hplacing, hown, Entity.extend_nil]
      exact ⟨trivial, l.defer_takes f⟩

/-- A function listed in a file finds its place. -/
lemma loadFunction_filed (l : Loader) (isStatic : Bool) (m : Member)
    (hkind : m.kind = "function") :
    (loadFunction isStatic (l, none) m).2 = none ∧
      (filing [(l.buildRoutine m (isStatic || m.isStatic)).1]).Takes
        (l.buildRoutine m (isStatic || m.isStatic)).2 (loadFunction isStatic (l, none) m).1 := by
  rw [loadFunction, if_neg (not_not_intro hkind)]
  generalize l.buildRoutine m (isStatic || m.isStatic) = built
  obtain ⟨f, l⟩ := built
  by_cases hfree : f.isFree = true
  · have hfiling : filing [f] = { free := [f], counts := { freeFunctions := 1 } } := by
      simp [filing, freeOf, boundOf, hfree]
    simp only [hfree, if_true, hfiling]
    exact ⟨trivial, l.addFree_takes f⟩
  · have hfiling : filing [f] = { waiting := [f], counts := { deferred := 1 } } := by
      simp [filing, freeOf, boundOf, hfree]
    simp only [hfree, Bool.false_eq_true, if_false, hfiling]
    exact ⟨trivial, l.defer_takes f⟩

/-- Members that are no functions are passed over. -/
lemma loadFunction_other (l : Loader) (isStatic : Bool) (owner : Option Entity) (m : Member)
    (hkind : m.kind ≠ "function") :
    (loadFunction isStatic (l, owner) m).2 = owner ∧
      ({} : Effect).Takes l (loadFunction isStatic (l, owner) m).1 := by
  rw [loadFunction, if_pos hkind]
  exact ⟨rfl, (Effect.Takes.refl l).of_eq rfl rfl rfl⟩

/-- The functions among the members of a function section, in their order. -/
def listedRoutines (ν : String → EntityId) (isStatic : Bool) (members : List Member) :
    List Routine :=
  (members.filter (·.kind = "function")).map fun m => routineOf ν (isStatic || m.isStatic) m

/-- The effect of reading the functions among members. -/
def listedEffect (members : List Member) : Effect :=
  reading ((members.filter (·.kind = "function")).flatMap routineRefids)
    (((members.filter (·.kind = "function")).map routineFaults).sum)

lemma listedRoutines_cons {m : Member} (isStatic : Bool) (members : List Member)
    (hkind : m.kind = "function") :
    listedRoutines ν isStatic (m :: members) =
      [routineOf ν (isStatic || m.isStatic) m] ++ listedRoutines ν isStatic members := by
  simp [listedRoutines, hkind]

lemma listedEffect_cons {m : Member} (members : List Member) (hkind : m.kind = "function") :
    listedEffect (m :: members) = routineEffect m ++ listedEffect members := by
  simp only [listedEffect, hkind, decide_true, List.filter_cons_of_pos, List.flatMap_cons,
    List.map_cons, List.sum_cons]
  rfl

/-- The functions listed under an entity find their places, one after the other.  By induction on
the members, while the entity grows. -/
lemma loadFunctions_owned (isStatic : Bool) (members : List Member) (l : Loader) (entity : Entity)
    (hν : (members.foldl (loadFunction isStatic) (l, some entity)).1.store.NumberedBy ν) :
    (members.foldl (loadFunction isStatic) (l, some entity)).2 =
        some (entity.extend [] [] (ownOf entity.name (listedRoutines ν isStatic members))) ∧
      (listedEffect members ++ placing entity (listedRoutines ν isStatic members)).Takes l
        (members.foldl (loadFunction isStatic) (l, some entity)).1 := by
  induction members generalizing l entity with
  | nil =>
      refine ⟨congrArg some entity.extend_nil.symm, ?_⟩
      have hnone : listedEffect [] ++ placing entity (listedRoutines ν isStatic []) = {} :=
        (congrArg (listedEffect [] ++ ·) (placing_nil entity)).trans (Effect.append_nil _)
      rw [hnone]
      exact .refl l
  | cons m members ih =>
      rw [List.foldl_cons] at hν ⊢
      by_cases hkind : m.kind = "function"
      · obtain ⟨howner, hplaced⟩ := l.loadFunction_owned isStatic entity m hkind
        rw [show loadFunction isStatic (l, some entity) m = (_, some _) from Prod.ext rfl howner]
          at hν ⊢
        obtain ⟨hentity, hrest⟩ := ih _ _ hν
        obtain ⟨hbuilt, hread⟩ := l.buildRoutine_gives m (isStatic || m.isStatic)
          (hplaced.numberedBy (hrest.numberedBy hν))
        have hwhole := hread.trans (hplaced.trans hrest)
        rw [hbuilt] at hentity hwhole ⊢
        rw [listedRoutines_cons isStatic members hkind, listedEffect_cons members hkind]
        constructor
        · rw [hentity, Entity.extend_extend, Entity.name_extend, ownOf, ownOf, ownOf,
            List.filter_append]
          rfl
        · rw [placing_append entity [] [], Effect.append_assoc,
            ← Effect.append_assoc (listedEffect members), listedEffect, ← placing_reading,
            Effect.append_assoc]
          exact hwhole
      · obtain ⟨howner, hpassed⟩ := l.loadFunction_other isStatic (some entity) m hkind
        rw [show loadFunction isStatic (l, some entity) m = (_, some _) from Prod.ext rfl howner]
          at hν ⊢
        obtain ⟨hentity, hrest⟩ := ih _ _ hν
        have hwhole := hpassed.trans hrest
        rw [Effect.nil_append] at hwhole
        have hsame : (m :: members).filter (·.kind = "function") =
            members.filter (·.kind = "function") := by simp [hkind]
        rw [listedRoutines, listedEffect, hsame]
        exact ⟨hentity, hwhole⟩

/-- The functions listed in a file find their places. -/
lemma loadFunctions_filed (isStatic : Bool) (members : List Member) (l : Loader)
    (hν : (members.foldl (loadFunction isStatic) (l, none)).1.store.NumberedBy ν) :
    (listedEffect members ++ filing (listedRoutines ν isStatic members)).Takes l
      (members.foldl (loadFunction isStatic) (l, none)).1 := by
  induction members generalizing l with
  | nil => exact .refl l
  | cons m members ih =>
      rw [List.foldl_cons] at hν ⊢
      by_cases hkind : m.kind = "function"
      · obtain ⟨howner, hfiled⟩ := l.loadFunction_filed isStatic m hkind
        rw [show loadFunction isStatic (l, none) m = (_, none) from Prod.ext rfl howner] at hν ⊢
        have hrest := ih _ hν
        obtain ⟨hbuilt, hread⟩ := l.buildRoutine_gives m (isStatic || m.isStatic)
          (hfiled.numberedBy (hrest.numberedBy hν))
        have hwhole := hread.trans (hfiled.trans hrest)
        rw [hbuilt] at hwhole
        rw [listedRoutines_cons isStatic members hkind, listedEffect_cons members hkind,
          filing_append, Effect.append_assoc, ← Effect.append_assoc (listedEffect members),
          listedEffect, ← filing_reading, Effect.append_assoc]
        exact hwhole
      · obtain ⟨howner, hpassed⟩ := l.loadFunction_other isStatic none m hkind
        rw [show loadFunction isStatic (l, none) m = (_, none) from Prod.ext rfl howner] at hν ⊢
        have hwhole := hpassed.trans (ih _ hν)
        rw [Effect.nil_append] at hwhole
        have hsame : (m :: members).filter (·.kind = "function") =
            members.filter (·.kind = "function") := by simp [hkind]
        rw [listedRoutines, listedEffect, hsame]
        exact hwhole

end Loader

end FrameworkBindings
