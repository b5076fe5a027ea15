import Mathlib.Data.List.Induction
import FrameworkBindings.Proofs.Store.Histories

/-!
# The store as tables

`Store` keeps one array of slots and finds everything in it by looking through it.  An
implementation that is asked often does not look through its slots: it keeps what it will be asked
for in tables beside them.  This module is that implementation, and the proof that nobody can tell
it from a store.

**Tables.**  `Tables` holds the entities, the marks of those that are defined, a table of slots by
reference id, another by name, and the files by reference id.  The four parts that describe slots
are separate values, and each operation has to change them together: a new slot needs an entry in
three of them, and a definition in the other three.  In which order entries came, the tables do not
say; the views sort what they list.

**The relation.**  `Tables.Represents` says that tables and a store hold the same: the entities and
the marks are those of the slots in their order, and the two tables answer as `Store.lookup` and
`Store.findByName` do.  The table of names is the delicate part.  It keeps the first slot that was
defined under a name and is only ever added to, while the store looks through its definitions
again each time; that these agree needs that definitions are never taken back and that no method
changes a name (`Store.findByName_fill`, `Store.findByName_attach`).

**Steps and runs.**  Each operation on tables has one lemma, which says that it gives the answer of
the store and keeps the relation (`Represents.intern`, `Represents.install` and so on).
`represents_after` follows for every history by induction from its end.

**`agree_after`** is what comes of it: after the same history, tables and store answer every
question alike, and what is asked of them next has the same outcome.
-/

namespace FrameworkBindings

open Loading

/-! ## Tables -/

/-- What a run has gathered, with a table for each question that is asked of it: the same data as a
`Store`, in more places. -/
structure Tables where
  entities : Array Entity := #[]
  /-- Which of the entities are definitions and not placeholders, in the same order. -/
  defined : Array Bool := #[]
  byRefid : Std.HashMap String EntityId := ∅
  /-- The first definition of each name; what has no name is not listed. -/
  byName : Std.HashMap String EntityId := ∅
  functions : List Routine := []
  files : Std.TreeMap String Declaration := ∅

namespace Tables

/-- The slot of a reference id, by a single look into its table. -/
def lookup (tables : Tables) (refid : String) : Option EntityId := tables.byRefid[refid]?

/-- The first entity that was defined under a name, by a single look into the other table. -/
def findByName (tables : Tables) (name : String) : Option EntityId := tables.byName[name]?

def entity? (tables : Tables) (id : EntityId) : Option Entity := tables.entities[id.slot]?

def isDefined (tables : Tables) (id : EntityId) : Bool := tables.defined[id.slot]?.getD false

/-- The reference ids without a definition.  They are read from the table of slots, which lists them
in no order that means anything, and sorted afterwards. -/
def unresolved (tables : Tables) : List String :=
  ((tables.byRefid.toList.filter fun p => ! tables.isDefined p.2).map Prod.fst).mergeSort
    Store.textLe

/-- The defined entities with their slots, in order of Go names. -/
def sorted (tables : Tables) : List (EntityId × Entity) :=
  (tables.entities.toList.zipIdx.filterMap fun p =>
    if tables.isDefined ⟨p.2⟩ then some (⟨p.2⟩, p.1) else none).mergeSort Store.entityLe

/-- The files, in the order of their table. -/
def sortedFiles (tables : Tables) : List Declaration := tables.files.toList.map Prod.snd

/-- The slot of a reference id; a new one, with a placeholder in it, at the first mention. -/
def intern (tables : Tables) (refid : String) : EntityId × Tables :=
  match tables.byRefid[refid]? with
  | some id => (id, tables)
  | none =>
    let id : EntityId := ⟨tables.entities.size⟩
    (id,
      { tables with
        entities := tables.entities.push (.placeholder refid)
        defined := tables.defined.push false
        byRefid := tables.byRefid.insert refid id })

/-- Puts a definition in place of the placeholder of a slot.  Its name leads to this slot from now
on, unless it leads to another already. -/
def fill (tables : Tables) (id : EntityId) (entity : Entity) : Tables :=
  { tables with
    entities := tables.entities.setIfInBounds id.slot entity
    defined := tables.defined.setIfInBounds id.slot true
    byName :=
      if entity.name = "" then tables.byName else tables.byName.insertIfNew entity.name id }

/-- Fills the slot of a reference id, unless that has been done. -/
def install (tables : Tables) (refid : String) (entity : Entity) :
    Except StoreError EntityId × Tables :=
  let (id, tables) := tables.intern refid
  if tables.isDefined id then (.error (.duplicateDefinition refid), tables)
  else (.ok id, tables.fill id entity)

/-- Offers a method to the entity in a slot, be it defined or not. -/
def attach (tables : Tables) (id : EntityId) (method : Routine) : Tables :=
  { tables with
    entities := tables.entities.modify id.slot fun entity => (entity.attach method).1 }

/-- Adds a file, whose reference id must be new. -/
def addFile (tables : Tables) (file : Declaration) : Except StoreError Tables :=
  if tables.files.contains file.refid then .error (.duplicateFile file.refid)
  else .ok { tables with files := tables.files.insert file.refid file }

/-- What comes of an operation, as `Store.perform` says it of a store. -/
def perform (tables : Tables) : Operation → Except StoreError (Option EntityId) × Tables
  | .intern refid => (.ok (some (tables.intern refid).1), (tables.intern refid).2)
  | .define refid entity =>
    ((tables.install refid entity).1.map some, (tables.install refid entity).2)
  | .attach id method => (.ok none, tables.attach id method)
  | .addFunction f => (.ok none, { tables with functions := tables.functions ++ [f] })
  | .addFile file =>
    match tables.addFile file with
    | .ok after => (.ok none, after)
    | .error e => (.error e, tables)

/-- The tables after a history, each operation done as the tables do it. -/
def after (tables : Tables) (history : List Operation) : Tables :=
  history.foldl (fun tables op => (tables.perform op).2) tables

end Tables

/-! ## What the store says of its slots -/

lemma Slot.entity_attach (slot : Slot) (f : Routine) :
    (slot.attach f).entity = (slot.entity.attach f).1 := by
  cases slot with
  | defined entity refid => rfl
  | undefined refid methods =>
      have hmethods : (Slot.undefined refid methods).entity.methods? = some methods := rfl
      rw [Entity.attach, hmethods]
      simp only [Slot.attach]
      split_ifs <;> rfl

lemma Slot.isDefined_attach (slot : Slot) (f : Routine) :
    (slot.attach f).isDefined = slot.isDefined := by
  cases slot <;> rfl

namespace Store

variable {store : Store} {id : EntityId} {refid : String} {entity : Entity}

/-- Interning gives a slot to one reference id and leaves those of the others, as adding a key to a
table does. -/
lemma lookup_intern_eq (store : Store) (refid other : String) :
    (store.intern refid).2.lookup other =
      if refid = other then some (store.intern refid).1 else store.lookup other := by
  split_ifs with h
  · rw [← h]
    exact store.lookup_intern refid
  · cases hother : store.lookup other with
    | some id => exact lookup_of_grown (store.prefix_intern refid) hother
    | none =>
        rw [lookup_eq_none_iff] at hother ⊢
        rw [refids_intern]
        split_ifs
        · exact hother
        · simpa using ⟨hother, Ne.symm h⟩

lemma lookup_fill (h : store.refids[id.slot]? = some refid) (entity : Entity) (other : String) :
    (store.fill id refid entity).lookup other = store.lookup other := by
  rw [lookup_eq_idxOf?, lookup_eq_idxOf?, refids_fill h]

lemma lookup_attach (store : Store) (id : EntityId) (f : Routine) (refid : String) :
    (store.attach id f).lookup refid = store.lookup refid := by
  rw [lookup_eq_idxOf?, lookup_eq_idxOf?, refids_attach]

lemma findByName_intern (h : store.Coherent) (refid name : String) :
    (store.intern refid).2.findByName name = store.findByName name := by
  rw [findByName_eq h, findByName_eq (h.intern refid), ordered_intern]

/-- A definition is found under its name if it has one and no other had it before.  This is the rule
by which the table of names is kept. -/
lemma findByName_fill (h : store.Coherent) (hrefid : store.refids[id.slot]? = some refid)
    (hfree : store.definition? id = none) (entity : Entity) (name : String) :
    (store.fill id refid entity).findByName name =
      if entity.name = name ∧ name ≠ "" ∧ store.findByName name = none then some id
      else store.findByName name := by
  have hlt : id.slot < store.size := by
    rw [← length_refids]
    exact (List.getElem?_eq_some_iff.1 hrefid).1
  rw [findByName_eq h, findByName_eq (h.fill hrefid hfree entity), ordered_fill h hlt hfree,
    List.find?_append]
  by_cases hname : name = ""
  · simp [hname]
  · rw [if_neg hname, if_neg hname]
    cases store.ordered.find? fun p => p.2.name == name with
    | some p => simp
    | none => by_cases hentity : entity.name = name <;> simp [hname, hentity]

/-- Names are found as before, since methods do not change them. -/
lemma findByName_attach (store : Store) (id : EntityId) (f : Routine) (name : String) :
    (store.attach id f).findByName name = store.findByName name := by
  have hname : ∀ other, (store.attach id f).nameOf other = store.nameOf other := by
    intro other
    simp only [nameOf, entity?, attach, Array.getElem?_modify]
    split_ifs
    · cases store.slots[other.slot]? with
      | none => rfl
      | some slot => simp [Slot.entity_attach, Entity.name, Entity.head_attach]
    · rfl
  simp only [findByName, hname]
  rfl

end Store

/-! ## The relation -/

namespace Tables

/-- Tables and a store hold the same, slot by slot and key by key. -/
structure Represents (tables : Tables) (store : Store) : Prop where
  entities : tables.entities = store.slots.map Slot.entity
  defined : tables.defined = store.slots.map Slot.isDefined
  lookup : ∀ refid, tables.lookup refid = store.lookup refid
  findByName : ∀ name, tables.findByName name = store.findByName name
  functions : tables.functions = store.functions
  /-- The table of files has its own order, so that only the contents agree. -/
  files : tables.files.toList.Perm (store.files.map fun file => (file.refid, file))

lemma install_eq (tables : Tables) (refid : String) (entity : Entity) :
    tables.install refid entity =
      if (tables.intern refid).2.isDefined (tables.intern refid).1 then
        (.error (.duplicateDefinition refid), (tables.intern refid).2)
      else
        (.ok (tables.intern refid).1,
          (tables.intern refid).2.fill (tables.intern refid).1 entity) := rfl

variable {tables : Tables} {store : Store} {refid : String} {history : List Operation}

namespace Represents

lemma empty : Represents {} {} where
  entities := Array.map_empty.symm
  defined := Array.map_empty.symm
  lookup := fun _ => Std.HashMap.getElem?_empty.trans (by simp [Store.lookup])
  findByName := fun _ => Std.HashMap.getElem?_empty.trans (by simp [Store.findByName])
  functions := rfl
  files := by
    have hnil : (∅ : Std.TreeMap String Declaration).toList = [] := rfl
    rw [hnil]
    exact .nil

/-! ### Questions -/

section Questions

variable (h : tables.Represents store)
include h

lemma size_eq : tables.entities.size = store.size := by
  rw [h.entities, Array.size_map, Store.size]

lemma entity? (id : EntityId) : tables.entity? id = store.entity? id := by
  rw [Tables.entity?, h.entities, Array.getElem?_map, Store.entity?]

lemma isDefined (id : EntityId) : tables.isDefined id = store.isDefined id := by
  rw [Tables.isDefined, h.defined, Array.getElem?_map, Store.isDefined]

/-- The same reference ids are awaited, in whatever order the table lists them. -/
lemma unresolved (hstore : store.Coherent) : tables.unresolved = store.unresolved := by
  have hmem : ∀ refid, refid ∈ tables.unresolved ↔ refid ∈ store.unresolved := by
    intro refid
    rw [Store.mem_unresolved hstore, Tables.unresolved, List.mem_mergeSort]
    simp only [List.mem_map, List.mem_filter, Prod.exists, exists_and_right, exists_eq_right,
      Std.HashMap.mem_toList_iff_getElem?_eq_some, ← h.lookup refid, h.isDefined,
      Bool.not_eq_true', Tables.lookup]
  have hnodup : tables.unresolved.Nodup := by
    rw [Tables.unresolved, (List.mergeSort_perm _ _).nodup_iff, List.Nodup, List.pairwise_map]
    refine (Std.HashMap.distinct_keys_toList.filter _).imp fun hne => ?_
    simpa using hne
  have hnodup' : store.unresolved.Nodup := by
    refine (Store.unresolved_pairwise hstore).imp fun hlt heq => ?_
    subst heq
    exact String.lt_irrefl _ hlt
  have hperm := (List.perm_ext_iff_of_nodup hnodup hnodup').2 hmem
  exact mergeSort_eq_of_perm (fun _ _ _ => Store.textLe_trans) Store.textLe_total
    (fun _ _ _ _ => Store.textLe_antisymm)
    ((List.mergeSort_perm _ _).symm.trans (hperm.trans (List.mergeSort_perm _ _)))

lemma sorted : tables.sorted = store.sorted := by
  refine congrArg (List.mergeSort · Store.entityLe) ?_
  rw [h.entities, Array.toList_map, List.zipIdx_map, List.filterMap_map, Store.definitions]
  refine List.filterMap_congr fun p hp => ?_
  obtain ⟨slot, i⟩ := p
  have hslot : store.slots[i]? = some slot := by
    simpa using List.mem_zipIdx_iff_getElem?.1 hp
  have hdefined : tables.isDefined ⟨i⟩ = slot.isDefined := by
    rw [h.isDefined, Store.isDefined, hslot]
    rfl
  simp only [Function.comp_apply, Prod.map_apply, id_eq, hdefined]
  cases slot <;> rfl

lemma mem_files {key : String} {file : Declaration} :
    (key, file) ∈ tables.files.toList ↔ file ∈ store.files ∧ file.refid = key := by
  rw [h.files.mem_iff, List.mem_map]
  constructor
  · rintro ⟨_, hmem, heq⟩
    cases heq
    exact ⟨hmem, rfl⟩
  · rintro ⟨hmem, rfl⟩
    exact ⟨file, hmem, rfl⟩

/-- A file that is listed is the one that its reference id leads to. -/
lemma getElem?_files {file : Declaration} (hfile : file ∈ tables.sortedFiles) :
    tables.files[file.refid]? = some file := by
  obtain ⟨⟨key, _⟩, hmem, rfl⟩ := List.mem_map.1 hfile
  obtain rfl := (h.mem_files.1 hmem).2
  exact Std.TreeMap.mem_toList_iff_getElem?_eq_some.1 hmem

/-- The table of files is in the order of its keys, which are their reference ids. -/
lemma sortedFiles_pairwise :
    tables.sortedFiles.Pairwise fun a b => Store.textLe a.refid b.refid = true := by
  have hkeys := Std.TreeMap.ordered_keys_toList (t := tables.files)
  rw [Tables.sortedFiles, List.pairwise_map]
  refine hkeys.imp_of_mem fun {p q} hp hq hlt => ?_
  rw [(h.mem_files.1 hp).2, (h.mem_files.1 hq).2, Store.textLe_iff]
  exact String.not_lt.1 (String.lt_asymm (compareOfLessAndEq_eq_lt.1 hlt))

/-- The table of files lists them in the order that the store sorts them into. -/
lemma sortedFiles : tables.sortedFiles = store.sortedFiles := by
  have hperm : tables.sortedFiles.Perm store.files := by
    have hfiles := h.files.map Prod.snd
    simp only [List.map_map, Function.comp_def, List.map_id'] at hfiles
    exact hfiles
  have hties : ∀ a ∈ tables.sortedFiles, ∀ b ∈ tables.sortedFiles,
      Store.textLe a.refid b.refid = true → Store.textLe b.refid a.refid = true → a = b := by
    intro a ha b hb hab hba
    have hsame := h.getElem?_files hb
    rw [← Store.textLe_antisymm hab hba, h.getElem?_files ha] at hsame
    exact Option.some.inj hsame
  rw [← List.mergeSort_of_pairwise h.sortedFiles_pairwise]
  exact mergeSort_eq_of_perm (fun _ _ _ => Store.textLe_trans)
    (fun a b => Store.textLe_total a.refid b.refid) hties hperm

end Questions

/-! ### Operations -/

lemma intern (h : tables.Represents store) (hstore : store.Coherent) (refid : String) :
    (tables.intern refid).1 = (store.intern refid).1 ∧
      (tables.intern refid).2.Represents (store.intern refid).2 := by
  have hlookup : tables.byRefid[refid]? = store.lookup refid := h.lookup refid
  have hothers := store.lookup_intern_eq refid
  have hnames := Store.findByName_intern hstore refid
  rw [Tables.intern, hlookup]
  rw [Store.intern] at hothers hnames ⊢
  cases hcase : store.lookup refid with
  | some id => exact ⟨rfl, h⟩
  | none =>
      simp only [hcase] at hothers hnames ⊢
      rw [h.size_eq]
      refine ⟨rfl, ?_, ?_, fun other => ?_, fun name => ?_, h.functions, h.files⟩
      · rw [h.entities, Array.map_push]
        rfl
      · rw [h.defined, Array.map_push]
        rfl
      · rw [hothers, Tables.lookup, Std.HashMap.getElem?_insert, ← h.lookup]
        exact if_congr beq_iff_eq rfl rfl
      · exact (h.findByName name).trans (hnames name).symm

lemma fill (h : tables.Represents store) (hstore : store.Coherent) {id : EntityId}
    (hrefid : store.refids[id.slot]? = some refid) (hfree : store.definition? id = none)
    (entity : Entity) : (tables.fill id entity).Represents (store.fill id refid entity) where
  entities := by
    rw [Tables.fill, h.entities, Store.fill, Array.map_setIfInBounds]
    rfl
  defined := by
    rw [Tables.fill, h.defined, Store.fill, Array.map_setIfInBounds]
    rfl
  lookup := fun other => (h.lookup other).trans (Store.lookup_fill hrefid entity other).symm
  findByName := by
    intro name
    rw [Store.findByName_fill hstore hrefid hfree, ← h.findByName, Tables.findByName,
      Tables.findByName, Tables.fill]
    by_cases hname : entity.name = ""
    · rw [if_pos hname, if_neg]
      rintro ⟨rfl, hne, -⟩
      exact hne hname
    · rw [if_neg hname, Std.HashMap.getElem?_insertIfNew]
      refine if_congr ?_ rfl rfl
      rw [beq_iff_eq, getElem?_eq_none_iff]
      constructor
      · rintro ⟨rfl, hnew⟩
        exact ⟨rfl, hname, hnew⟩
      · rintro ⟨rfl, -, hnew⟩
        exact ⟨rfl, hnew⟩
  functions := h.functions
  files := h.files

lemma install (h : tables.Represents store) (hstore : store.Coherent) (refid : String)
    (entity : Entity) :
    (tables.install refid entity).1 = (store.install refid entity).1 ∧
      (tables.install refid entity).2.Represents (store.install refid entity).2 := by
  obtain ⟨hid, hinterned⟩ := h.intern hstore refid
  rw [Tables.install_eq, Store.install_eq, hid, hinterned.isDefined, Store.isDefined_eq,
    Store.definition?_intern]
  split_ifs with hfree
  · exact ⟨rfl, hinterned⟩
  · have hopen : (store.intern refid).2.definition? (store.intern refid).1 = none := by
      rw [Store.definition?_intern]
      simpa using hfree
    exact ⟨rfl,
      hinterned.fill (hstore.intern refid) (store.getElem?_refids_intern refid) hopen entity⟩

lemma attach (h : tables.Represents store) (id : EntityId) (f : Routine) :
    (tables.attach id f).Represents (store.attach id f) where
  entities := by
    have hcomp : Slot.entity ∘ (·.attach f) = (fun entity => (entity.attach f).1) ∘ Slot.entity :=
      funext (·.entity_attach f)
    refine Array.ext_getElem? fun i => ?_
    rw [Tables.attach, h.entities, Store.attach, Array.getElem?_modify, Array.getElem?_map,
      Array.getElem?_map, Array.getElem?_modify, apply_ite (Option.map Slot.entity),
      Option.map_map, Option.map_map, hcomp]
  defined := by
    have hcomp : Slot.isDefined ∘ (·.attach f) = Slot.isDefined := funext (·.isDefined_attach f)
    refine Array.ext_getElem? fun i => ?_
    rw [Tables.attach, h.defined, Store.attach, Array.getElem?_map, Array.getElem?_map,
      Array.getElem?_modify, apply_ite (Option.map Slot.isDefined), Option.map_map, hcomp, ite_self]
  lookup := fun refid => (h.lookup refid).trans (store.lookup_attach id f refid).symm
  findByName := fun name => (h.findByName name).trans (store.findByName_attach id f name).symm
  functions := h.functions
  files := h.files

lemma addFile (h : tables.Represents store) (file : Declaration) :
    (tables.perform (.addFile file)).1 = (store.perform (.addFile file)).1 ∧
      (tables.perform (.addFile file)).2.Represents (store.perform (.addFile file)).2 := by
  have hlisted : tables.files.contains file.refid = true ↔
      file.refid ∈ store.files.map (·.refid) := by
    rw [Std.TreeMap.contains_iff_mem, Std.TreeMap.mem_iff_isSome_getElem?, Option.isSome_iff_exists]
    simp only [← Std.TreeMap.mem_toList_iff_getElem?_eq_some, h.mem_files, List.mem_map]
  rw [Tables.perform, Store.perform, Tables.addFile, Store.addFile_eq]
  by_cases hmem : file.refid ∈ store.files.map (·.refid)
  · rw [if_pos hmem, if_pos (hlisted.2 hmem)]
    exact ⟨rfl, h⟩
  · have hnew : ¬ tables.files.contains file.refid = true := fun hold => hmem (hlisted.1 hold)
    rw [if_neg hmem, if_neg hnew]
    refine ⟨rfl, h.entities, h.defined, h.lookup, h.findByName, h.functions, ?_⟩
    -- nothing is replaced in the table, since the reference id is new
    have hothers : tables.files.toList.filter (fun p => decide ¬ (file.refid == p.1) = true) =
        tables.files.toList := by
      refine List.filter_eq_self.2 fun p hp => ?_
      obtain ⟨hold, hkey⟩ := h.mem_files.1 hp
      rw [decide_eq_true_iff, beq_iff_eq]
      exact fun heq => hmem (heq ▸ hkey ▸ List.mem_map_of_mem hold)
    have hinserted := Std.TreeMap.toList_insert_perm (t := tables.files) (k := file.refid)
      (v := file)
    rw [hothers] at hinserted
    rw [List.map_append]
    exact hinserted.trans ((h.files.cons _).trans (List.perm_append_singleton _ _).symm)

/-- **One operation**: it has the same outcome for both, and they hold the same afterwards.  The
table of names needs the bookkeeping of the store to be right. -/
lemma perform (h : tables.Represents store) (hstore : store.Coherent) (op : Operation) :
    (tables.perform op).1 = (store.perform op).1 ∧
      (tables.perform op).2.Represents (store.perform op).2 := by
  cases op with
  | intern refid =>
      obtain ⟨hid, hinterned⟩ := h.intern hstore refid
      exact ⟨congrArg (Except.ok ∘ some) hid, hinterned⟩
  | define refid entity =>
      obtain ⟨hid, hinstalled⟩ := h.install hstore refid entity
      exact ⟨congrArg (Except.map some) hid, hinstalled⟩
  | attach id method => exact ⟨rfl, h.attach id method⟩
  | addFunction f =>
      exact ⟨rfl, h.entities, h.defined, h.lookup, h.findByName,
        congrArg (· ++ [f]) h.functions, h.files⟩
  | addFile file => exact h.addFile file

end Represents

/-! ## Runs -/

/-- Tables and store hold the same after every history that began with nothing, by induction from
its end. -/
lemma represents_after (history : List Operation) :
    (({} : Tables).after history).Represents (({} : Store).after history) := by
  induction history using List.reverseRecOn with
  | nil => exact .empty
  | append_singleton history op ih =>
      rw [Store.after_append, Tables.after, List.foldl_append]
      exact (ih.perform (Store.recounts_after history).coherent op).2

/-- Everything that can be asked of tables has the answer that the store gives, and so has every
operation that comes next. -/
structure Agree (tables : Tables) (store : Store) : Prop where
  size : tables.entities.size = store.size
  lookup : ∀ refid, tables.lookup refid = store.lookup refid
  findByName : ∀ name, tables.findByName name = store.findByName name
  entity? : ∀ id, tables.entity? id = store.entity? id
  isDefined : ∀ id, tables.isDefined id = store.isDefined id
  unresolved : tables.unresolved = store.unresolved
  sorted : tables.sorted = store.sorted
  functions : tables.functions = store.functions
  sortedFiles : tables.sortedFiles = store.sortedFiles
  outcome : ∀ op, (tables.perform op).1 = (store.perform op).1

/-- **Nobody can tell the tables from the store**: whatever was done to both, they answer alike, and
will do so after the next operation. -/
theorem agree_after (history : List Operation) :
    Agree (({} : Tables).after history) (({} : Store).after history) := by
  have h := represents_after history
  have hstore := (Store.recounts_after history).coherent
  exact {
    size := h.size_eq
    lookup := h.lookup
    findByName := h.findByName
    entity? := h.entity?
    isDefined := h.isDefined
    unresolved := h.unresolved hstore
    sorted := h.sorted
    functions := h.functions
    sortedFiles := h.sortedFiles
    outcome := fun op => (h.perform hstore op).1 }

end Tables

end FrameworkBindings
