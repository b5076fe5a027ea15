import FrameworkBindings.Proofs.Loading.Index
import FrameworkBindings.Proofs.Loading.Reachable
import FrameworkBindings.Proofs.Output.Relocation

/-!
# Loaders under other numbers

Two loaders that have loaded the same entries in different orders hold the same things, in other
slots and in other orders.

**The relation.**  `Loader.Renumbers σ l l'` says that `l'` is `l` with its slots renumbered by `σ`:
the definitions are the same up to their order, and functions of one name and waiting methods of one
receiver are the same in the same order.

**The second pass.**  It keeps the relation (`Renumbers.finish`), since an entity gets the waiting
methods of one receiver only (`Store.bound_of_mem_ordered`).

**Two orders.**  `Apart` is what entries must observe for the relation to hold, and
`renumbers_of_perm` says that then it does.

**What is compared.**  The lists of a loader are kept in order where the order is seen in the end
and not elsewhere.  The order of two waiting methods is seen only if they wait for the same
receiver, and that of two free functions only if they have the same name, since functions are sorted
by name before they are written.  `Renumbers` therefore compares these lists name by name.

**Where the numbers come from.**  An entry is described under any numbering (`entryEffect`,
`entityOf?`), and a numbering of one store gives one of the other (`NumberedBy.counterpart`).  So
both loaders are described by the same functions of the documents, and nothing is said about how
slots were handed out.
-/

namespace FrameworkBindings

open Document Loading

/-! ## Stores -/

namespace Store

variable {store : Store} {id : EntityId} {entity : Entity}

/-- What goes to an entity is what waits for its name, as no other entity has it.  An entity without
a name gets nothing. -/
lemma bound_of_mem_ordered (h : store.Consistent) (hnames : (store.ordered.map (·.2.name)).Nodup)
    (hmem : (id, entity) ∈ store.ordered) (functions : List Routine) :
    store.bound functions id =
      if entity.name = "" then [] else functions.filter (·.receiver = entity.name) := by
  have hfind : ∀ name, store.findByName name = some id ↔ name ≠ "" ∧ name = entity.name := by
    intro name
    rw [findByName_eq_some_iff h.toCoherent hnames]
    refine and_congr_right fun _ => ⟨?_, fun hname => ⟨entity, hmem, hname.symm⟩⟩
    rintro ⟨other, hother, rfl⟩
    have hdef := (mem_ordered h.toCoherent).1 hmem
    have hsame := ((mem_ordered h.toCoherent).1 hother).symm.trans hdef
    rw [Option.some.inj hsame]
  rw [bound]
  split
  · rename_i hname
    refine List.filter_eq_nil_iff.2 fun f _ => ?_
    rw [decide_eq_true_iff, hfind]
    rintro ⟨hreceiver, hsame⟩
    exact hreceiver (hsame.trans hname)
  · rename_i hname
    refine List.filter_congr fun f _ => decide_eq_decide.2 ?_
    rw [hfind]
    exact ⟨fun hfound => hfound.2, fun hsame => ⟨hsame ▸ hname, hsame⟩⟩

/-- A slot without a definition shows its reference id only, whatever is to be defined there. -/
lemma entity?_of_awaited (h : store.Consistent) {refid : String}
    (hrefid : store.refids[id.slot]? = some refid) (hdef : store.definition? id = none) :
    store.entity? id = some (.placeholder refid) := by
  rw [getElem?_refids, Option.map_eq_some_iff] at hrefid
  obtain ⟨slot, hslot, rfl⟩ := hrefid
  rw [definition?, hslot, Option.bind_some] at hdef
  have hfree : slot.isDefined = false := by rw [slot.isDefined_eq, hdef, Option.isSome_none]
  rw [entity?, hslot, h.bare id.slot slot hslot hfree]
  rfl

end Store

/-- What the second pass counts goes by names, and renumbering keeps them. -/
lemma Loading.settleCounts_rename {σ : EntityId → EntityId} (entity : Entity)
    (functions : List Routine) :
    settleCounts (entity.rename σ) (functions.map (·.rename σ)) =
      settleCounts entity functions := by
  rw [settleCounts, settleCounts, Entity.methods?_rename]
  cases entity.methods? with
  | none => simp only [Option.map_none, List.length_map]
  | some methods => simp only [Option.map_some, novel_rename, List.length_map]

namespace Loader

/-! ## The relation -/

/-- The second loader is the first one with its slots renumbered, up to what is not seen in the end.
Both are sound, so that both can be described from their documents. -/
structure Renumbers (σ : EntityId → EntityId) (l l' : Loader) : Prop where
  sound : l.Sound
  sound' : l'.Sound
  slots : ∀ id refid, l.store.refids[id.slot]? = some refid →
    l'.store.refids[(σ id).slot]? = some refid
  ordered : l'.store.ordered.Perm (l.store.ordered.map fun p => (σ p.1, p.2.rename σ))
  names : (l.store.ordered.map (·.2.name)).Nodup
  functions : ∀ name, l'.store.functions.filter (·.name = name) =
    (l.store.functions.filter (·.name = name)).map (·.rename σ)
  pending : ∀ receiver, l'.pending.filter (·.receiver = receiver) =
    (l.pending.filter (·.receiver = receiver)).map (·.rename σ)
  waiting : l'.pending.Perm (l.pending.map (·.rename σ))
  stats : l'.stats = l.stats

namespace Renumbers

variable {σ : EntityId → EntityId} {l l' : Loader}

/-- Slots are renumbered without collisions, as each keeps its reference id. -/
lemma slot_injective (h : Renumbers σ l l') {id other : EntityId} (hid : id.slot < l.store.size)
    (hother : other.slot < l.store.size) (hsame : σ id = σ other) : id = other := by
  rw [← Store.length_refids] at hid hother
  have hfirst := h.slots id _ (List.getElem?_eq_getElem hid)
  have hsecond := h.slots other _ (List.getElem?_eq_getElem hother)
  rw [hsame, hsecond, Option.some.injEq, h.sound.consistent.nodup.getElem_inj_iff] at hfirst
  cases id
  cases other
  exact congrArg EntityId.mk hfirst.symm

/-- The definitions of the second loader are those of the first under their new numbers. -/
lemma mem_ordered_iff (h : Renumbers σ l l') {p : EntityId × Entity} :
    p ∈ l'.store.ordered ↔ ∃ q ∈ l.store.ordered, (σ q.1, q.2.rename σ) = p := by
  rw [h.ordered.mem_iff, List.mem_map]

/-- Names are as distinct in the second loader as they are in the first. -/
lemma names_renumbered (h : Renumbers σ l l') : (l'.store.ordered.map (·.2.name)).Nodup := by
  have hsame : (l.store.ordered.map fun p => (σ p.1, p.2.rename σ)).map (·.2.name) =
      l.store.ordered.map (·.2.name) := by
    rw [List.map_map]
    exact List.map_congr_left fun p _ => p.2.name_rename σ
  rw [(h.ordered.map _).nodup_iff, hsame]
  exact h.names

/-- A name finds the same entity.  This needs that names are distinct: of two entities with one name
the first is found, and which one is first may change. -/
lemma findByName_renumbered (h : Renumbers σ l l') (name : String) :
    l'.store.findByName name = (l.store.findByName name).map σ := by
  refine Option.ext fun id' => ?_
  rw [Store.findByName_eq_some_iff h.sound'.consistent.toCoherent h.names_renumbered,
    Option.map_eq_some_iff]
  constructor
  · rintro ⟨hname, entity', hmem, rfl⟩
    obtain ⟨⟨id, entity⟩, hq, heq⟩ := h.mem_ordered_iff.1 hmem
    obtain ⟨rfl, rfl⟩ := Prod.mk.inj heq
    refine ⟨id, ?_, rfl⟩
    rw [Store.findByName_eq_some_iff h.sound.consistent.toCoherent h.names]
    exact ⟨hname, entity, hq, (entity.name_rename σ).symm⟩
  · rintro ⟨id, hfind, rfl⟩
    rw [Store.findByName_eq_some_iff h.sound.consistent.toCoherent h.names] at hfind
    obtain ⟨hname, entity, hmem, rfl⟩ := hfind
    exact ⟨hname, entity.rename σ, h.mem_ordered_iff.2 ⟨_, hmem, rfl⟩, entity.name_rename σ⟩

/-- A slot shows the same under its new number: the name that a type is written with, or nothing. -/
lemma sameFace (h : Renumbers σ l l') {id : EntityId} (hid : id.slot < l.store.size) :
    SameFace l.store l'.store id (σ id) := by
  rw [← Store.length_refids] at hid
  have hrefid := List.getElem?_eq_getElem hid
  have hrefid' := h.slots id _ hrefid
  generalize l.store.refids[id.slot] = refid at hrefid hrefid'
  have hback : ∀ entity', l'.store.definition? (σ id) = some entity' →
      ∃ entity, l.store.definition? id = some entity := by
    intro entity' hdef
    obtain ⟨⟨other, entity⟩, hmem, heq⟩ :=
      h.mem_ordered_iff.1 ((Store.mem_ordered h.sound'.consistent.toCoherent).2 hdef)
    obtain ⟨hslot, rfl⟩ := Prod.mk.inj heq
    have hother := (Store.mem_ordered h.sound.consistent.toCoherent).1 hmem
    rw [Store.length_refids] at hid
    rw [← h.slot_injective (Store.slot_lt_of_definition? hother) hid hslot]
    exact ⟨entity, hother⟩
  cases hdef : l.store.definition? id with
  | some entity =>
      have hmem := h.mem_ordered_iff.2
        ⟨_, (Store.mem_ordered h.sound.consistent.toCoherent).2 hdef, rfl⟩
      have hdef' := (Store.mem_ordered h.sound'.consistent.toCoherent).1 hmem
      refine .of_entity? (Store.entity?_of_definition? hdef) (Store.entity?_of_definition? hdef')
        (entity.head_rename σ) ?_
      cases entity <;> rfl
  | none =>
      have hdef' : l'.store.definition? (σ id) = none := by
        cases hfound : l'.store.definition? (σ id) with
        | none => rfl
        | some entity' =>
            obtain ⟨entity, hentity⟩ := hback entity' hfound
            rw [hdef] at hentity
            contradiction
      exact .of_entity? (Store.entity?_of_awaited h.sound.consistent hrefid hdef)
        (Store.entity?_of_awaited h.sound'.consistent hrefid' hdef') rfl rfl

/-! ## The second pass -/

/-- An entity gets the same methods, in the same order. -/
lemma bound_renumbered (h : Renumbers σ l l') {p : EntityId × Entity} (hp : p ∈ l.store.ordered) :
    l'.store.bound l'.pending (σ p.1) = (l.store.bound l.pending p.1).map (·.rename σ) := by
  have hp' := h.mem_ordered_iff.2 ⟨p, hp, rfl⟩
  rw [Store.bound_of_mem_ordered h.sound.consistent h.names hp,
    Store.bound_of_mem_ordered h.sound'.consistent h.names_renumbered hp', Entity.name_rename]
  split
  · rfl
  · exact h.pending p.2.name

/-- An entity is the same after the second pass, up to the slots in its members, since it gets the
same methods. -/
lemma settled_renumbered (h : Renumbers σ l l') {p : EntityId × Entity}
    (hp : p ∈ l.store.ordered) :
    l'.store.settled l'.pending (σ p.1) (p.2.rename σ) =
      (l.store.settled l.pending p.1 p.2).rename σ := by
  rw [Store.settled, Store.settled, h.bound_renumbered hp, ← extend_rename]
  rfl

/-- The second pass counts the same, entity by entity and for the methods that nobody takes. -/
lemma settlementOf_renumbered (h : Renumbers σ l l') :
    l'.store.settlementOf l'.pending = l.store.settlementOf l.pending := by
  have hsum : (l'.store.ordered.map fun p => settleCounts p.2 (l'.store.bound l'.pending p.1)).sum =
      (l.store.ordered.map fun p => settleCounts p.2 (l.store.bound l.pending p.1)).sum := by
    rw [(h.ordered.map _).sum_eq, List.map_map]
    refine congrArg List.sum (List.map_congr_left fun p hp => ?_)
    rw [Function.comp_apply, h.bound_renumbered hp, settleCounts_rename]
  have horphans : (l'.store.orphans l'.pending).length = (l.store.orphans l.pending).length := by
    have hsame : (l.pending.map (·.rename σ)).filter
        (fun f => decide (l'.store.findByName f.receiver = none)) =
          (l.store.orphans l.pending).map (·.rename σ) := by
      rw [List.filter_map, Store.orphans]
      refine congrArg (List.map _) (List.filter_congr fun f _ => decide_eq_decide.2 ?_)
      rw [h.findByName_renumbered, Option.map_eq_none_iff]
      rfl
    rw [Store.orphans, (h.waiting.filter _).length_eq, hsame, List.length_map]
  rw [Store.settlementOf, Store.settlementOf, hsum, horphans]

/-- **The second pass keeps the relation**, with the same renumbering. -/
theorem finish (h : Renumbers σ l l') : Renumbers σ l.finish l'.finish where
  sound := h.sound.finish
  sound' := h.sound'.finish
  slots := by
    rw [l.store_finish, l'.store_finish, Store.refids_mapEntities,
      Store.refids_mapEntities]
    exact h.slots
  ordered := by
    rw [l.store_finish, l'.store_finish, Store.ordered_mapEntities, Store.ordered_mapEntities,
      List.map_map]
    refine (h.ordered.map _).trans ?_
    rw [List.map_map]
    refine List.Perm.of_eq (List.map_congr_left fun p hp => ?_)
    exact Prod.ext rfl (h.settled_renumbered hp)
  names := by
    have hsame : (l.store.ordered.map fun p =>
        (p.1, l.store.settled l.pending p.1 p.2)).map (·.2.name) =
          l.store.ordered.map (·.2.name) := by
      rw [List.map_map]
      exact List.map_congr_left fun p _ => p.2.name_extend
    rw [l.store_finish, Store.ordered_mapEntities, hsame]
    exact h.names
  functions := by
    rw [l.store_finish, l'.store_finish]
    exact h.functions
  pending := by simp [pending_finish]
  waiting := by simp [pending_finish]
  stats := by
    rw [l.stats_finish h.sound.consistent, l'.stats_finish h.sound'.consistent, h.stats,
      h.settlementOf_renumbered]

end Renumbers

/-- A whole index keeps the invariant of loaders, as each of its entries does. -/
lemma Sound.loadIndex {l : Loader} (h : Sound l)
    (decode : IndexEntry → Except LoadError Compound) (es : List IndexEntry) :
    Sound (loadIndex (m := Id) decode l es).2 := by
  induction es generalizing l with
  | nil => exact h
  | cons entry rest ih =>
      cases hdecode : decode entry with
      | error e =>
          rw [loadIndex_of_undecoded l rest hdecode]
          exact h
      | ok compound =>
          have hnext := h.loadEntry entry compound
          cases hentry : l.loadEntry entry compound with | mk result l'
          rw [hentry] at hnext
          cases result with
          | error e =>
              rw [loadIndex_of_refused rest hdecode hentry]
              exact hnext
          | ok _ =>
              rw [loadIndex_of_loaded rest hdecode hentry]
              exact ih hnext

end Loader

/-! ## Pieces of lists -/

section Lists

variable {α β : Type} {l l' : List α} {pieces : α → List β}

/-- Pieces of which at most one is not empty are put together in any order. -/
lemma flatMap_eq_of_perm (hperm : l.Perm l')
    (hpairs : l.Pairwise fun a b => pieces a = [] ∨ pieces b = []) :
    l.flatMap pieces = l'.flatMap pieces := by
  induction hperm with
  | nil => rfl
  | cons a _ ih => rw [List.flatMap_cons, List.flatMap_cons, ih (List.pairwise_cons.1 hpairs).2]
  | swap a b l =>
      rcases (List.pairwise_cons.1 hpairs).1 a (List.mem_cons_self ..) with hb | ha
      · simp only [List.flatMap_cons, hb, List.nil_append]
      · simp only [List.flatMap_cons, ha, List.nil_append]
  | trans hfirst _ ih ih' => exact (ih hpairs).trans (ih' (hfirst.pairwise hpairs Or.symm))

/-- Of pieces without common keys, those of one key are put together in any order. -/
lemma filter_flatMap_eq_of_perm {κ : Type} [DecidableEq κ] {key : β → κ} (hperm : l.Perm l')
    (hpairs : l.Pairwise fun a b => ∀ x ∈ pieces a, ∀ y ∈ pieces b, key x ≠ key y) (k : κ) :
    (l.flatMap pieces).filter (key · = k) = (l'.flatMap pieces).filter (key · = k) := by
  rw [List.filter_flatMap, List.filter_flatMap]
  refine flatMap_eq_of_perm hperm (hpairs.imp fun {a b} hapart => ?_)
  rw [List.filter_eq_nil_iff, List.filter_eq_nil_iff, or_iff_not_imp_left]
  intro hsome y hy hkey
  simp only [not_forall, not_not] at hsome
  obtain ⟨x, hx, hkey'⟩ := hsome
  exact hapart x hx y hy ((of_decide_eq_true hkey').trans (of_decide_eq_true hkey).symm)

/-- Whether keys are apart depends on the keys only, so it may be asked under any numbering. -/
lemma forall_key_ne_of_map_eq {κ : Type} {key : β → κ} {l l' m m' : List β}
    (hl : l.map key = l'.map key) (hm : m.map key = m'.map key)
    (hapart : ∀ x ∈ l', ∀ y ∈ m', key x ≠ key y) : ∀ x ∈ l, ∀ y ∈ m, key x ≠ key y := by
  intro x hx y hy
  obtain ⟨x', hx', hkey⟩ := List.mem_map.1 (hl ▸ List.mem_map_of_mem hx)
  obtain ⟨y', hy', hkey'⟩ := List.mem_map.1 (hm ▸ List.mem_map_of_mem hy)
  rw [← hkey, ← hkey']
  exact hapart x' hx' y' hy'

end Lists

/-! ## Two orders -/

namespace Store

variable {store other : Store}

/-- The slot in another store of the reference id that has a slot in this one.  It is the
renumbering between two loaders of the same entries. -/
def counterpart (store other : Store) (id : EntityId) : EntityId :=
  other.numbering (store.refids[id.slot]?.getD "")

/-- The counterpart is the slot of the same reference id. -/
lemma lookup_counterpart (h : ∀ refid, refid ∈ other.refids ↔ refid ∈ store.refids)
    {id : EntityId} {refid : String} (hrefid : store.refids[id.slot]? = some refid) :
    other.lookup refid = some (store.counterpart other id) := by
  obtain ⟨id', hid'⟩ := exists_lookup_of_mem ((h refid).2 (List.mem_of_getElem? hrefid))
  have hcounterpart : store.counterpart other id = id' := by
    rw [counterpart, hrefid, Option.getD_some]
    exact other.numberedBy_numbering refid id' hid'
  rw [hid', hcounterpart]

/-- A numbering of one store gives one of the other, through the reference ids that both know. -/
lemma NumberedBy.counterpart {ν : String → EntityId} (hν : store.NumberedBy ν)
    (h : ∀ refid, refid ∈ other.refids ↔ refid ∈ store.refids) :
    other.NumberedBy fun refid => store.counterpart other (ν refid) := by
  intro refid id' hid'
  have hmem := (h refid).1 (List.mem_of_getElem? (getElem?_refids_of_lookup hid'))
  obtain ⟨id, hid⟩ := exists_lookup_of_mem hmem
  have hfound := lookup_counterpart h (getElem?_refids_of_lookup hid)
  have hnumber := hν refid id hid
  subst hnumber
  exact Option.some.inj (hfound.symm.trans hid')

end Store

namespace Loading

/-- The name under which an entry defines an entity, if it defines one. -/
def objectName? (entry : IndexEntry) : Option String :=
  match entry.compoundKind with
  | .struct | .interface | .objectClass | .union => some entry.name
  | .protocol => some (protocolName entry.name)
  | .file | .other => none

/-- The entity that an entry defines has this name, whatever its sections say. -/
lemma name_entityOf? (ν : String → EntityId) (entry : IndexEntry) (compound : Compound) :
    (entityOf? ν entry compound).map (·.name) = objectName? entry := by
  rw [entityOf?, Option.map_map]
  have hname : (blank? entry compound).map (·.name) = objectName? entry := by
    rw [blank?, objectName?]
    cases entry.compoundKind <;> rfl
  rw [← hname]
  exact Option.map_congr fun entity _ => entity.name_extend

end Loading

/-- The loader that has loaded one entry and nothing else: what an entry brings can be seen
there. -/
def Loader.alone (decode : IndexEntry → Except LoadError Compound) (entry : IndexEntry) : Loader :=
  (loadIndex (m := Id) decode {} [entry]).2

/-- Two entries that stay out of each other's way: they define no entities of one name, let no
methods of one receiver wait, and declare no free functions of one name. -/
structure Apart (decode : IndexEntry → Except LoadError Compound) (a b : IndexEntry) : Prop where
  names : ∀ name, objectName? a = some name → objectName? b ≠ some name
  receivers : ∀ f ∈ (Loader.alone decode a).pending, ∀ g ∈ (Loader.alone decode b).pending,
    f.receiver ≠ g.receiver
  functions : ∀ f ∈ (Loader.alone decode a).store.functions,
    ∀ g ∈ (Loader.alone decode b).store.functions, f.name ≠ g.name

namespace Loading

variable {decode : IndexEntry → Except LoadError Compound} {es es' : List IndexEntry}

/-- What is not a slot is the same under all numberings. -/
lemma entryEffect_same (ν ν' : String → EntityId) (entry : IndexEntry) (compound : Compound) :
    (entryEffect ν entry compound).waiting.map (·.receiver) =
        (entryEffect ν' entry compound).waiting.map (·.receiver) ∧
      (entryEffect ν entry compound).free.map (·.name) =
        (entryEffect ν' entry compound).free.map (·.name) ∧
      (entryEffect ν entry compound).counts = (entryEffect ν' entry compound).counts := by
  -- both become the same when all slots are given one number
  have hflat : ∀ ν, entryEffect (fun _ => ⟨0⟩) entry compound =
      (entryEffect ν entry compound).rename fun _ => ⟨0⟩ := fun ν =>
    entryEffect_rename (ν := ν) (σ := fun _ => ⟨0⟩) entry compound
  have hsame := (hflat ν).symm.trans (hflat ν')
  refine ⟨?_, ?_, ?_⟩
  · have hwaiting := congrArg (fun e : Effect => e.waiting.map (·.receiver)) hsame
    simp only [Effect.rename, List.map_map] at hwaiting
    exact hwaiting
  · have hfree := congrArg (fun e : Effect => e.free.map (·.name)) hsame
    simp only [Effect.rename, List.map_map] at hfree
    exact hfree
  · have hcounts := congrArg (fun e : Effect => e.counts) hsame
    exact hcounts

/-- What an entry brings to any store is what it brings alone, up to slots. -/
lemma describes_alone (h : Loadable decode es) {entry : IndexEntry} (hentry : entry ∈ es) :
    Describes decode [entry] (Loader.alone decode entry) := by
  have hone : Loadable decode [entry] := by
    refine ⟨?_, ?_, ?_, ?_⟩
    · intro other hother
      rw [List.mem_singleton.1 hother]
      exact h.decodes entry hentry
    · intro other hother
      rw [List.mem_singleton.1 hother]
      exact h.fits entry hentry
    · cases hblank : blank? entry (documentOf decode entry) <;> simp [hblank]
    · cases hfile : fileOf? entry (documentOf decode entry) <;> simp [hfile]
  obtain ⟨l, hl⟩ := Loader.loadIndex_ok_iff.2 hone
  have hdescribes := Loader.describes_of_loadIndex hl
  rw [Loader.alone, hl]
  exact hdescribes

/-- Methods wait for the same receivers whether an entry is loaded alone or among others. -/
lemma receivers_alone (h : Loadable decode es) (ν : String → EntityId) {entry : IndexEntry}
    (hentry : entry ∈ es) :
    (entryEffect ν entry (documentOf decode entry)).waiting.map (·.receiver) =
      (Loader.alone decode entry).pending.map (·.receiver) := by
  rw [(describes_alone h hentry).pending _ (Store.numberedBy_numbering _), List.flatMap_singleton]
  exact (entryEffect_same ν _ entry _).1

/-- Free functions have the same names whether an entry is loaded alone or among others. -/
lemma functions_alone (h : Loadable decode es) (ν : String → EntityId) {entry : IndexEntry}
    (hentry : entry ∈ es) :
    (entryEffect ν entry (documentOf decode entry)).free.map (·.name) =
      (Loader.alone decode entry).store.functions.map (·.name) := by
  rw [(describes_alone h hentry).functions _ (Store.numberedBy_numbering _),
    List.flatMap_singleton]
  exact (entryEffect_same ν _ entry _).2.1

/-- Entries that are apart when they are loaded alone let no methods of one receiver wait in a
run. -/
lemma receivers_apart (h : Loadable decode es) (ν : String → EntityId) {a b : IndexEntry}
    (ha : a ∈ es) (hb : b ∈ es) (hapart : Apart decode a b) :
    ∀ f ∈ (entryEffect ν a (documentOf decode a)).waiting,
      ∀ g ∈ (entryEffect ν b (documentOf decode b)).waiting, f.receiver ≠ g.receiver :=
  forall_key_ne_of_map_eq (receivers_alone h ν ha) (receivers_alone h ν hb) hapart.receivers

/-- Entries that are apart when they are loaded alone declare no free functions of one name in a
run. -/
lemma functions_apart (h : Loadable decode es) (ν : String → EntityId) {a b : IndexEntry}
    (ha : a ∈ es) (hb : b ∈ es) (hapart : Apart decode a b) :
    ∀ f ∈ (entryEffect ν a (documentOf decode a)).free,
      ∀ g ∈ (entryEffect ν b (documentOf decode b)).free, f.name ≠ g.name :=
  forall_key_ne_of_map_eq (functions_alone h ν ha) (functions_alone h ν hb) hapart.functions

/-- **Two orders of the same entries make the same store, up to the numbers of slots.**  The
renumbering is by reference ids, and each part of the relation is read off the documents. -/
theorem renumbers_of_perm {l l' : Loader} (hperm : es.Perm es')
    (hapart : es.Pairwise (Apart decode)) (hloadable : Loadable decode es)
    (h : Describes decode es l) (h' : Describes decode es' l') (hsound : l.Sound)
    (hsound' : l'.Sound) : ∃ σ, l.Renumbers σ l' := by
  have hrefids : ∀ refid, refid ∈ l'.store.refids ↔ refid ∈ l.store.refids := by
    intro refid
    rw [h.mem_refids, h'.mem_refids]
    simp only [hperm.mem_iff]
  have hν := l.store.numberedBy_numbering
  generalize l.store.numbering = ν at hν
  have hν' := hν.counterpart hrefids
  have hslots : ∀ id refid, l.store.refids[id.slot]? = some refid →
      l'.store.lookup refid = some (l.store.counterpart l'.store id) := fun id refid =>
    Store.lookup_counterpart hrefids
  generalize l.store.counterpart l'.store = σ at hν' hslots
  have hfree : l'.store.functions = (es'.flatMap fun entry =>
      (entryEffect ν entry (documentOf decode entry)).free).map (·.rename σ) := by
    rw [h'.functions _ hν', List.map_flatMap]
    exact List.flatMap_congr fun entry _ => congrArg Effect.free (entryEffect_rename entry _)
  have hwaiting : l'.pending = (es'.flatMap fun entry =>
      (entryEffect ν entry (documentOf decode entry)).waiting).map (·.rename σ) := by
    rw [h'.pending _ hν', List.map_flatMap]
    exact List.flatMap_congr fun entry _ => congrArg Effect.waiting (entryEffect_rename entry _)
  refine ⟨σ, hsound, hsound', ?_, ?_, ?_, ?_, ?_, ?_, ?_⟩
  · exact fun id refid hrefid => Store.getElem?_refids_of_lookup (hslots id refid hrefid)
  · rw [h.ordered ν hν, h'.ordered _ hν', List.map_filterMap]
    refine (hperm.symm.filterMap _).trans (List.Perm.of_eq (List.filterMap_congr fun entry _ => ?_))
    rw [entityOf?_rename, Option.map_map, Option.map_map]
    refine Option.map_congr fun entity _ => Prod.ext ?_ rfl
    exact congrArg (fun refid => σ (ν refid)) (congrArg Declaration.refid (entity.head_rename σ))
  · have hnames : l.store.ordered.map (·.2.name) = es.filterMap objectName? := by
      rw [h.ordered ν hν, List.map_filterMap]
      refine List.filterMap_congr fun entry _ => ?_
      rw [← name_entityOf? ν entry (documentOf decode entry), Option.map_map]
      rfl
    rw [hnames, List.Nodup, List.pairwise_filterMap]
    refine hapart.imp fun {a b} hab name hname name' hname' hsame => ?_
    exact hab.names name hname (hsame ▸ hname')
  · intro name
    rw [h.functions ν hν, hfree, List.filter_map]
    refine congrArg (List.map _) (filter_flatMap_eq_of_perm hperm ?_ name).symm
    exact hapart.imp_of_mem fun ha hb hab => functions_apart hloadable ν ha hb hab
  · intro receiver
    rw [h.pending ν hν, hwaiting, List.filter_map]
    refine congrArg (List.map _) (filter_flatMap_eq_of_perm hperm ?_ receiver).symm
    exact hapart.imp_of_mem fun ha hb hab => receivers_apart hloadable ν ha hb hab
  · rw [h.pending ν hν, hwaiting]
    exact (hperm.symm.flatMap_right _).map _
  · rw [h.stats ν hν, h'.stats _ hν', ((hperm.map _).sum_eq)]
    exact congrArg List.sum (List.map_congr_left fun entry _ => (entryEffect_same _ _ entry _).2.2)

end Loading

end FrameworkBindings
