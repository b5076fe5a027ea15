import FrameworkBindings.Proofs.Store.Slots
import FrameworkBindings.Proofs.Store.Sorting

/-!
# The definitions of a store

What a store has been told, seen as a list: `Store.ordered` is every defined entity with its slot,
in the order of the definitions.  All views of a store are views of this list.

* `Store.Coherent` — no reference id has two slots, and `order` lists the defined slots once each.
  Every operation keeps this.
* `Store.Consistent` — moreover, definitions are in the slots of their own reference ids and no
  method came before its entity.  `Consistent.define`, ... — loading keeps this.
* `ordered_of_define` — what a definition does to the list.
* `findByName_eq`, `sorted_eq` — the views by name and by Go name.
* `mapEntities` — a store whose entities are rewritten in place.
* `NumberedBy` — a function that gives every reference id of a store its slot.

**Two invariants.**  A store can be used in ways that loading never does: an entity may be installed
under another reference id, and a method may be given to a slot that is still awaited.  What holds
all the same is in `Coherent`, and it is enough for lookups and for the order of definitions.  What
holds only of stores that were loaded is added in `Consistent`; that two definitions have different
reference ids, and so can be sorted without ties, needs it.

**Numberings.**  Two loads that meet the same entries in different orders give the same reference
ids different slots.  A function from reference ids to slots that is right for a store lets both be
compared: it does not change while the store grows.
-/

namespace FrameworkBindings

/-- The slot with another entity, once there is one; what is awaited stays as it is. -/
def Slot.map (f : Entity → Entity) : Slot → Slot
  | undefined refid methods => undefined refid methods
  | defined entity refid => defined (f entity) refid

namespace Store

/-- The defined entities with their slots, in order of definition, which no later definition
changes. -/
def ordered (store : Store) : List (EntityId × Entity) :=
  store.order.filterMap fun id => (store.definition? id).map fun entity => (id, entity)

/-- The bookkeeping of a store is right: reference ids have one slot each, and the order lists just
what is defined. -/
structure Coherent (store : Store) : Prop where
  nodup : store.refids.Nodup
  mem_order : ∀ id, id ∈ store.order ↔ (store.definition? id).isSome = true
  order_nodup : store.order.Nodup

/-- The store has been filled with definitions under their own reference ids, as loading does. -/
structure Consistent (store : Store) : Prop extends Coherent store where
  /-- A definition is in the slot of its reference id. -/
  own : ∀ id entity, store.definition? id = some entity →
    store.refids[id.slot]? = some entity.refid
  /-- Of what has not been defined nothing but the reference id is known. -/
  bare : ∀ (i : ℕ) (slot : Slot), store.slots[i]? = some slot → slot.isDefined = false →
    slot = .awaited slot.refid

variable {store : Store} {id : EntityId} {entity : Entity}

/-! ## What keeps a store coherent -/

namespace Coherent

lemma empty : Coherent {} where
  nodup := List.nodup_nil
  mem_order := by simp [definition?]
  order_nodup := List.nodup_nil

/-- Functions and files play no part. -/
lemma of_slots {other : Store} (h : store.Coherent) (hslots : other.slots = store.slots)
    (horder : other.order = store.order) : other.Coherent where
  nodup := by rw [refids, hslots]; exact h.nodup
  mem_order := by
    intro id
    rw [horder, definition?, hslots]
    exact h.mem_order id
  order_nodup := by rw [horder]; exact h.order_nodup

lemma intern (h : store.Coherent) (refid : String) : (store.intern refid).2.Coherent where
  nodup := by
    rw [refids_intern]
    split_ifs with hmem
    · exact h.nodup
    · rw [List.nodup_append]
      refine ⟨h.nodup, List.nodup_singleton _, ?_⟩
      rintro r hr _ hs rfl
      rw [List.mem_singleton] at hs
      exact hmem (hs ▸ hr)
  mem_order := by
    intro id
    rw [definition?_intern, intern_frame]
    exact h.mem_order id
  order_nodup := by
    rw [intern_frame]
    exact h.order_nodup

/-- A slot that carries the reference id and is free can be filled. -/
lemma fill (h : store.Coherent) {refid : String} (hrefid : store.refids[id.slot]? = some refid)
    (hfree : store.definition? id = none) (entity : Entity) :
    (store.fill id refid entity).Coherent where
  nodup := by
    rw [refids_fill hrefid]
    exact h.nodup
  mem_order := by
    intro other
    have hlt : id.slot < store.size := by
      rw [← length_refids]
      exact (List.getElem?_eq_some_iff.1 hrefid).1
    rw [definition?_fill hlt, Store.fill, List.mem_append, List.mem_singleton, h.mem_order]
    split_ifs with hother
    · simp [hother]
    · simp [hother]
  order_nodup := by
    rw [Store.fill, List.nodup_append]
    refine ⟨h.order_nodup, List.nodup_singleton _, ?_⟩
    rintro other hother _ hid rfl
    rw [List.mem_singleton] at hid
    rw [h.mem_order, hid, hfree] at hother
    contradiction

lemma install (h : store.Coherent) (refid : String) (entity : Entity) :
    (store.install refid entity).2.Coherent := by
  rw [install_eq]
  split_ifs with hsome
  · exact h.intern refid
  · refine (h.intern refid).fill (store.getElem?_refids_intern refid) ?_ entity
    rw [definition?_intern]
    simpa using hsome

lemma attach (h : store.Coherent) (id : EntityId) (f : Routine) :
    (store.attach id f).Coherent where
  nodup := by
    rw [refids_attach]
    exact h.nodup
  mem_order := by
    intro other
    rw [definition?_attach]
    refine (h.mem_order other).trans ?_
    split_ifs <;> simp
  order_nodup := h.order_nodup

end Coherent

namespace Consistent

lemma empty : Consistent {} where
  toCoherent := .empty
  own := by simp [definition?]
  bare := by simp

/-- Functions and files play no part. -/
lemma of_slots {other : Store} (h : store.Consistent) (hslots : other.slots = store.slots)
    (horder : other.order = store.order) : other.Consistent where
  toCoherent := h.toCoherent.of_slots hslots horder
  own := by
    intro id entity
    rw [refids, definition?, hslots]
    exact h.own id entity
  bare := by
    rw [hslots]
    exact h.bare

lemma intern (h : store.Consistent) (refid : String) : (store.intern refid).2.Consistent where
  toCoherent := h.toCoherent.intern refid
  own := by
    intro id entity hdef
    rw [definition?_intern] at hdef
    obtain ⟨behind, hbehind⟩ := store.prefix_intern refid
    have hown := h.own id entity hdef
    rwa [← hbehind, List.getElem?_append_left (List.getElem?_eq_some_iff.1 hown).1]
  bare := by
    intro i slot hslot hfree
    rcases store.getElem?_slots_intern refid i with hold | ⟨_, hnew⟩
    · exact h.bare i slot (hold ▸ hslot) hfree
    · obtain rfl : Slot.awaited refid = slot := Option.some.inj (hnew.symm.trans hslot)
      rfl

lemma mention (h : store.Consistent) (refids : List String) :
    (store.mention refids).Consistent := by
  induction refids generalizing store with
  | nil => exact h
  | cons refid refids ih => exact ih (h.intern refid)

lemma define (h : store.Consistent) {after : Store} (hdef : store.define entity = .ok (id, after)) :
    after.Consistent where
  toCoherent := by
    have hinstall := h.toCoherent.install entity.refid entity
    rwa [install_of_define hdef] at hinstall
  own := by
    intro other found hfound
    rw [refids_of_define hdef]
    rw [definition?_of_define hdef] at hfound
    split_ifs at hfound with hother
    · cases hfound
      rw [hother, (id_of_define hdef).1]
      exact store.getElem?_refids_intern entity.refid
    · exact (h.intern entity.refid).own other found (by rwa [definition?_intern])
  bare := by
    rw [define_eq] at hdef
    split_ifs at hdef
    cases hdef
    intro i slot hslot hfree
    rw [fill, Array.getElem?_setIfInBounds] at hslot
    split_ifs at hslot
    · cases hslot
      contradiction
    · exact (h.intern entity.refid).bare i slot hslot hfree

end Consistent

/-! ## The list of definitions -/

/-- The list depends on the order and on what the slots hold, and on nothing else. -/
lemma ordered_congr {other : Store} (horder : other.order = store.order)
    (hdef : ∀ id, other.definition? id = store.definition? id) : other.ordered = store.ordered := by
  simp only [ordered, horder, hdef]

lemma ordered_intern (store : Store) (refid : String) :
    (store.intern refid).2.ordered = store.ordered :=
  ordered_congr (by rw [intern_frame]) (store.definition?_intern refid)

lemma ordered_mention (store : Store) (refids : List String) :
    (store.mention refids).ordered = store.ordered :=
  ordered_congr (by rw [mention_frame]) (store.definition?_mention refids)

/-- The list holds what the slots hold, neither more nor less. -/
lemma mem_ordered (h : store.Coherent) :
    (id, entity) ∈ store.ordered ↔ store.definition? id = some entity := by
  simp only [ordered, List.mem_filterMap, Option.map_eq_some_iff, Prod.mk.injEq]
  constructor
  · rintro ⟨_, _, _, hdef, rfl, rfl⟩
    exact hdef
  · intro hdef
    exact ⟨id, (h.mem_order id).2 (by simp [hdef]), entity, hdef, rfl, rfl⟩

lemma map_fst_ordered (h : store.Coherent) : store.ordered.map Prod.fst = store.order := by
  have hall : ∀ ids : List EntityId, (∀ id ∈ ids, (store.definition? id).isSome = true) →
      (ids.filterMap fun id => (store.definition? id).map fun entity => (id, entity)).map Prod.fst
        = ids := by
    intro ids hids
    induction ids with
    | nil => rfl
    | cons id ids ih =>
        obtain ⟨entity, hentity⟩ := Option.isSome_iff_exists.1 (hids id (by simp))
        rw [List.filterMap_cons, hentity, Option.map_some, List.map_cons,
          ih fun other hother => hids other (by simp [hother])]
  exact hall store.order fun id hid => (h.mem_order id).1 hid

lemma ordered_nodup (h : store.Coherent) : store.ordered.Nodup :=
  List.Nodup.of_map Prod.fst (by rw [map_fst_ordered h]; exact h.order_nodup)

/-- Different definitions have different reference ids, since each is in the slot of its own. -/
lemma eq_of_refid_eq (h : store.Consistent) {a b : EntityId × Entity} (ha : a ∈ store.ordered)
    (hb : b ∈ store.ordered) (hrefid : a.2.refid = b.2.refid) : a = b := by
  obtain ⟨id, entity⟩ := a
  obtain ⟨other, entity'⟩ := b
  have hdef := (mem_ordered h.toCoherent).1 ha
  have hdef' := (mem_ordered h.toCoherent).1 hb
  have hid := (lookup_eq_some_iff h.nodup).2 (h.own id entity hdef)
  have hother := (lookup_eq_some_iff h.nodup).2 (h.own other entity' hdef')
  rw [show entity.refid = entity'.refid from hrefid, hother] at hid
  obtain rfl : other = id := Option.some.inj hid
  rw [Option.some.inj (hdef.symm.trans hdef')]

/-- A reference id is taken if one of the definitions has it. -/
lemma isSome_definition?_intern (h : store.Consistent) (refid : String) :
    (store.definition? (store.intern refid).1).isSome = true ↔
      refid ∈ store.ordered.map (·.2.refid) := by
  rw [Option.isSome_iff_exists, List.mem_map]
  constructor
  · rintro ⟨entity, hentity⟩
    refine ⟨((store.intern refid).1, entity), (mem_ordered h.toCoherent).2 hentity, ?_⟩
    have hslot := (h.intern refid).own _ entity (by rw [definition?_intern]; exact hentity)
    rw [store.getElem?_refids_intern refid] at hslot
    exact (Option.some.inj hslot).symm
  · rintro ⟨⟨id, entity⟩, hmem, rfl⟩
    have hentity := (mem_ordered h.toCoherent).1 hmem
    have hid := (lookup_eq_some_iff h.nodup).2 (h.own id entity hentity)
    exact ⟨entity, by rw [intern, hid]; exact hentity⟩

/-- Filling a free slot comes behind the other definitions, even if the slot is older than
theirs. -/
lemma ordered_fill (h : store.Coherent) {refid : String} (hlt : id.slot < store.size)
    (hfree : store.definition? id = none) (entity : Entity) :
    (store.fill id refid entity).ordered = store.ordered ++ [(id, entity)] := by
  have hold : ∀ other ∈ store.order,
      (store.fill id refid entity).definition? other = store.definition? other := by
    intro other hother
    rw [definition?_fill hlt, if_neg]
    rintro rfl
    rw [h.mem_order, hfree] at hother
    contradiction
  have horder : (store.fill id refid entity).order = store.order ++ [id] := rfl
  rw [ordered, horder, List.filterMap_append]
  congr 1
  · exact List.filterMap_congr fun other hother => by rw [hold other hother]
  · simp [definition?_fill hlt]

/-- A definition comes behind the others and changes none of them. -/
lemma ordered_of_define (h : store.Coherent) {after : Store}
    (hdef : store.define entity = .ok (id, after)) :
    after.ordered = store.ordered ++ [(id, entity)] := by
  obtain ⟨rfl, hfree⟩ := id_of_define hdef
  rw [define_eq] at hdef
  split_ifs at hdef
  cases hdef
  rw [ordered_fill (h.intern entity.refid) (store.slot_intern_lt entity.refid)
    (by rw [definition?_intern, hfree]) entity, ordered_intern]

/-! ## Views -/

lemma mem_definitions : (id, entity) ∈ store.definitions ↔ store.definition? id = some entity := by
  rw [definition?_eq_some_iff]
  simp only [definitions, List.mem_filterMap, Prod.exists]
  constructor
  · rintro ⟨slot, i, hmem, heq⟩
    cases slot with
    | undefined refid methods => simp at heq
    | defined found refid =>
        obtain ⟨rfl, rfl⟩ : (⟨i⟩ : EntityId) = id ∧ found = entity := by simpa using heq
        exact ⟨refid, by simpa using List.mem_zipIdx_iff_getElem?.1 hmem⟩
  · rintro ⟨refid, h⟩
    refine ⟨.defined entity refid, id.slot, List.mem_zipIdx_iff_getElem?.2 (by simpa using h), ?_⟩
    simp

lemma definitions_pairwise (store : Store) :
    store.definitions.Pairwise fun p q => p.1.slot < q.1.slot := by
  have hplaces : store.slots.toList.zipIdx.Pairwise fun p q => p.2 < q.2 := by
    rw [← List.pairwise_map (f := Prod.snd) (R := (· < ·)), List.zipIdx_map_snd]
    exact List.pairwise_lt_range'
  rw [definitions, List.pairwise_filterMap]
  refine hplaces.imp ?_
  rintro ⟨slot, i⟩ ⟨slot', i'⟩ hlt p hp q hq
  cases slot <;> cases slot' <;> simp at hp hq
  subst hp hq
  exact hlt

lemma definitions_nodup (store : Store) : store.definitions.Nodup :=
  store.definitions_pairwise.imp fun hlt heq => absurd (heq ▸ hlt) (Nat.lt_irrefl _)

/-- The definitions by slot are those by order of definition, differently arranged. -/
lemma definitions_perm (h : store.Coherent) : store.definitions.Perm store.ordered := by
  rw [List.perm_ext_iff_of_nodup store.definitions_nodup (ordered_nodup h)]
  rintro ⟨id, entity⟩
  rw [mem_definitions, mem_ordered h]

/-- Sorting does not care how the definitions are listed, as no two of them tie. -/
lemma sorted_eq (h : store.Consistent) : store.sorted = store.ordered.mergeSort entityLe := by
  refine mergeSort_eq_of_perm entityLe_trans entityLe_total (fun a ha b hb hab hba => ?_)
    (definitions_perm h.toCoherent)
  have hperm := definitions_perm h.toCoherent
  exact eq_of_refid_eq h (hperm.mem_iff.1 ha) (hperm.mem_iff.1 hb)
    (refid_eq_of_entityLe hab hba)

/-- The first definition of a name is found; an empty name finds nothing, even if an entity has
none. -/
lemma findByName_eq (h : store.Coherent) (name : String) :
    store.findByName name = if name = "" then none
      else (store.ordered.find? fun p => p.2.name == name).map Prod.fst := by
  have hall : ∀ ids : List EntityId, (∀ id ∈ ids, (store.definition? id).isSome = true) →
      ids.find? (fun id => store.nameOf id == some name) =
        ((ids.filterMap fun id => (store.definition? id).map fun entity => (id, entity)).find?
          fun p => p.2.name == name).map Prod.fst := by
    intro ids hids
    induction ids with
    | nil => rfl
    | cons id ids ih =>
        obtain ⟨entity, hentity⟩ := Option.isSome_iff_exists.1 (hids id (by simp))
        have hname : store.nameOf id = some entity.name := by
          rw [nameOf, entity?_of_definition? hentity, Option.map_some]
        rw [List.find?_cons, List.filterMap_cons, hentity, Option.map_some, List.find?_cons, hname,
          ih fun other hother => hids other (by simp [hother])]
        cases hmatch : entity.name == name <;> simp [hmatch]
  rw [findByName, hall store.order fun id hid => (h.mem_order id).1 hid, ordered]

/-- Where names are distinct, the entity of a name is found. -/
lemma findByName_eq_some_iff (h : store.Coherent)
    (hnames : (store.ordered.map (·.2.name)).Nodup) {name : String} :
    store.findByName name = some id ↔
      name ≠ "" ∧ ∃ entity, (id, entity) ∈ store.ordered ∧ entity.name = name := by
  rw [findByName_eq h]
  split
  · rename_i hname
    exact iff_of_false (by simp) fun hfound => hfound.1 hname
  · rename_i hname
    rw [Option.map_eq_some_iff]
    constructor
    · rintro ⟨⟨_, entity⟩, hfound, rfl⟩
      exact ⟨hname, entity, List.mem_of_find?_eq_some hfound, by simpa using List.find?_some hfound⟩
    · rintro ⟨_, entity, hmem, hentity⟩
      cases hfind : store.ordered.find? fun p => p.2.name == name with
      | none =>
          have hnone := List.find?_eq_none.1 hfind (id, entity) hmem
          simp [hentity] at hnone
      | some found =>
          have hfound : found.2.name = name := by simpa using List.find?_some hfind
          have hsame := List.inj_on_of_nodup_map hnames (List.mem_of_find?_eq_some hfind) hmem
            (hfound.trans hentity.symm)
          exact ⟨found, rfl, by rw [hsame]⟩

/-! ## Rewriting entities -/

/-- Replaces every defined entity by what `f` makes of it in its slot.  Giving waiting methods to
their receivers is of this form. -/
def mapEntities (store : Store) (f : EntityId → Entity → Entity) : Store :=
  { store with slots := store.slots.mapIdx fun i slot => slot.map (f ⟨i⟩) }

variable {f : EntityId → Entity → Entity}

lemma definition?_mapEntities (store : Store) (f : EntityId → Entity → Entity) (id : EntityId) :
    (store.mapEntities f).definition? id = (store.definition? id).map (f id) := by
  rw [definition?, mapEntities, Array.getElem?_mapIdx, definition?]
  cases store.slots[id.slot]? with
  | none => rfl
  | some slot => cases slot <;> rfl

/-- What is known of a slot changes only if it is defined. -/
lemma entity?_mapEntities (store : Store) (f : EntityId → Entity → Entity) (id : EntityId) :
    (store.mapEntities f).entity? id =
      if store.isDefined id then (store.entity? id).map (f id) else store.entity? id := by
  rw [entity?, mapEntities, Array.getElem?_mapIdx, entity?, isDefined]
  cases store.slots[id.slot]? with
  | none => rfl
  | some slot => cases slot <;> rfl

lemma nameOf_mapEntities (hf : ∀ id entity, (f id entity).head = entity.head) (id : EntityId) :
    (store.mapEntities f).nameOf id = store.nameOf id := by
  rw [nameOf, nameOf, entity?_mapEntities]
  split
  · rw [Option.map_map]
    exact Option.map_congr fun entity _ => by simp [Entity.name, hf]
  · rfl

/-- Names are found as before, if no entity changes its head. -/
lemma findByName_mapEntities (hf : ∀ id entity, (f id entity).head = entity.head) (name : String) :
    (store.mapEntities f).findByName name = store.findByName name := by
  simp only [findByName, nameOf_mapEntities hf]
  rfl

lemma definitions_mapEntities (store : Store) (f : EntityId → Entity → Entity) :
    (store.mapEntities f).definitions = store.definitions.map fun p => (p.1, f p.1 p.2) := by
  have hzip : (store.mapEntities f).slots.toList.zipIdx =
      store.slots.toList.zipIdx.map fun p => (p.1.map (f ⟨p.2⟩), p.2) := by
    refine List.ext_getElem? fun i => ?_
    simp only [mapEntities, Array.toList_mapIdx, List.getElem?_zipIdx, List.getElem?_mapIdx,
      List.getElem?_map, Option.map_map, Nat.zero_add]
    rfl
  rw [definitions, hzip, List.filterMap_map, definitions, List.map_filterMap]
  refine List.filterMap_congr fun p _ => ?_
  obtain ⟨slot, i⟩ := p
  cases slot <;> rfl

/-- The order of Go names stays, if the heads of the entities do. -/
lemma sorted_mapEntities (hf : ∀ id entity, (f id entity).head = entity.head) :
    (store.mapEntities f).sorted = store.sorted.map fun p => (p.1, f p.1 p.2) := by
  have hkey : ∀ id entity, sortKey (f id entity) = sortKey entity := by
    intro id entity
    simp [sortKey, Entity.refid, hf]
  rw [sorted, definitions_mapEntities, sorted]
  refine (List.map_mergeSort fun a _ b _ => ?_).symm
  simp only [entityLe, hkey]

lemma refids_mapEntities (store : Store) (f : EntityId → Entity → Entity) :
    (store.mapEntities f).refids = store.refids := by
  refine List.ext_getElem? fun i => ?_
  rw [getElem?_refids, getElem?_refids, mapEntities, Array.getElem?_mapIdx, Option.map_map]
  refine Option.map_congr fun slot _ => ?_
  cases slot <;> rfl

lemma Consistent.mapEntities (h : store.Consistent)
    (hf : ∀ id entity, (f id entity).head = entity.head) : (store.mapEntities f).Consistent where
  nodup := by rw [refids_mapEntities]; exact h.nodup
  mem_order := by
    intro id
    rw [definition?_mapEntities, Option.isSome_map]
    exact h.mem_order id
  order_nodup := h.order_nodup
  own := by
    intro id entity hdef
    rw [definition?_mapEntities, Option.map_eq_some_iff] at hdef
    obtain ⟨old, hold, rfl⟩ := hdef
    rw [refids_mapEntities, Entity.refid, hf]
    exact h.own id old hold
  bare := by
    intro i slot hslot hfree
    rw [Store.mapEntities, Array.getElem?_mapIdx, Option.map_eq_some_iff] at hslot
    obtain ⟨old, hold, rfl⟩ := hslot
    cases old with
    | undefined refid methods => exact h.bare i _ hold rfl
    | defined entity refid => contradiction

lemma ordered_mapEntities (store : Store) (f : EntityId → Entity → Entity) :
    (store.mapEntities f).ordered = store.ordered.map fun p => (p.1, f p.1 p.2) := by
  rw [ordered, ordered, List.map_filterMap]
  refine List.filterMap_congr fun id _ => ?_
  rw [definition?_mapEntities, Option.map_map, Option.map_map]
  rfl

/-! ## Numberings -/

/-- The function gives every reference id of the store its slot; what it gives others does not
matter. -/
def NumberedBy (ν : String → EntityId) (store : Store) : Prop :=
  ∀ refid id, store.lookup refid = some id → ν refid = id

/-- The slots of a store, with a slot beyond the others for what it has not heard of. -/
def numbering (store : Store) (refid : String) : EntityId :=
  (store.lookup refid).getD ⟨store.size⟩

lemma numberedBy_numbering (store : Store) : store.NumberedBy store.numbering := by
  intro refid id h
  rw [numbering, h, Option.getD_some]

/-- A numbering of a store numbers what the store has grown from. -/
lemma NumberedBy.of_grown {ν : String → EntityId} {other : Store} (h : other.NumberedBy ν)
    (hgrown : store.refids <+: other.refids) : store.NumberedBy ν :=
  fun refid id hid => h refid id (lookup_of_grown hgrown hid)

end Store

end FrameworkBindings
