import Mathlib.Data.List.Nodup
import Mathlib.Tactic.Lemma
import Mathlib.Tactic.SplitIfs
import FrameworkBindings.Store

/-!
# Slots and reference ids

What the operations of a store do to its slots.

**Mentions.**  `Store.refids` lists the reference ids of the slots.  Slots are only ever added
behind the others, so this list grows at its end; `lookup` is the place in it
(`lookup_eq_some_iff`).  `Store.mention` gives slots to several reference ids, one after the other.

**Definitions.**  `definition?` is the entity in a slot, once there is one.  A definition touches
its own slot and no other (`definition?_of_define`), and so does a method that is offered to a slot
(`definition?_attach`).

**Frames.**  What an operation leaves alone is said once, as an equation: the new store is the old
one with other slots, and for a definition with another order (`intern_frame`, `mention_frame`,
`frame_of_define`).  Rewriting with it settles every question about the rest of the store, whichever
field is asked for.

**Equations.**  `intern_eq`, `define_eq` and `install_eq` say what the operations do in terms of
reference ids and definitions.  They are the last to unfold the operations: everything after them
is about lists of reference ids and about `definition?`.
-/

namespace FrameworkBindings

/-- The entity in a slot, once it has been defined.  A placeholder is none. -/
def Slot.definition? : Slot → Option Entity
  | undefined _ _ => none
  | defined entity _ => some entity

lemma Slot.isDefined_eq (slot : Slot) : slot.isDefined = slot.definition?.isSome := by
  cases slot <;> rfl

namespace Store

/-- The reference ids of the slots, in order of slots, defined or not. -/
def refids (store : Store) : List String := store.slots.toList.map Slot.refid

/-- The entity in a slot, once it has been defined; nothing for a slot that there is not. -/
def definition? (store : Store) (id : EntityId) : Option Entity :=
  store.slots[id.slot]?.bind Slot.definition?

/-- Gives slots to reference ids that have none, in the order in which they come. -/
def mention (store : Store) (refids : List String) : Store :=
  refids.foldl (fun store refid => (store.intern refid).2) store

variable {store : Store} {id : EntityId} {refid : String} {refids : List String}

/-! ## Mentions -/

lemma length_refids (store : Store) : store.refids.length = store.size := by
  simp [Store.refids, size]

lemma getElem?_refids (store : Store) (i : Nat) :
    store.refids[i]? = store.slots[i]?.map Slot.refid := by
  simp [Store.refids]

lemma lookup_eq_idxOf? (store : Store) (refid : String) :
    store.lookup refid = (store.refids.idxOf? refid).map EntityId.mk := by
  have harray : store.slots.toList.toArray = store.slots := Array.toArray_toList
  rw [lookup, ← harray, List.findIdx?_toArray, List.idxOf?, Store.refids, List.findIdx?_map]
  rfl

lemma lookup_eq_none_iff : store.lookup refid = none ↔ refid ∉ store.refids := by
  simp [lookup_eq_idxOf?]

lemma exists_lookup_of_mem (h : refid ∈ store.refids) : ∃ id, store.lookup refid = some id := by
  rw [← Option.ne_none_iff_exists']
  exact fun hnone => lookup_eq_none_iff.1 hnone h

/-- The slot of a reference id carries it, as the id is looked for among the slots. -/
lemma getElem?_refids_of_lookup (h : store.lookup refid = some id) :
    store.refids[id.slot]? = some refid := by
  rw [lookup_eq_idxOf?, Option.map_eq_some_iff] at h
  obtain ⟨i, hi, rfl⟩ := h
  obtain ⟨hlt, hget, _⟩ := List.idxOf?_eq_some_iff.1 hi
  rw [List.getElem?_eq_getElem hlt, hget]

lemma slot_lt_of_lookup (h : store.lookup refid = some id) : id.slot < store.size := by
  rw [← length_refids]
  exact (List.getElem?_eq_some_iff.1 (getElem?_refids_of_lookup h)).1

/-- Without repetitions, the slot of a reference id is the one that carries it.  This is how slots
are found in proofs, in place of a search. -/
lemma lookup_eq_some_iff (hnodup : store.refids.Nodup) :
    store.lookup refid = some id ↔ store.refids[id.slot]? = some refid := by
  refine ⟨getElem?_refids_of_lookup, fun h => ?_⟩
  obtain ⟨other, hother⟩ := exists_lookup_of_mem (List.mem_of_getElem? h)
  obtain ⟨hlt, hget⟩ := List.getElem?_eq_some_iff.1 h
  obtain ⟨hlt', hget'⟩ := List.getElem?_eq_some_iff.1 (getElem?_refids_of_lookup hother)
  have hslot : other.slot = id.slot := hnodup.getElem_inj_iff.1 (hget'.trans hget.symm)
  rw [hother]
  exact congrArg (fun slot => some (EntityId.mk slot)) hslot

/-- A store that has grown behind its slots knows what it knew, and under the same slots. -/
lemma lookup_of_grown {other : Store} (hgrown : store.refids <+: other.refids)
    (h : store.lookup refid = some id) : other.lookup refid = some id := by
  rw [lookup_eq_idxOf?, Option.map_eq_some_iff] at h ⊢
  obtain ⟨i, hi, rfl⟩ := h
  exact ⟨i, hgrown.findIdx?_eq_some hi, rfl⟩

/-- A reference id gets a slot behind the others, unless it has one, and then nothing changes. -/
lemma intern_eq (store : Store) (refid : String) :
    store.intern refid = if refid ∈ store.refids then ((store.lookup refid).getD default, store)
      else (⟨store.size⟩, { store with slots := store.slots.push (.awaited refid) }) := by
  rw [intern]
  split
  · rename_i id h
    rw [if_pos, h, Option.getD_some]
    exact List.mem_of_getElem? (getElem?_refids_of_lookup h)
  · rename_i h
    rw [if_neg (lookup_eq_none_iff.1 h)]

lemma refids_intern (store : Store) (refid : String) :
    (store.intern refid).2.refids =
      if refid ∈ store.refids then store.refids else store.refids ++ [refid] := by
  rw [intern_eq]
  split_ifs
  · rfl
  · simp [Store.refids, Slot.refid, Slot.awaited]

lemma prefix_intern (store : Store) (refid : String) :
    store.refids <+: (store.intern refid).2.refids := by
  rw [refids_intern]
  split_ifs
  · exact List.prefix_rfl
  · exact List.prefix_append _ _

/-- What `intern` gives is the slot of the reference id from then on. -/
lemma lookup_intern (store : Store) (refid : String) :
    (store.intern refid).2.lookup refid = some (store.intern refid).1 := by
  rw [intern_eq]
  split_ifs with h
  · obtain ⟨id, hid⟩ := exists_lookup_of_mem h
    simp [hid]
  · have hrefids : Store.refids { store with slots := store.slots.push (.awaited refid) } =
        store.refids ++ [refid] := by
      simp [Store.refids, Slot.refid, Slot.awaited]
    rw [lookup_eq_idxOf?, hrefids, ← length_refids]
    have hidx : (store.refids ++ [refid]).idxOf? refid = some store.refids.length := by
      rw [List.idxOf?_eq_some_iff]
      refine ⟨by simp, by simp, fun j hj heq => h ?_⟩
      rw [List.getElem_append_left hj] at heq
      exact heq ▸ List.getElem_mem hj
    rw [hidx, Option.map_some]

/-- Interning changes no slot that was there; the one that is new awaits its definition. -/
lemma getElem?_slots_intern (store : Store) (refid : String) (i : Nat) :
    (store.intern refid).2.slots[i]? = store.slots[i]? ∨
      store.slots[i]? = none ∧ (store.intern refid).2.slots[i]? = some (.awaited refid) := by
  rw [intern_eq]
  split_ifs
  · exact .inl rfl
  · by_cases hi : i = store.slots.size
    · right
      subst hi
      simp
    · left
      simp [Array.getElem?_push, hi]

@[simp]
lemma definition?_intern (store : Store) (refid : String) (id : EntityId) :
    (store.intern refid).2.definition? id = store.definition? id := by
  rcases store.getElem?_slots_intern refid id.slot with h | ⟨hnone, h⟩
  · rw [definition?, definition?, h]
  · rw [definition?, definition?, h, hnone]
    rfl

/-- The frame of interning: beside the slots everything is as it was. -/
lemma intern_frame (store : Store) (refid : String) :
    (store.intern refid).2 = { store with slots := (store.intern refid).2.slots } := by
  rw [intern_eq]
  split_ifs <;> rfl

@[simp]
lemma mention_nil (store : Store) : store.mention [] = store := rfl

@[simp]
lemma mention_cons (store : Store) (refid : String) (refids : List String) :
    store.mention (refid :: refids) = (store.intern refid).2.mention refids := rfl

lemma mention_append (store : Store) (refids others : List String) :
    store.mention (refids ++ others) = (store.mention refids).mention others :=
  List.foldl_append

lemma prefix_mention (store : Store) (refids : List String) :
    store.refids <+: (store.mention refids).refids := by
  induction refids generalizing store with
  | nil => exact List.prefix_rfl
  | cons refid refids ih => exact (store.prefix_intern refid).trans (ih _)

/-- Exactly the reference ids that are given get slots. -/
lemma mem_refids_mention {r : String} (store : Store) (refids : List String) :
    r ∈ (store.mention refids).refids ↔ r ∈ store.refids ∨ r ∈ refids := by
  induction refids generalizing store with
  | nil => simp
  | cons refid refids ih =>
      rw [mention_cons, ih, refids_intern]
      split_ifs with h
      · grind
      · grind

@[simp]
lemma definition?_mention (store : Store) (refids : List String) (id : EntityId) :
    (store.mention refids).definition? id = store.definition? id := by
  induction refids generalizing store with
  | nil => rfl
  | cons refid refids ih => rw [mention_cons, ih, definition?_intern]

/-- The frame of mentioning, which is that of interning time and again. -/
lemma mention_frame (store : Store) (refids : List String) :
    store.mention refids = { store with slots := (store.mention refids).slots } := by
  induction refids generalizing store with
  | nil => rfl
  | cons refid refids ih =>
      rw [mention_cons, ih, intern_frame]

/-! ## Definitions -/

lemma isDefined_eq (store : Store) (id : EntityId) :
    store.isDefined id = (store.definition? id).isSome := by
  unfold isDefined definition?
  cases store.slots[id.slot]? with
  | none => rfl
  | some slot => exact slot.isDefined_eq

lemma definition?_eq_some_iff {entity : Entity} :
    store.definition? id = some entity ↔
      ∃ refid, store.slots[id.slot]? = some (.defined entity refid) := by
  unfold definition?
  cases store.slots[id.slot]? with
  | none => simp
  | some slot => cases slot <;> simp [Slot.definition?]

/-- What is known of a slot is its definition, once there is one. -/
lemma entity?_of_definition? {entity : Entity} (h : store.definition? id = some entity) :
    store.entity? id = some entity := by
  obtain ⟨refid, hslot⟩ := definition?_eq_some_iff.1 h
  rw [entity?, hslot]
  rfl

lemma slot_lt_of_definition? {entity : Entity} (h : store.definition? id = some entity) :
    id.slot < store.size := by
  obtain ⟨refid, hslot⟩ := definition?_eq_some_iff.1 h
  exact (Array.getElem?_eq_some_iff.1 hslot).1

/-- The store with the slot of a reference id filled, whatever was in it.  It is used where the slot
is known to be free. -/
def fill (store : Store) (id : EntityId) (refid : String) (entity : Entity) : Store :=
  { store with
    slots := store.slots.setIfInBounds id.slot (.defined entity refid)
    order := store.order ++ [id] }

/-- Installing is refused if the slot of the reference id is filled, and else fills it. -/
lemma install_eq (store : Store) (refid : String) (entity : Entity) :
    store.install refid entity =
      if (store.definition? (store.intern refid).1).isSome then
        (.error (.duplicateDefinition refid), (store.intern refid).2)
      else
        (.ok (store.intern refid).1,
          (store.intern refid).2.fill (store.intern refid).1 refid entity) := by
  rw [← definition?_intern store refid, ← isDefined_eq]
  rfl

/-- A definition is refused if the slot of its reference id is filled, and else fills it. -/
lemma define_eq (store : Store) (entity : Entity) :
    store.define entity =
      if (store.definition? (store.intern entity.refid).1).isSome then
        .error (.duplicateDefinition entity.refid)
      else
        .ok ((store.intern entity.refid).1,
          (store.intern entity.refid).2.fill (store.intern entity.refid).1 entity.refid
            entity) := by
  rw [define, install_eq]
  split_ifs <;> rfl

lemma install_of_define {entity : Entity} {after : Store}
    (h : store.define entity = .ok (id, after)) :
    store.install entity.refid entity = (.ok id, after) := by
  rw [define_eq] at h
  rw [install_eq]
  split_ifs at h ⊢ with hsome
  cases h
  rfl

lemma refids_fill (h : store.refids[id.slot]? = some refid) (entity : Entity) :
    (store.fill id refid entity).refids = store.refids := by
  refine List.ext_getElem? fun i => ?_
  have hlt := (List.getElem?_eq_some_iff.1 h).1
  rw [length_refids, size] at hlt
  rw [getElem?_refids, getElem?_refids, fill, Array.getElem?_setIfInBounds]
  split_ifs with hi
  · subst hi
    rw [getElem?_refids] at h
    rw [h]
    rfl
  · rfl

lemma definition?_fill (h : id.slot < store.size) (entity : Entity) (other : EntityId) :
    (store.fill id refid entity).definition? other =
      if other = id then some entity else store.definition? other := by
  rw [definition?, fill, Array.getElem?_setIfInBounds]
  by_cases hid : other = id
  · subst hid
    have hlt : other.slot < store.slots.size := h
    simp [hlt, Slot.definition?]
  · have hslot : id.slot ≠ other.slot := by
      intro heq
      exact hid (by cases other; cases id; simp_all)
    rw [if_neg hslot, if_neg hid]
    rfl

/-- The slot that a definition goes to carries its reference id. -/
lemma getElem?_refids_intern (store : Store) (refid : String) :
    (store.intern refid).2.refids[(store.intern refid).1.slot]? = some refid :=
  getElem?_refids_of_lookup (store.lookup_intern refid)

lemma slot_intern_lt (store : Store) (refid : String) :
    (store.intern refid).1.slot < (store.intern refid).2.size :=
  slot_lt_of_lookup (store.lookup_intern refid)

lemma refids_of_define {entity : Entity} {after : Store}
    (h : store.define entity = .ok (id, after)) :
    after.refids = (store.intern entity.refid).2.refids := by
  rw [define_eq] at h
  split_ifs at h
  cases h
  exact refids_fill (store.getElem?_refids_intern entity.refid) entity

lemma refids_grown_of_define {entity : Entity} {after : Store}
    (h : store.define entity = .ok (id, after)) : store.refids <+: after.refids := by
  rw [refids_of_define h]
  exact store.prefix_intern entity.refid

/-- A definition fills the slot of its reference id and changes no other, so all that was defined
before stays. -/
lemma definition?_of_define {entity : Entity} {after : Store}
    (h : store.define entity = .ok (id, after)) (other : EntityId) :
    after.definition? other = if other = id then some entity else store.definition? other := by
  rw [define_eq] at h
  split_ifs at h
  cases h
  rw [definition?_fill (store.slot_intern_lt entity.refid) entity, definition?_intern]

lemma id_of_define {entity : Entity} {after : Store} (h : store.define entity = .ok (id, after)) :
    id = (store.intern entity.refid).1 ∧ store.definition? id = none := by
  rw [define_eq] at h
  split_ifs at h with hfree
  cases h
  simpa using hfree

/-- What has been defined is found under its reference id. -/
lemma lookup_of_define {entity : Entity} {after : Store}
    (h : store.define entity = .ok (id, after)) : after.lookup entity.refid = some id := by
  rw [(id_of_define h).1]
  have hrefids := refids_of_define h
  exact lookup_of_grown (hrefids ▸ List.prefix_rfl) (store.lookup_intern entity.refid)

/-- The frame of a definition: beside its slot, only its place in the order is new. -/
lemma frame_of_define {entity : Entity} {after : Store}
    (h : store.define entity = .ok (id, after)) :
    after = { store with slots := after.slots, order := store.order ++ [id] } := by
  rw [define_eq] at h
  split_ifs at h
  cases h
  rw [fill, intern_frame]

/-! ## Files -/

/-- A file is refused just for its reference id, and otherwise put behind the others. -/
lemma addFile_eq (store : Store) (file : Declaration) :
    store.addFile file =
      if file.refid ∈ store.files.map (·.refid) then .error (.duplicateFile file.refid)
      else .ok { store with files := store.files ++ [file] } := by
  have hany : store.files.any (·.refid == file.refid) = true ↔
      file.refid ∈ store.files.map (·.refid) := by
    simp only [List.any_eq_true, beq_iff_eq, List.mem_map]
  rw [addFile]
  exact if_congr hany rfl rfl

/-! ## Methods -/

/-- A method that is offered to a slot may be added to its definition, and leaves all others
alone. -/
lemma definition?_attach (store : Store) (id : EntityId) (f : Routine) (other : EntityId) :
    (store.attach id f).definition? other =
      if other = id then (store.definition? other).map fun entity => (entity.attach f).1
      else store.definition? other := by
  rw [definition?, attach, Array.getElem?_modify]
  by_cases hid : other = id
  · subst hid
    rw [if_pos rfl, if_pos rfl, definition?]
    cases store.slots[other.slot]? with
    | none => rfl
    | some slot => cases slot <;> rfl
  · have hslot : id.slot ≠ other.slot := by
      intro heq
      exact hid (by cases other; cases id; simp_all)
    rw [if_neg hslot, if_neg hid]
    rfl

lemma refids_attach (store : Store) (id : EntityId) (f : Routine) :
    (store.attach id f).refids = store.refids := by
  refine List.ext_getElem? fun i => ?_
  rw [getElem?_refids, getElem?_refids, attach, Array.getElem?_modify]
  split_ifs
  · cases store.slots[i]? with
    | none => rfl
    | some slot => cases slot <;> rfl
  · rfl

end Store

end FrameworkBindings
