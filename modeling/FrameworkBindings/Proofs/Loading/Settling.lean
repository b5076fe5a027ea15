import FrameworkBindings.Proofs.Loading.Effect

/-!
# The second pass

When all entries are loaded, the waiting methods go to their receivers, one after the other.  In
the end every entity has got those that name it, in the order in which they waited, as far as their
names are new.

* `settled` — an entity with the methods that wait for its slot.
* `store_settle`, `stats_settle` — one method.
* **`store_finish`** — the store after the second pass, for any loader.
* **`stats_finish`** — the counters: those of each entity, and the methods whose receiver was never
  defined.

**The queue taken together.**  The loop offers one method after the other, to a store that grows
under its hands.  The result is stated at once for the whole queue, as a rewriting of every entity
by the methods that are bound for its slot.  Names are found in the grown store as before
(`findByName_settled`), so the methods of a queue are bound for the same slots whenever they are
looked at (`bound_settled`), and the induction over the queue needs nothing else.

**Two results.**  The store after the pass is given for any loader.  The counters are summed over
the definitions, and for this every definition has to be listed once, which is what a consistent
store guarantees.
-/

namespace FrameworkBindings

open Loading

namespace Store

variable {store : Store}

/-- Rewriting all entities twice is rewriting them once, by one function behind the other. -/
lemma mapEntities_mapEntities (store : Store) (f g : EntityId → Entity → Entity) :
    (store.mapEntities f).mapEntities g =
      store.mapEntities fun id entity => g id (f id entity) := by
  simp only [mapEntities, Array.mapIdx_mapIdx]
  congr 2
  funext i slot
  cases slot <;> rfl

/-- Rewriting all entities as they are leaves the store as it is. -/
lemma mapEntities_eq_self {f : EntityId → Entity → Entity} (h : ∀ id entity, f id entity = entity) :
    store.mapEntities f = store := by
  have hslots : store.slots.mapIdx (fun i slot => slot.map (f ⟨i⟩)) = store.slots := by
    refine Array.ext_getElem? fun i => ?_
    rw [Array.getElem?_mapIdx]
    cases store.slots[i]? with
    | none => rfl
    | some slot => cases slot <;> simp [Slot.map, h]
  rw [mapEntities, hslots]

/-- Offering a method rewrites one entity, once there is one. -/
lemma attach_eq_mapEntities {id : EntityId} {entity : Entity}
    (h : store.definition? id = some entity) (f : Routine) :
    store.attach id f = store.mapEntities fun other entity =>
      if other = id then (entity.attach f).1 else entity := by
  have hslots : store.slots.modify id.slot (Slot.attach f) = store.slots.mapIdx fun i slot =>
      slot.map fun entity => if (⟨i⟩ : EntityId) = id then (entity.attach f).1 else entity := by
    refine Array.ext_getElem? fun i => ?_
    rw [Array.getElem?_modify, Array.getElem?_mapIdx]
    by_cases hi : id.slot = i
    · subst hi
      obtain ⟨refid, hslot⟩ := definition?_eq_some_iff.1 h
      rw [if_pos rfl, hslot]
      simp [Slot.attach, Slot.map]
    · have hid : (⟨i⟩ : EntityId) ≠ id := fun h => hi (h ▸ rfl)
      rw [if_neg hi]
      cases store.slots[i]? with
      | none => rfl
      | some slot => cases slot <;> simp [Slot.map, hid]
  rw [attach, hslots]
  rfl

/-- What is found by name is known under that name, which is not empty. -/
lemma nameOf_of_findByName {name : String} {id : EntityId} (h : store.findByName name = some id) :
    name ≠ "" ∧ store.nameOf id = some name := by
  unfold findByName at h
  split at h
  · contradiction
  · rename_i hname
    exact ⟨hname, by simpa using List.find?_some h⟩

/-- What is found by name has been defined under that name. -/
lemma exists_definition_of_findByName {name : String} {id : EntityId}
    (h : store.findByName name = some id) :
    ∃ entity, store.definition? id = some entity ∧ entity.name = name := by
  obtain ⟨hname, hknown⟩ := nameOf_of_findByName h
  obtain ⟨entity, hentity, rfl⟩ := Option.map_eq_some_iff.1 hknown
  obtain ⟨slot, hslot, rfl⟩ := Option.map_eq_some_iff.1 hentity
  cases slot with
  | undefined refid methods => exact absurd rfl hname
  | defined entity refid => exact ⟨entity, definition?_eq_some_iff.2 ⟨refid, hslot⟩, rfl⟩

/-- The methods among `functions` that go to a slot: those whose receiver is found there by name. -/
def bound (store : Store) (functions : List Routine) (id : EntityId) : List Routine :=
  functions.filter fun f => store.findByName f.receiver = some id

/-- The entity of a slot with the methods that go to it, behind its own and with new names only. -/
def settled (store : Store) (functions : List Routine) (id : EntityId) (entity : Entity) : Entity :=
  entity.extend [] [] (store.bound functions id)

@[simp]
lemma head_settled (store : Store) (functions : List Routine) (id : EntityId) (entity : Entity) :
    (store.settled functions id entity).head = entity.head :=
  entity.head_extend

end Store

namespace Loader

/-- One method goes to its receiver, and nothing happens if there is none. -/
lemma store_settle (l : Loader) (f : Routine) :
    (l.settle f).store = l.store.mapEntities (l.store.settled [f]) := by
  unfold settle
  cases hfind : l.store.findByName f.receiver with
  | none =>
      refine (Store.mapEntities_eq_self fun id entity => ?_).symm
      simp [Store.settled, Store.bound, hfind]
  | some id =>
      obtain ⟨entity, hentity, _⟩ := Store.exists_definition_of_findByName hfind
      have hattach : (l.toSession.attach id f).2.store = l.store.attach id f := by
        simp [Session.attach, Store.entity?_of_definition? hentity]
      have hsettled : l.store.attach id f = l.store.mapEntities (l.store.settled [f]) := by
        rw [Store.attach_eq_mapEntities hentity]
        congr 1
        funext other e
        by_cases hother : other = id
        · subst hother
          simp [Store.settled, Store.bound, hfind, Entity.attach_eq]
        · have hne : id ≠ other := fun h => hother h.symm
          simp [Store.settled, Store.bound, hfind, hother, hne]
      rw [← hsettled, ← hattach]
      dsimp only [run]
      cases (l.toSession.attach id f).1 <;> rfl

/-- Settling one method does not touch those that wait. -/
lemma pending_settle (l : Loader) (f : Routine) : (l.settle f).pending = l.pending := by
  unfold settle
  cases l.store.findByName f.receiver with
  | none => rfl
  | some id =>
      dsimp only [run]
      cases (l.toSession.attach id f).1 <;> rfl

/-- The methods go to their receivers, one behind the other.  By induction on the queue: names are
found in the grown store as in the store before. -/
lemma store_foldl_settle (functions : List Routine) (l : Loader) :
    (functions.foldl settle l).store =
      l.store.mapEntities (l.store.settled functions) := by
  induction functions generalizing l with
  | nil =>
      refine (Store.mapEntities_eq_self fun id entity => ?_).symm
      simp [Store.settled, Store.bound]
  | cons f functions ih =>
      have hfind : ∀ name, (l.settle f).store.findByName name = l.store.findByName name := by
        intro name
        rw [store_settle]
        exact Store.findByName_mapEntities (fun _ _ => Entity.head_extend _) name
      rw [List.foldl_cons, ih, store_settle, Store.mapEntities_mapEntities]
      congr 1
      funext id entity
      rw [store_settle] at hfind
      simp only [Store.settled, Store.bound, hfind, Entity.extend_extend]
      rw [← List.filter_append]
      rfl

lemma pending_foldl_settle (functions : List Routine) (l : Loader) :
    (functions.foldl settle l).pending = l.pending := by
  induction functions generalizing l with
  | nil => rfl
  | cons f functions ih => rw [List.foldl_cons, ih, pending_settle]

/-- The end of the second pass is told, which changes nothing. -/
lemma finish_eq (l : Loader) : ∃ journal, l.finish =
    { l.pending.foldl settle { l with pending := [] } with journal } := by
  unfold finish
  dsimp only
  split
  · exact ⟨_, rfl⟩
  · exact ⟨_, rfl⟩

/-- **After the second pass every entity has the methods that waited for it.**  Nothing else in the
store changes. -/
theorem store_finish (l : Loader) :
    l.finish.store = l.store.mapEntities (l.store.settled l.pending) := by
  obtain ⟨journal, hfinish⟩ := l.finish_eq
  rw [hfinish]
  exact store_foldl_settle l.pending { l with pending := [] }

/-- Behind the second pass nothing waits, as it goes through the whole queue. -/
theorem pending_finish (l : Loader) : l.finish.pending = [] := by
  obtain ⟨journal, hfinish⟩ := l.finish_eq
  rw [hfinish]
  exact pending_foldl_settle l.pending { l with pending := [] }

end Loader

/-! ## Counters -/

namespace Loading

/-- What is counted when waiting methods are offered to an entity: nothing fits where there are no
methods, and else new names are told from repeated ones. -/
def settleCounts (entity : Entity) (functions : List Routine) : LoadStats :=
  match entity.methods? with
  | none => { unattached := functions.length }
  | some methods => {
      attached := (novel methods functions).length
      duplicateMethods := functions.length - (novel methods functions).length }

lemma settleCounts_nil (entity : Entity) : settleCounts entity [] = 0 := by
  unfold settleCounts
  split <;> rfl

/-- Offering more counts for the entity as it has grown. -/
lemma settleCounts_append (entity : Entity) (functions others : List Routine) :
    settleCounts entity (functions ++ others) = settleCounts entity functions +
      settleCounts (entity.extend [] [] functions) others := by
  unfold settleCounts
  rw [Entity.methods?_extend]
  cases entity.methods? with
  | none => ext <;> simp [LoadStats.counters_add]
  | some methods =>
      have hfirst := length_novel_le methods functions
      have hsecond := length_novel_le (methods ++ novel methods functions) others
      ext <;> simp only [Option.map_some, novel_append, List.length_append,
        LoadStats.counters_add]
      omega

/-- A sum with one term that is not zero is that term. -/
lemma sum_map_eq_single {α : Type} {l : List α} {a : α} {count : α → LoadStats} (hnodup : l.Nodup)
    (ha : a ∈ l) (h : ∀ b ∈ l, b ≠ a → count b = 0) : (l.map count).sum = count a := by
  obtain ⟨before, after, rfl⟩ := List.append_of_mem ha
  rw [List.nodup_append, List.nodup_cons] at hnodup
  obtain ⟨_, ⟨hafter, _⟩, hbefore⟩ := hnodup
  have hzero : (before.map count).sum = 0 := by
    refine List.sum_eq_zero fun c hc => ?_
    obtain ⟨b, hb, rfl⟩ := List.mem_map.1 hc
    exact h b (by simp [hb]) (hbefore b hb a (by simp))
  have hzero' : (after.map count).sum = 0 := by
    refine List.sum_eq_zero fun c hc => ?_
    obtain ⟨b, hb, rfl⟩ := List.mem_map.1 hc
    exact h b (by simp [hb]) fun heq => hafter (heq ▸ hb)
  rw [List.map_append, List.map_cons, List.sum_append, List.sum_cons, hzero, hzero', zero_add,
    add_zero]

end Loading

namespace Store

/-- The methods whose receiver was never defined; nobody is offered them. -/
def orphans (store : Store) (functions : List Routine) : List Routine :=
  functions.filter fun f => store.findByName f.receiver = none

/-- What the second pass counts: for each entity what it is offered, and what nobody is offered. -/
def settlementOf (store : Store) (functions : List Routine) : LoadStats :=
  (store.ordered.map fun p => settleCounts p.2 (store.bound functions p.1)).sum +
    { unattached := (store.orphans functions).length }

/-- Names are found as before, as no entity changes its name. -/
lemma findByName_settled (store : Store) (functions : List Routine) (name : String) :
    (store.mapEntities (store.settled functions)).findByName name = store.findByName name :=
  findByName_mapEntities (head_settled store functions) name

/-- Methods go to the same slots in the grown store, as names are found where they were. -/
lemma bound_settled (store : Store) (functions others : List Routine) :
    (store.mapEntities (store.settled functions)).bound others = store.bound others := by
  funext id
  simp only [bound, findByName_settled]

/-- One method after the other: the first is settled, and the others in the store that it leaves. -/
lemma settlementOf_cons (store : Store) (f : Routine) (functions : List Routine) :
    store.settlementOf (f :: functions) = store.settlementOf [f] +
      (store.mapEntities (store.settled [f])).settlementOf functions := by
  have hbound : ∀ id, store.bound (f :: functions) id =
      store.bound [f] id ++ store.bound functions id := by
    intro id
    rw [bound, bound, bound, ← List.filter_append]
    rfl
  have horphans : (store.orphans (f :: functions)).length =
      (store.orphans [f]).length + (store.orphans functions).length := by
    rw [orphans, orphans, orphans, ← List.length_append, ← List.filter_append]
    rfl
  have hsum : (store.ordered.map fun p => settleCounts p.2 (store.bound (f :: functions) p.1)).sum =
      (store.ordered.map fun p => settleCounts p.2 (store.bound [f] p.1)).sum +
        (store.ordered.map fun p =>
          settleCounts (store.settled [f] p.1 p.2) (store.bound functions p.1)).sum := by
    rw [← List.sum_map_add]
    refine congrArg List.sum (List.map_congr_left fun p _ => ?_)
    rw [hbound, settleCounts_append]
    rfl
  have hrest : (store.mapEntities (store.settled [f])).orphans functions =
      store.orphans functions := by
    simp only [orphans, findByName_settled]
  rw [settlementOf, settlementOf, settlementOf, ordered_mapEntities, bound_settled, hrest,
    List.map_map, hsum, horphans]
  simp only [Function.comp_def]
  ext <;> simp only [LoadStats.counters_add] <;> omega

/-- One method is offered to one entity or to none. -/
lemma settlementOf_single {store : Store} (h : store.Consistent) (f : Routine) :
    store.settlementOf [f] =
      match store.findByName f.receiver with
      | none => { unattached := 1 }
      | some id => ((store.definition? id).map fun entity => settleCounts entity [f]).getD 0 := by
  cases hfind : store.findByName f.receiver with
  | none =>
      have hnone : ∀ id, store.bound [f] id = [] := by simp [bound, hfind]
      have horphans : store.orphans [f] = [f] := by simp [orphans, hfind]
      have hzero : (store.ordered.map fun p => settleCounts p.2 (store.bound [f] p.1)).sum = 0 := by
        refine List.sum_eq_zero fun c hc => ?_
        obtain ⟨p, _, rfl⟩ := List.mem_map.1 hc
        rw [hnone, settleCounts_nil]
      rw [settlementOf, hzero, horphans, zero_add]
      rfl
  | some id =>
      have horphans : store.orphans [f] = [] := by simp [orphans, hfind]
      obtain ⟨entity, hentity, _⟩ := exists_definition_of_findByName hfind
      have hsum : (store.ordered.map fun p => settleCounts p.2 (store.bound [f] p.1)).sum =
          settleCounts entity (store.bound [f] id) := by
        refine sum_map_eq_single (ordered_nodup h.toCoherent)
          ((mem_ordered h.toCoherent).2 hentity) fun p hp hne => ?_
        have hid : id ≠ p.1 := by
          rintro rfl
          refine hne (Prod.ext rfl ?_)
          exact Option.some.inj (((mem_ordered h.toCoherent).1 hp).symm.trans hentity)
        have hnone : store.bound [f] p.1 = [] := by simp [bound, hfind, hid]
        rw [hnone, settleCounts_nil]
      have hbound : store.bound [f] id = [f] := by simp [bound, hfind]
      simp only [settlementOf, hsum, horphans, hbound, hentity, Option.map_some, Option.getD_some]
      exact add_zero _

end Store

namespace Loader

/-- What is counted for one method is the settlement of a queue of one. -/
lemma stats_settle (l : Loader) (h : l.store.Consistent) (f : Routine) :
    (l.settle f).stats = l.stats + l.store.settlementOf [f] := by
  rw [Store.settlementOf_single h]
  unfold settle
  cases hfind : l.store.findByName f.receiver with
  | none => rfl
  | some id =>
      obtain ⟨entity, hentity, _⟩ := Store.exists_definition_of_findByName hfind
      have hattach : (l.toSession.attach id f).1 = (entity.attach f).2 := by
        simp [Session.attach, Store.entity?_of_definition? hentity]
      simp only [hentity, Option.map_some, Option.getD_some]
      dsimp only [run]
      rw [hattach]
      unfold Entity.attach settleCounts
      cases entity.methods? with
      | none => rfl
      | some methods =>
          by_cases hnew : methods.any (·.name == f.name) = true
          · simp only [hnew, if_true, novel]
            rfl
          · simp only [hnew, novel]
            rfl

/-- What is counted for a queue is counted in one sum over the entities. -/
lemma stats_foldl_settle (functions : List Routine) (l : Loader) (h : l.store.Consistent) :
    (functions.foldl settle l).stats = l.stats + l.store.settlementOf functions := by
  induction functions generalizing l with
  | nil =>
      have hnone : l.store.settlementOf [] = 0 := by
        have hzero : (l.store.ordered.map fun p =>
            settleCounts p.2 (l.store.bound [] p.1)).sum = 0 := by
          refine List.sum_eq_zero fun c hc => ?_
          obtain ⟨p, _, rfl⟩ := List.mem_map.1 hc
          exact settleCounts_nil p.2
        rw [Store.settlementOf, hzero, zero_add]
        rfl
      rw [hnone]
      exact (add_zero l.stats).symm
  | cons f functions ih =>
      have hnext : (l.settle f).store.Consistent := by
        rw [store_settle]
        exact h.mapEntities (Store.head_settled _ _)
      rw [List.foldl_cons, ih _ hnext, stats_settle l h, store_settle, add_assoc,
        ← Store.settlementOf_cons]

/-- **What the second pass counts**, entity by entity and not method by method. -/
theorem stats_finish (l : Loader) (h : l.store.Consistent) :
    l.finish.stats = l.stats + l.store.settlementOf l.pending := by
  obtain ⟨journal, hfinish⟩ := l.finish_eq
  rw [hfinish]
  exact stats_foldl_settle l.pending { l with pending := [] } h

end Loader

end FrameworkBindings
