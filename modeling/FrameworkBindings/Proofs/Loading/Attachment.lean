import Mathlib.Data.List.Induction
import FrameworkBindings.Proofs.Loading.Settling

/-!
# What becomes of waiting methods

The second pass offers one method after the other, to entities that have grown by those before.
What becomes of a method can all the same be read off the store as it was before the pass and the
methods that waited in front of it.  No store is excluded here, not even one that no load reaches.

* `Store.fate` — whether a method is attached, dropped as a duplicate or left over.
* `Store.arrivals` — the methods that end in a slot.  They are the ones that name its entity, and of
  each name that is new the first (`arrivals_eq_novel`).
* `attachment_settle` — the loop decides as `fate` says, at any place in the queue.
* **`Loader.finished`** — the store and the counters after the second pass.

**Declarative and not replayed.**  `fate` looks up names in the store that the pass begins with and
asks whether a name is there or is brought by one of the methods before.  It does not carry a store
along, so what becomes of a method can be said without running the pass, and the order of the queue
counts only between methods of one receiver and one name.

**One step of the proof.**  `fate_settled` says that the grown store answers as the old store does
behind the methods that have been settled.  With it the run lemmas are inductions over the queue
from its end, one for the slots and one for the counters (`stats_foldl_settle_eq`).
-/

namespace FrameworkBindings

open Loading

namespace Store

/-- The methods of a defined entity, where its kind has any.  Both reasons for which a method can be
refused are its being none. -/
def methodsOf? (store : Store) (id : EntityId) : Option (List Routine) :=
  (store.definition? id).bind Entity.methods?

/-- What becomes of a method that waits behind others.  Nobody takes it if its receiver was never
defined or holds no methods; it is dropped if the receiver has its name, or if one of the others
brings it there. -/
def fate (store : Store) (others : List Routine) (f : Routine) : Attachment :=
  match store.findByName f.receiver with
  | none => .refused
  | some id =>
    match store.methodsOf? id with
    | none => .refused
    | some methods =>
      if (methods ++ store.bound others id).any (·.name == f.name) then .duplicate else .added

/-- The methods of a queue, each with what becomes of it behind the others, in the order in which
the pass gets to them. -/
def fates (store : Store) (others : List Routine) : List Routine → List (Routine × Attachment)
  | [] => []
  | f :: queue => (f, store.fate others f) :: store.fates (others ++ [f]) queue

/-- The methods of a queue that end in a slot, in the order of the queue. -/
def arrivals (store : Store) (queue : List Routine) (id : EntityId) : List Routine :=
  ((store.fates [] queue).filter fun p =>
    p.2 = .added ∧ store.findByName p.1.receiver = some id).map Prod.fst

/-- Of how many methods of a queue the same becomes; the counters of the pass are these numbers. -/
def tally (store : Store) (queue : List Routine) (outcome : Attachment) : ℕ :=
  (store.fates [] queue).countP (·.2 = outcome)

variable {store : Store} {id : EntityId} {queue : List Routine}

/-- A method at the end of a queue changes nothing about those before it. -/
lemma fates_append (store : Store) (others queue : List Routine) (f : Routine) :
    store.fates others (queue ++ [f]) =
      store.fates others queue ++ [(f, store.fate (others ++ queue) f)] := by
  induction queue generalizing others with
  | nil => rw [List.append_nil]; rfl
  | cons g queue ih => rw [List.cons_append, fates, ih, fates, List.append_assoc]; rfl

/-- Something becomes of every method of a queue, so none is passed over. -/
lemma length_fates (store : Store) (others queue : List Routine) :
    (store.fates others queue).length = queue.length := by
  induction queue generalizing others with
  | nil => rfl
  | cons f queue ih => rw [fates, List.length_cons, ih, List.length_cons]

/-- One of three things becomes of every method, so the three numbers add up to the length of the
queue. -/
lemma tally_add (store : Store) (queue : List Routine) :
    store.tally queue .added + store.tally queue .duplicate + store.tally queue .refused =
      queue.length := by
  rw [← store.length_fates [] queue]
  simp only [tally]
  induction store.fates [] queue with
  | nil => rfl
  | cons p ps ih =>
      simp only [List.countP_cons, List.length_cons]
      cases p.2 <;> simp <;> omega

/-- A method at the end is counted under its own fate. -/
lemma tally_append (store : Store) (queue : List Routine) (f : Routine) (outcome : Attachment) :
    store.tally (queue ++ [f]) outcome =
      store.tally queue outcome + if store.fate queue f = outcome then 1 else 0 := by
  rw [tally, fates_append, List.countP_append, List.countP_singleton, List.nil_append]
  simp [tally]

/-- A method at the end of a queue arrives in the slot of its receiver, if it is attached at all. -/
lemma arrivals_append (store : Store) (queue : List Routine) (f : Routine) (id : EntityId) :
    store.arrivals (queue ++ [f]) id = store.arrivals queue id ++
      if store.fate queue f = .added ∧ store.findByName f.receiver = some id then [f] else [] := by
  rw [arrivals, fates_append, List.filter_append, List.map_append, List.nil_append, arrivals]
  congr 1
  rw [List.filter_cons]
  split_ifs <;> simp_all

/-- A method at the end of a queue names one slot at most, whether the entity there takes it or
not. -/
lemma bound_append (store : Store) (queue : List Routine) (f : Routine) (id : EntityId) :
    store.bound (queue ++ [f]) id =
      store.bound queue id ++ if store.findByName f.receiver = some id then [f] else [] := by
  rw [bound, List.filter_append, bound]
  congr 1
  rw [List.filter_cons]
  split_ifs <;> simp_all

end Store

/-- What is taken brings all the names there are, as only repeated names are left out. -/
lemma Loading.any_append_novel (methods functions : List Routine) (name : String) :
    (methods ++ novel methods functions).any (·.name == name) =
      (methods ++ functions).any (·.name == name) := by
  induction functions generalizing methods with
  | nil => rfl
  | cons f functions ih =>
      rw [novel]
      split_ifs with htaken
      · rw [ih]
        simp only [List.any_append, List.any_cons]
        cases hname : f.name == name
        · rw [Bool.false_or]
        · rw [beq_iff_eq] at hname
          rw [← hname, htaken, Bool.true_or, Bool.true_or]
      · rw [List.append_cons, ih, ← List.append_cons]

namespace Store

variable {store : Store} {id : EntityId} {queue : List Routine}

/-- Of the methods that name an entity those of new names end there. -/
lemma arrivals_eq_novel {methods : List Routine} (h : store.methodsOf? id = some methods)
    (queue : List Routine) : store.arrivals queue id = novel methods (store.bound queue id) := by
  induction queue using List.reverseRecOn with
  | nil => rfl
  | append_singleton queue f ih =>
      rw [arrivals_append, ih, bound_append, novel_append]
      congr 1
      by_cases hfind : store.findByName f.receiver = some id
      · rw [if_pos hfind, novel, any_append_novel]
        simp only [fate, hfind, h, novel]
        split_ifs <;> simp_all
      · rw [if_neg hfind, if_neg fun h => hfind h.2, novel]

/-- An entity takes the methods that end in its slot. -/
lemma settled_eq_withMethods {entity : Entity} (h : store.definition? id = some entity)
    (queue : List Routine) : store.settled queue id entity =
      entity.withMethods (entity.methods?.getD [] ++ store.arrivals queue id) := by
  cases hmethods : entity.methods? with
  | none =>
      cases entity with
      | record _ | protocol _ => contradiction
      | union d => exact congrArg Entity.union (by simp)
  | some methods =>
      rw [arrivals_eq_novel (by rw [methodsOf?, h, Option.bind_some, hmethods]), Option.getD_some]
      cases entity with
      | record d =>
          obtain rfl : d.methods = methods := Option.some.inj hmethods
          simp [settled, Entity.extend, Entity.withMethods]
      | protocol d =>
          obtain rfl : d.methods = methods := Option.some.inj hmethods
          simp [settled, Entity.extend, Entity.withMethods]
      | union d => contradiction

/-- Behind a queue an entity has the methods of new names behind its own. -/
lemma methodsOf?_settled (store : Store) (queue : List Routine) (id : EntityId) :
    (store.mapEntities (store.settled queue)).methodsOf? id =
      (store.methodsOf? id).map fun methods => methods ++ novel methods (store.bound queue id) := by
  rw [methodsOf?, definition?_mapEntities, methodsOf?]
  cases store.definition? id with
  | none => rfl
  | some entity => exact entity.methods?_extend

/-- What becomes of a method in the grown store is what becomes of it behind those before.  This is
what lets the fates be read off the store before the pass. -/
lemma fate_settled (store : Store) (queue : List Routine) (f : Routine) :
    (store.mapEntities (store.settled queue)).fate [] f = store.fate queue f := by
  rw [fate, fate, findByName_settled]
  cases store.findByName f.receiver with
  | none => rfl
  | some id =>
      simp only [methodsOf?_settled]
      cases store.methodsOf? id with
      | none => rfl
      | some methods =>
          have hnone : store.bound [] id = [] := rfl
          rw [bound_settled, hnone, Option.map_some]
          dsimp only
          rw [List.append_nil, any_append_novel]

end Store

/-! ## The loop -/

/-- The counters of a load after a second pass with so many methods of each outcome.  Counters that
the pass does not touch are kept. -/
def LoadStats.settledBy (stats : LoadStats) (count : Attachment → ℕ) : LoadStats :=
  { stats with
    attached := stats.attached + count .added
    duplicateMethods := stats.duplicateMethods + count .duplicate
    unattached := stats.unattached + count .refused }

namespace Loader

/-- The loop does to a method what `fate` says, and counts it: one step of the pass. -/
lemma stats_settle_eq (l : Loader) (f : Routine) :
    (l.settle f).stats =
      l.stats.settledBy fun outcome => if l.store.fate [] f = outcome then 1 else 0 := by
  rw [settle, Store.fate]
  cases hfind : l.store.findByName f.receiver with
  | none => rfl
  | some id =>
      obtain ⟨entity, hentity, _⟩ := Store.exists_definition_of_findByName hfind
      have hattach : (l.toSession.attach id f).1 = (entity.attach f).2 := by
        simp [Session.attach, Store.entity?_of_definition? hentity]
      dsimp only [run]
      simp only [hattach, Entity.attach, Store.methodsOf?, hentity, Option.bind_some]
      cases entity.methods? with
      | none => rfl
      | some methods =>
          simp only [Store.bound, List.filter_nil, List.append_nil]
          split_ifs <;> rfl

/-- The loop counts every method of the queue under what `fate` says of it behind those before. -/
lemma stats_foldl_settle_eq (l : Loader) (queue : List Routine) :
    (queue.foldl settle l).stats = l.stats.settledBy (l.store.tally queue) := by
  induction queue using List.reverseRecOn with
  | nil => rfl
  | append_singleton queue f ih =>
      rw [List.foldl_append, List.foldl_cons, List.foldl_nil, stats_settle_eq, ih,
        store_foldl_settle, Store.fate_settled]
      simp only [LoadStats.settledBy, Store.tally_append, Nat.add_assoc]

/-- What the second pass makes of a loader, part by part; what is not listed is as it was. -/
structure Finished (l after : Loader) : Prop where
  /-- Every entity has the methods that end in its slot behind its own, and is as it was else. -/
  slots : ∀ id : EntityId, after.store.slots[id.slot]? = l.store.slots[id.slot]?.map fun slot =>
    slot.map fun entity =>
      entity.withMethods (entity.methods?.getD [] ++ l.store.arrivals l.pending id)
  order : after.store.order = l.store.order
  functions : after.store.functions = l.store.functions
  files : after.store.files = l.store.files
  lookup : ∀ refid, after.store.lookup refid = l.store.lookup refid
  findByName : ∀ name, after.store.findByName name = l.store.findByName name
  /-- What ends in a slot are the methods that name its entity, of each new name the first. -/
  arrivals : ∀ id methods, l.store.methodsOf? id = some methods →
    l.store.arrivals l.pending id = novel methods (l.store.bound l.pending id)
  pending : after.pending = []
  stats : after.stats = l.stats.settledBy (l.store.tally l.pending)
  /-- Every method is counted once. -/
  total : l.store.tally l.pending .added + l.store.tally l.pending .duplicate
    + l.store.tally l.pending .refused = l.pending.length

/-- **The second pass attaches what it should**, and counts what it does.  Slots and counters follow
from the two inductions over the queue, and all other parts of the loader are not touched by any
step. -/
theorem finished (l : Loader) : Finished l l.finish where
  slots := by
    intro id
    rw [store_finish, Store.mapEntities, Array.getElem?_mapIdx]
    cases hslot : l.store.slots[id.slot]? with
    | none => rfl
    | some slot =>
        cases slot with
        | undefined refid methods => rfl
        | defined entity refid =>
            have hentity := Store.definition?_eq_some_iff.2 ⟨refid, hslot⟩
            exact congrArg (fun entity => some (Slot.defined entity refid))
              (Store.settled_eq_withMethods hentity l.pending)
  order := by rw [store_finish]; rfl
  functions := by rw [store_finish]; rfl
  files := by rw [store_finish]; rfl
  lookup := by
    intro refid
    rw [store_finish, Store.lookup_eq_idxOf?, Store.refids_mapEntities, ← Store.lookup_eq_idxOf?]
  findByName := by
    intro name
    rw [store_finish, Store.findByName_settled]
  arrivals := fun id methods h => Store.arrivals_eq_novel h l.pending
  pending := l.pending_finish
  stats := by
    obtain ⟨journal, hfinish⟩ := l.finish_eq
    rw [hfinish]
    exact stats_foldl_settle_eq { l with pending := [] } l.pending
  total := l.store.tally_add l.pending

end Loader

end FrameworkBindings
