import FrameworkBindings.Proofs.Loading.Reachable

/-!
# What further loading keeps

A store only grows.  Slots that were awaited get definitions, and entities get methods behind those
they had; nothing that was defined is taken back, renamed or moved.

* `Store.GrowsTo` — the relation between a store and one that it has grown to, a preorder.
* `GrowsTo.takes`, `GrowsTo.define`, `GrowsTo.finish` — effects, definitions and the second pass.
* `GrowsTo.findByName` — a name that was found is found in the same slot.
* `Loader.Onward` — a loader that goes on, and `Onward.growsTo`: its store grows, whether entries
  are loaded or refused.

**Methods and nothing else.**  A definition is only ever extended by methods, since the second pass
adds no fields and no properties.  The relation says so, which is what keeps the declarations that
were written of an entity in place when more is loaded.

**Names.**  The first definition of a name is the one that is found.  As definitions are only added
behind the others, it stays the first; the order is part of the relation for this.
-/

namespace FrameworkBindings

open Document Loading

/-- The second store has the definitions of the first, in their slots and in their order, and at
most they have got further methods. -/
structure Store.GrowsTo (store store' : Store) : Prop where
  definition : ∀ id entity, store.definition? id = some entity →
    ∃ functions, store'.definition? id = some (entity.extend [] [] functions)
  order : store.order <+: store'.order

namespace Store.GrowsTo

variable {store store' store'' : Store}

/-- A store with the same definitions has grown by nothing. -/
lemma of_eq (hdef : ∀ id, store'.definition? id = store.definition? id)
    (horder : store'.order = store.order) : store.GrowsTo store' where
  definition := fun id entity hentity => ⟨[], by rw [hdef, hentity, Entity.extend_nil]⟩
  order := horder ▸ List.prefix_rfl

lemma refl (store : Store) : store.GrowsTo store := of_eq (fun _ => rfl) rfl

lemma trans (h : store.GrowsTo store') (h' : store'.GrowsTo store'') : store.GrowsTo store'' where
  definition := by
    intro id entity hentity
    obtain ⟨functions, hfirst⟩ := h.definition id entity hentity
    obtain ⟨others, hsecond⟩ := h'.definition id _ hfirst
    exact ⟨functions ++ others, by rw [hsecond, Entity.extend_extend]; rfl⟩
  order := h.order.trans h'.order

/-- Mentions, functions and counters define nothing, so a store grows by an effect without a new
definition. -/
lemma takes {e : Effect} {l l' : Loader} (h : e.Takes l l') : l.store.GrowsTo l'.store := by
  refine of_eq (fun id => ?_) ?_
  · rw [h.store]
    exact l.store.definition?_mention e.refids id
  · rw [h.store]
    rw [mention_frame]

/-- A definition fills a slot that was awaited, behind the definitions before. -/
lemma define {entity : Entity} {id : EntityId} (h : store.define entity = .ok (id, store')) :
    store.GrowsTo store' where
  definition := by
    intro other found hfound
    have hother : other ≠ id := by
      rintro rfl
      rw [(id_of_define h).2] at hfound
      contradiction
    exact ⟨[], by rw [definition?_of_define h, if_neg hother, hfound, Entity.extend_nil]⟩
  order := by
    rw [frame_of_define h]
    exact List.prefix_append _ _

/-- The second pass adds methods, and keeps all definitions in their order. -/
lemma finish (l : Loader) : l.store.GrowsTo l.finish.store where
  definition := by
    intro id entity hentity
    rw [l.store_finish, definition?_mapEntities, hentity]
    exact ⟨l.store.bound l.pending id, rfl⟩
  order := by
    rw [l.store_finish]
    exact List.prefix_rfl

/-- A definition keeps its name, and with it what types are called that refer to it. -/
lemma nameOf (h : store.GrowsTo store') {id : EntityId} {entity : Entity}
    (hentity : store.definition? id = some entity) : store'.nameOf id = store.nameOf id := by
  obtain ⟨functions, hgrown⟩ := h.definition id entity hentity
  rw [Store.nameOf, Store.nameOf, entity?_of_definition? hgrown, entity?_of_definition? hentity,
    Option.map_some, Option.map_some, Entity.name_extend]

/-- The first definition of a name stays the first. -/
lemma findByName (h : store.GrowsTo store') (hconsistent : store.Consistent) {name : String}
    {id : EntityId} (hfind : store.findByName name = some id) :
    store'.findByName name = some id := by
  have hnames : ∀ other ∈ store.order, store'.nameOf other = store.nameOf other := by
    intro other hother
    obtain ⟨entity, hentity⟩ := Option.isSome_iff_exists.1 ((hconsistent.mem_order other).1 hother)
    exact h.nameOf hentity
  unfold Store.findByName at hfind ⊢
  split at hfind
  · contradiction
  · rename_i hname
    obtain ⟨hid, before, after, hsplit, hbefore⟩ := List.find?_eq_some_iff_append.1 hfind
    obtain ⟨rest, hrest⟩ := h.order
    rw [if_neg hname, List.find?_eq_some_iff_append]
    refine ⟨?_, before, after ++ rest, ?_, fun other hother => ?_⟩
    · rwa [hnames id (by simp [hsplit])]
    · rw [← hrest, hsplit, List.append_assoc, List.cons_append]
    · rw [hnames other (by simp [hsplit, hother])]
      exact hbefore other hother

end Store.GrowsTo

namespace Loader

/-- The loader goes on: it loads entries, which may be refused, makes second passes, and hands its
store to other loaders. -/
inductive Onward (l : Loader) : Loader → Prop
  | refl : Onward l l
  | loadEntry {l' : Loader} (entry : IndexEntry) (compound : Compound) (h : Onward l l') :
      Onward l (l'.loadEntry entry compound).2
  | finish {l' : Loader} (h : Onward l l') : Onward l l'.finish
  | renew {l' : Loader} (h : Onward l l') : Onward l (ofSession l'.toSession)

/-- **An entry lets the store grow**, also where it is refused half way. -/
theorem growsTo_loadEntry (l : Loader) (entry : IndexEntry) (compound : Compound) :
    l.store.GrowsTo (l.loadEntry entry compound).2.store := by
  have hstep := l.loadEntry_step entry compound
    (l.loadEntry entry compound).2.store.numberedBy_numbering
  generalize (l.loadEntry entry compound).2.store.numbering = ν at hstep
  generalize l.loadEntry entry compound = out at hstep
  obtain ⟨result, l'⟩ := out
  cases hstep with
  | misfit _ _ htakes => exact .takes htakes
  | refused _ _ htakes _ => exact .takes htakes
  | defined _ _ htakes hdefine hstore _ _ =>
      rw [hstore]
      exact (Store.GrowsTo.takes htakes).trans (.define hdefine)
  | fileRefused _ _ htakes => exact .takes htakes
  | @filed store _ _ hfile htakes =>
      refine Store.GrowsTo.trans ?_ (.takes htakes)
      unfold Store.addFile at hfile
      split at hfile
      · contradiction
      · cases hfile
        exact .of_eq (fun _ => rfl) rfl
  | ignored _ htakes => exact .takes htakes

/-- **Whatever is loaded, the store grows.**  By induction over what the loader does. -/
theorem Onward.growsTo {l l' : Loader} (h : Onward l l') : l.store.GrowsTo l'.store := by
  induction h with
  | refl => exact .refl l.store
  | loadEntry entry compound _ ih => exact ih.trans (growsTo_loadEntry _ entry compound)
  | finish _ ih => exact ih.trans (.finish _)
  | renew _ ih => exact ih

end Loader

end FrameworkBindings
