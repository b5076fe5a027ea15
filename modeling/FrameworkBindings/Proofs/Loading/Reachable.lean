import FrameworkBindings.Proofs.Loading.Entries
import FrameworkBindings.Proofs.Loading.Settling

/-!
# What every loader keeps

Whatever entries are loaded, in whatever order, whether they are refused half way or not, and
whenever the waiting methods are handed out: a loader never gets into a state in which a type refers
to a slot that is not there, or a method sits where it does not belong.

**States.**  `Loader.Reachable` are the states of a run: it starts with nothing, loads entries,
passes from one loader to the next on the same store, and ends loaders.

**The invariant.**  `Loader.Sound` is what holds in all of them.  Its parts on types speak of
`Store.Grounds`, its part on methods is `Entity.Owns`.

**Steps.**  An effect that is `Effect.Clean` keeps the invariant (`Sound.takes`), the effects of
sections are clean (`clean_sectionsEffect`, `clean_fileEffect`), and what remains is one lemma for a
definition (`Sound.define`) and one for the second pass (`Sound.finish`).

**Why types stay grounded.**  A type is made under the numbering of the store at that moment, and
only from reference ids that were given a slot before (`RefersTo`).  Slots are never taken back, so
a type that was grounded is grounded in every later store (`Store.Grounds.of_grown`).

**Why methods stay at home.**  A function joins the entity under which it is listed only if it names
it, and in the second pass an entity takes only what names it.  Both go by `Entity.extend`, which
takes new names only, so names stay distinct.
-/

namespace FrameworkBindings

open Document Loading

/-! ## Types -/

/-- Every slot in the type is there, though perhaps still awaited. -/
def Store.Grounds (store : Store) (t : NativeType) : Prop := ∀ id ∈ t.ids, id.slot < store.size

/-- Slots are never taken back, so what is grounded stays so. -/
lemma Store.Grounds.of_grown {store other : Store} {t : NativeType} (h : store.Grounds t)
    (hgrown : store.refids <+: other.refids) : other.Grounds t := by
  intro id hid
  have hsize := hgrown.length_le
  rw [length_refids, length_refids] at hsize
  exact Nat.lt_of_lt_of_le (h id hid) hsize

/-- The numbers of reference ids that were mentioned are slots. -/
lemma Loading.RefersTo.grounds {ν : String → EntityId} {store : Store} {refids : List String}
    {t : NativeType} (h : RefersTo ν refids t) (hrefids : ∀ refid ∈ refids, refid ∈ store.refids)
    (hν : store.NumberedBy ν) : store.Grounds t := by
  intro id hid
  obtain ⟨refid, hmem, rfl⟩ := h id hid
  obtain ⟨found, hfound⟩ := Store.exists_lookup_of_mem (hrefids refid hmem)
  rw [hν refid found hfound]
  exact Store.slot_lt_of_lookup hfound

/-! ## Methods -/

namespace Entity

/-- The methods of the entity have names of their own, and belong to it by name.  An entity without
a name owns nothing. -/
def Owns (entity : Entity) : Prop :=
  ∀ methods, entity.methods? = some methods →
    (methods.map Routine.name).Nodup ∧ ∀ f ∈ methods, f.receiver = entity.name ∧ f.receiver ≠ ""

variable {entity : Entity} {attributes : List Attribute} {properties : List Property}
  {functions : List Routine}

/-- An entity that owns its methods owns further ones that name it, as repeated names are left
out. -/
lemma Owns.extend (h : entity.Owns)
    (hfunctions : ∀ f ∈ functions, f.receiver = entity.name ∧ f.receiver ≠ "") :
    (entity.extend attributes properties functions).Owns := by
  intro methods hmethods
  rw [methods?_extend, Option.map_eq_some_iff] at hmethods
  obtain ⟨old, hold, rfl⟩ := hmethods
  obtain ⟨hnodup, hbelong⟩ := h old hold
  refine ⟨nodup_novel hnodup, fun f hf => ?_⟩
  rw [name_extend]
  rcases List.mem_append.1 hf with hf | hf
  · exact hbelong f hf
  · exact hfunctions f (mem_of_mem_novel hf)

/-- A further member brings its own types and no others. -/
lemma mem_types_extend {t : NativeType}
    (h : t ∈ (entity.extend attributes properties functions).types) :
    t ∈ entity.types ∨ (∃ field ∈ attributes, t = field.type) ∨
      (∃ property ∈ properties, t = property.type) ∨ ∃ f ∈ functions, t ∈ f.types := by
  have hmethods : ∀ old : List Routine, t ∈ (old ++ novel old functions).flatMap Routine.types →
      t ∈ old.flatMap Routine.types ∨ ∃ f ∈ functions, t ∈ f.types := by
    intro old hold
    rw [List.flatMap_append, List.mem_append] at hold
    rcases hold with hold | hnew
    · exact .inl hold
    · obtain ⟨f, hf, ht⟩ := List.mem_flatMap.1 hnew
      exact .inr ⟨f, mem_of_mem_novel hf, ht⟩
  cases entity with
  | record d =>
      simp only [types, Entity.extend, attributes?, properties?, methods?, Option.getD_some,
        List.map_append, List.mem_append] at h ⊢
      rcases h with ((h | h) | h | h) | h
      · exact .inl (.inl (.inl h))
      · obtain ⟨field, hfield, rfl⟩ := List.mem_map.1 h
        exact .inr (.inl ⟨field, hfield, rfl⟩)
      · exact .inl (.inl (.inr h))
      · obtain ⟨property, hproperty, rfl⟩ := List.mem_map.1 h
        exact .inr (.inr (.inl ⟨property, hproperty, rfl⟩))
      · rcases hmethods d.methods h with h | h
        · exact .inl (.inr h)
        · exact .inr (.inr (.inr h))
  | protocol d =>
      simp only [types, Entity.extend, attributes?, properties?, methods?, Option.getD_some,
        Option.getD_none, List.map_append, List.map_nil, List.nil_append, List.mem_append] at h ⊢
      rcases h with (h | h) | h
      · exact .inl (.inl h)
      · obtain ⟨property, hproperty, rfl⟩ := List.mem_map.1 h
        exact .inr (.inr (.inl ⟨property, hproperty, rfl⟩))
      · rcases hmethods d.methods h with h | h
        · exact .inl (.inr h)
        · exact .inr (.inr (.inr h))
  | union d =>
      simp only [types, Entity.extend, attributes?, properties?, methods?, Option.getD_some,
        Option.getD_none, List.map_append, List.map_nil, List.flatMap_nil, List.append_nil,
        List.mem_append] at h ⊢
      rcases h with h | h
      · exact .inl h
      · obtain ⟨field, hfield, rfl⟩ := List.mem_map.1 h
        exact .inr (.inl ⟨field, hfield, rfl⟩)

end Entity

namespace Loading

variable {ν : String → EntityId} {entry : IndexEntry} {compound : Compound} {entity : Entity}

/-- Without members, an entity refers to nothing and owns all its methods. -/
lemma grounds_blank (h : blank? entry compound = some entity) :
    entity.types = [] ∧ entity.Owns := by
  obtain ⟨hattributes, hproperties, hmethods⟩ := members_of_blank h
  refine ⟨?_, fun methods hsome => ?_⟩
  · rw [Entity.types, hattributes, hproperties, hmethods]
    rfl
  · rw [hsome] at hmethods
    obtain rfl : methods = [] := hmethods
    simp

/-- What sections make of it owns its methods, as only its own functions join it. -/
lemma owns_entityFrom (h : blank? entry compound = some entity) (sections : List Section) :
    (entityFrom ν entity sections).Owns := by
  refine (grounds_blank h).2.extend fun f hf => ?_
  obtain ⟨_, hown⟩ := List.mem_filter.1 hf
  rw [Bool.and_eq_true, Bool.not_eq_true', beq_iff_eq] at hown
  obtain ⟨hbound, hname⟩ := hown
  exact ⟨hname, fun hempty => by simp [Routine.isFree, hempty] at hbound⟩

lemma refersTo_routinesOf {sections : List Section} {refids : Section → List String}
    (hrefids : ∀ s, functionRefids s ⊆ refids s) :
    ∀ f ∈ routinesOf ν sections, ∀ t ∈ f.types, RefersTo ν (sections.flatMap refids) t := by
  intro f hf t ht
  obtain ⟨s, hs, hf⟩ := List.mem_flatMap.1 hf
  refine (refersTo_sectionRoutines s f hf t ht).mono fun refid hrefid => ?_
  exact List.mem_flatMap.2 ⟨s, hs, hrefids s hrefid⟩

/-- An entity refers to what its sections mention, in its fields, its properties and its methods. -/
lemma refersTo_entityFrom (h : blank? entry compound = some entity) {sections : List Section} :
    ∀ t ∈ (entityFrom ν entity sections).types,
      RefersTo ν (sections.flatMap sectionRefids) t := by
  intro t ht
  rcases Entity.mem_types_extend ht with ht | ⟨field, hfield, rfl⟩ | ⟨property, hproperty, rfl⟩ |
    ⟨f, hf, ht⟩
  · rw [(grounds_blank h).1] at ht
    contradiction
  · obtain ⟨s, hs, hfield⟩ := List.mem_flatMap.1 hfield
    refine (refersTo_sectionAttributes s field hfield).mono fun refid hrefid => ?_
    exact List.mem_flatMap.2 ⟨s, hs, hrefid⟩
  · obtain ⟨s, hs, hproperty⟩ := List.mem_flatMap.1 hproperty
    refine (refersTo_sectionProperties s property hproperty).mono fun refid hrefid => ?_
    exact List.mem_flatMap.2 ⟨s, hs, hrefid⟩
  · exact refersTo_routinesOf functionRefids_subset f (List.mem_filter.1 hf).1 t ht

end Loading

/-! ## Clean effects -/

namespace Effect

/-- The functions in the effect refer to what the effect mentions, and are where they belong: free
ones name no entity, and those that wait name one. -/
structure Clean (ν : String → EntityId) (e : Effect) : Prop where
  free_types : ∀ f ∈ e.free, ∀ t ∈ f.types, RefersTo ν e.refids t
  waiting_types : ∀ f ∈ e.waiting, ∀ t ∈ f.types, RefersTo ν e.refids t
  free : ∀ f ∈ e.free, f.receiver = ""
  waiting : ∀ f ∈ e.waiting, f.receiver ≠ ""

variable {ν : String → EntityId}

/-- Counting is clean, as it brings no functions. -/
lemma clean_counts (counts : LoadStats) : ({ counts } : Effect).Clean ν where
  free_types := by simp
  waiting_types := by simp
  free := by simp
  waiting := by simp

/-- Counting before something clean is clean, as counters refer to nothing. -/
lemma Clean.counted {e : Effect} (h : e.Clean ν) (counts : LoadStats) :
    ({ counts } ++ e : Effect).Clean ν :=
  ⟨h.free_types, h.waiting_types, h.free, h.waiting⟩

lemma clean_sectionsEffect (entity : Entity) (sections : List Section) :
    (sectionsEffect ν entity sections).Clean ν := by
  have htypes : ∀ f ∈ routinesOf ν sections, ∀ t ∈ f.types,
      RefersTo ν (sections.flatMap sectionRefids ++ []) t := by
    rw [List.append_nil]
    exact refersTo_routinesOf functionRefids_subset
  refine ⟨fun f hf => ?_, fun f hf => ?_, fun f hf => ?_, fun f hf => ?_⟩
  · exact htypes f (List.mem_filter.1 hf).1
  · exact htypes f (List.mem_filter.1 hf).1
  · have hfree := (List.mem_filter.1 hf).2
    rwa [Routine.isFree, beq_iff_eq] at hfree
  · have hwaiting := (List.mem_filter.1 hf).2
    rw [Bool.and_eq_true] at hwaiting
    exact fun hempty => by simp [Routine.isFree, hempty] at hwaiting

lemma clean_fileEffect (sections : List Section) : (fileEffect ν sections).Clean ν := by
  have htypes : ∀ f ∈ routinesOf ν sections, ∀ t ∈ f.types,
      RefersTo ν (sections.flatMap functionRefids ++ []) t := by
    rw [List.append_nil]
    exact refersTo_routinesOf fun s => List.Subset.refl _
  refine ⟨fun f hf => ?_, fun f hf => ?_, fun f hf => ?_, fun f hf => ?_⟩
  · exact htypes f (List.mem_filter.1 hf).1
  · exact htypes f (List.mem_filter.1 hf).1
  · have hfree := (List.mem_filter.1 hf).2
    rwa [Routine.isFree, beq_iff_eq] at hfree
  · have hbound := (List.mem_filter.1 hf).2
    exact fun hempty => by simp [Routine.isFree, hempty] at hbound

end Effect

/-! ## The invariant -/

namespace Loader

/-- The states of a run.  Loaders come one after the other, on one store, and refused entries are
part of it. -/
inductive Reachable : Loader → Prop
  | fresh (journal : Journal) : Reachable { journal }
  /-- An entry is loaded, or refused. -/
  | loadEntry {l : Loader} (entry : IndexEntry) (compound : Compound) (h : Reachable l) :
      Reachable (l.loadEntry entry compound).2
  | finish {l : Loader} (h : Reachable l) : Reachable l.finish
  /-- Another loader goes on with the store. -/
  | renew {l : Loader} (h : Reachable l) : Reachable (ofSession l.toSession)

/-- What holds of a loader in every reachable state: of its store, of all types in it, and of the
functions that are free or wait. -/
structure Sound (l : Loader) : Prop where
  consistent : l.store.Consistent
  /-- A definition is in the slot of its reference id. -/
  keyed : ∀ id entity, l.store.definition? id = some entity →
    ∀ refid, l.store.lookup refid = some id ↔ refid = entity.refid
  entity_types : ∀ id entity, l.store.definition? id = some entity →
    ∀ t ∈ entity.types, l.store.Grounds t
  function_types : ∀ f ∈ l.store.functions, ∀ t ∈ f.types, l.store.Grounds t
  pending_types : ∀ f ∈ l.pending, ∀ t ∈ f.types, l.store.Grounds t
  owns : ∀ id entity, l.store.definition? id = some entity → entity.Owns
  functions_free : ∀ f ∈ l.store.functions, f.receiver = ""
  pending_bound : ∀ f ∈ l.pending, f.receiver ≠ ""

end Loader

/-- The slot of a definition is found by its reference id and by no other. -/
lemma Store.Consistent.keyed {store : Store} (h : store.Consistent) {id : EntityId}
    {entity : Entity} (hdef : store.definition? id = some entity) (refid : String) :
    store.lookup refid = some id ↔ refid = entity.refid := by
  rw [lookup_eq_some_iff h.nodup, h.own id entity hdef, Option.some.injEq]
  exact eq_comm

namespace Loader.Sound

variable {ν : String → EntityId} {l l' : Loader}

/-- The invariant holds when nothing has been loaded. -/
lemma fresh (journal : Journal) : Sound { journal } where
  consistent := .empty
  keyed := by simp [Store.definition?]
  entity_types := by simp [Store.definition?]
  function_types := by simp
  pending_types := by simp
  owns := by simp [Store.definition?]
  functions_free := by simp
  pending_bound := by simp

/-- The next loader has no waiting methods, and the rest of the invariant is about the store. -/
lemma renew (h : Sound l) : Sound (ofSession l.toSession) where
  consistent := h.consistent
  keyed := h.keyed
  entity_types := h.entity_types
  function_types := h.function_types
  pending_types := by simp [ofSession]
  owns := h.owns
  functions_free := h.functions_free
  pending_bound := by simp [ofSession]

/-- Files play no part in the invariant, which is about types and functions. -/
lemma addFile (h : Sound l) {file : Declaration} {store : Store}
    (hfile : l.store.addFile file = .ok store) : Sound (l.onStore fun _ => store) := by
  unfold Store.addFile at hfile
  split at hfile
  · contradiction
  · cases hfile
    exact ⟨h.consistent.of_slots rfl rfl, h.keyed, h.entity_types, h.function_types,
      h.pending_types, h.owns, h.functions_free, h.pending_bound⟩

/-- **A clean effect keeps the invariant**: it gives slots before anything refers to them. -/
lemma takes (h : Sound l) {e : Effect} (htakes : e.Takes l l') (hclean : e.Clean ν)
    (hν : l'.store.NumberedBy ν) : Sound l' := by
  have hgrown := htakes.refids_grown
  have hdef : ∀ id, l'.store.definition? id = l.store.definition? id := by
    intro id
    rw [htakes.store]
    exact Store.definition?_mention l.store e.refids id
  have hfunctions := htakes.functions
  have hmentioned : ∀ refid ∈ e.refids, refid ∈ l'.store.refids := fun refid hrefid =>
    (htakes.mem_refids refid).2 (.inr hrefid)
  have hconsistent := htakes.consistent h.consistent
  refine ⟨hconsistent, fun id entity hid => hconsistent.keyed hid, ?_, ?_, ?_, ?_, ?_, ?_⟩
  · intro id entity hid t ht
    rw [hdef] at hid
    exact (h.entity_types id entity hid t ht).of_grown hgrown
  · intro f hf t ht
    rw [hfunctions, List.mem_append] at hf
    rcases hf with hf | hf
    · exact (h.function_types f hf t ht).of_grown hgrown
    · exact (hclean.free_types f hf t ht).grounds hmentioned hν
  · intro f hf t ht
    rw [htakes.pending, List.mem_append] at hf
    rcases hf with hf | hf
    · exact (h.pending_types f hf t ht).of_grown hgrown
    · exact (hclean.waiting_types f hf t ht).grounds hmentioned hν
  · intro id entity hid
    rw [hdef] at hid
    exact h.owns id entity hid
  · intro f hf
    rw [hfunctions, List.mem_append] at hf
    rcases hf with hf | hf
    · exact h.functions_free f hf
    · exact hclean.free f hf
  · intro f hf
    rw [htakes.pending, List.mem_append] at hf
    rcases hf with hf | hf
    · exact h.pending_bound f hf
    · exact hclean.waiting f hf

/-- A definition keeps the invariant, if its types are grounded and its methods its own.  Slots that
were awaited get a definition, and all others are as they were. -/
lemma define (h : Sound l) {entity : Entity} {id : EntityId} {store : Store}
    (hdefine : l.store.define entity = .ok (id, store)) (hstore : l'.store = store)
    (hpending : l'.pending = l.pending) (htypes : ∀ t ∈ entity.types, l.store.Grounds t)
    (howns : entity.Owns) : Sound l' := by
  have hgrown : l.store.refids <+: l'.store.refids := by
    rw [hstore]
    exact Store.refids_grown_of_define hdefine
  have hdef : ∀ other found, l'.store.definition? other = some found →
      found = entity ∨ l.store.definition? other = some found := by
    intro other found hfound
    rw [hstore, Store.definition?_of_define hdefine] at hfound
    split_ifs at hfound with hid
    · exact .inl (Option.some.inj hfound).symm
    · exact .inr hfound
  have hfunctions : l'.store.functions = l.store.functions := by
    rw [hstore, Store.frame_of_define hdefine]
  have hconsistent : l'.store.Consistent := by
    rw [hstore]
    exact h.consistent.define hdefine
  refine ⟨hconsistent, fun id entity hid => hconsistent.keyed hid, ?_, ?_, ?_, ?_, ?_, ?_⟩
  · intro other found hfound t ht
    rcases hdef other found hfound with rfl | hold
    · exact (htypes t ht).of_grown hgrown
    · exact (h.entity_types other found hold t ht).of_grown hgrown
  · intro f hf t ht
    rw [hfunctions] at hf
    exact (h.function_types f hf t ht).of_grown hgrown
  · intro f hf t ht
    rw [hpending] at hf
    exact (h.pending_types f hf t ht).of_grown hgrown
  · intro other found hfound
    rcases hdef other found hfound with rfl | hold
    · exact howns
    · exact h.owns other found hold
  · rw [hfunctions]
    exact h.functions_free
  · rw [hpending]
    exact h.pending_bound

/-- **Loading an entry keeps the invariant**, also where it is refused half way. -/
theorem loadEntry (h : Sound l) (entry : IndexEntry) (compound : Compound) :
    Sound (l.loadEntry entry compound).2 := by
  have hnumbered := (l.loadEntry entry compound).2.store.numberedBy_numbering
  have hstep := l.loadEntry_step entry compound hnumbered
  generalize (l.loadEntry entry compound).2.store.numbering = ν at hnumbered hstep
  generalize l.loadEntry entry compound = out at hnumbered hstep
  obtain ⟨result, l'⟩ := out
  cases hstep with
  | @misfit entity e _ hblank hmisfit htakes =>
      exact h.takes htakes ((Effect.clean_sectionsEffect entity _).counted _) hnumbered
  | @refused entity e _ hblank hfits htakes hdefine =>
      exact h.takes htakes ((Effect.clean_sectionsEffect entity _).counted _) hnumbered
  | @defined entity id store l₁ _ hblank hfits htakes hdefine hstore hpending hstats =>
      have hgrown : l₁.store.refids <+: l'.store.refids := by
        rw [hstore]
        exact Store.refids_grown_of_define hdefine
      have hν := hnumbered.of_grown hgrown
      have hsound := h.takes htakes ((Effect.clean_sectionsEffect entity _).counted _) hν
      refine hsound.define hdefine hstore hpending (fun t ht => ?_) (owns_entityFrom hblank _)
      refine (refersTo_entityFrom hblank t ht).grounds (fun refid hrefid => ?_) hν
      rw [htakes.mem_refids]
      exact .inr (by simpa [sectionsEffect, reading, placing, Effect.append_def] using hrefid)
  | @fileRefused e _ hkind hfile htakes =>
      exact h.takes htakes (Effect.clean_counts _) hnumbered
  | @filed store _ hkind hfile htakes =>
      exact (h.addFile hfile).takes htakes ((Effect.clean_fileEffect _).counted _) hnumbered
  | @ignored _ hkind htakes =>
      exact h.takes htakes (Effect.clean_counts _) hnumbered

/-- **The second pass keeps the invariant.**  A method goes to an entity of its receiver's name. -/
theorem finish (h : Sound l) : Sound l.finish := by
  have hhead := Store.head_settled l.store l.pending
  have hrefids : l.finish.store.refids = l.store.refids := by
    rw [l.store_finish, Store.refids_mapEntities]
  have hgrounds : ∀ t, l.store.Grounds t → l.finish.store.Grounds t := fun t ht =>
    ht.of_grown (hrefids ▸ List.prefix_rfl)
  have hfunctions : l.finish.store.functions = l.store.functions := by rw [l.store_finish]; rfl
  have hdef : ∀ id entity, l.finish.store.definition? id = some entity →
      ∃ old, l.store.definition? id = some old ∧
        entity = old.extend [] [] (l.store.bound l.pending id) := by
    intro id entity hid
    rw [l.store_finish, Store.definition?_mapEntities, Option.map_eq_some_iff] at hid
    obtain ⟨old, hold, rfl⟩ := hid
    exact ⟨old, hold, rfl⟩
  have hconsistent : l.finish.store.Consistent := by
    rw [l.store_finish]
    exact h.consistent.mapEntities hhead
  refine ⟨hconsistent, fun id entity hid => hconsistent.keyed hid, ?_, ?_, ?_, ?_, ?_, ?_⟩
  · intro id entity hid t ht
    obtain ⟨old, hold, rfl⟩ := hdef id entity hid
    rcases Entity.mem_types_extend ht with ht | ⟨_, hmem, _⟩ | ⟨_, hmem, _⟩ | ⟨f, hf, ht⟩
    · exact hgrounds t (h.entity_types id old hold t ht)
    · contradiction
    · contradiction
    · exact hgrounds t (h.pending_types f (List.mem_filter.1 hf).1 t ht)
  · intro f hf t ht
    rw [hfunctions] at hf
    exact hgrounds t (h.function_types f hf t ht)
  · simp [l.pending_finish]
  · intro id entity hid
    obtain ⟨old, hold, rfl⟩ := hdef id entity hid
    refine (h.owns id old hold).extend fun f hf => ?_
    obtain ⟨hmem, hfind⟩ := List.mem_filter.1 hf
    obtain ⟨hnonempty, hname⟩ := Store.nameOf_of_findByName (of_decide_eq_true hfind)
    rw [Store.nameOf, Store.entity?_of_definition? hold, Option.map_some] at hname
    exact ⟨(Option.some.inj hname).symm, hnonempty⟩
  · rw [hfunctions]
    exact h.functions_free
  · simp [l.pending_finish]

end Loader.Sound

namespace Loader

/-- **Every reachable state is sound.**  Types refer to slots that are there, definitions are in the
slots of their reference ids, entities own their methods, and free functions and waiting methods are
kept apart.  By induction over the run. -/
theorem sound_of_reachable {l : Loader} (h : Reachable l) : l.Sound := by
  induction h with
  | fresh journal => exact .fresh journal
  | loadEntry entry compound _ ih => exact ih.loadEntry entry compound
  | finish _ ih => exact ih.finish
  | renew _ ih => exact ih.renew

/-- A protocol with a method of a class, and with fields, which a protocol cannot hold. -/
def misfitProtocol : Compound where
  sections := [
    { kind := "public-func"
      members := [
        { id := "m", kind := "function", name := "window", definition := "NSWindow * NSView::window"
          type := some ⟨"", [⟨"w", "NSWindow"⟩]⟩ }] },
    { kind := "public-attrib" }]

/-- The loader after the protocol was refused, the class defined and the second pass made. -/
def afterMisfit : Loader :=
  ((({} : Loader).loadEntry ⟨"p", "NSCoding-p", "protocol"⟩ misfitProtocol).2.loadEntry
    ⟨"v", "NSView", "class"⟩ {}).2.finish

/-- The refused protocol left a slot and a waiting method behind, and both come to their use: the
method joins the class that is defined later. -/
theorem sound_afterMisfit :
    Reachable afterMisfit ∧ afterMisfit.Sound ∧ afterMisfit.store.refids = ["w", "v"] ∧
      afterMisfit.stats.protocols = 1 ∧ afterMisfit.stats.attached = 1 := by
  have hreachable : Reachable afterMisfit :=
    .finish (.loadEntry _ _ (.loadEntry _ _ (.fresh #[])))
  refine ⟨hreachable, sound_of_reachable hreachable, ?_, ?_, ?_⟩
  · decide +kernel
  · decide +kernel
  · decide +kernel

end Loader

end FrameworkBindings
