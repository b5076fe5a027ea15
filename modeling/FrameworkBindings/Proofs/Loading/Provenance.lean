import FrameworkBindings.Proofs.Loading.Reachable

/-!
# Where functions come from

Loading moves functions about: some are free, some wait for their receiver, some belong to an
entity, and the second pass gives away those that wait.  It never makes one up and never changes
one.  So whatever holds of the functions that the members of documents stand for (`routineOf`)
holds of all that a loader has.

* `Loader.RunsOver` — the states of a run over documents of a certain kind.
* `Loader.Holds` — the functions that a loader has, in the store or waiting.
* **`declared_of_holds`** — each of them is what a member of a document stands for.

**One lemma for each step.**  A step adds the functions of an effect (`of_takes`), defines an entity
(`of_define`), records a file, settles what waits or starts anew.  For each there is one lemma that
looks from the later loader back at the earlier one, and `of_loadEntry` puts them together for an
entry.  The run lemma is then an induction over the run.

**Failed entries count.**  A run goes on behind an entry that was refused, and what such an entry
left in the store was declared by its document as well.
-/

namespace FrameworkBindings

open Document Loading

namespace Loading

/-- The function is what a member of a section of functions stands for, with some numbering of the
reference ids.  Which one is left open, as numberings change while documents are loaded. -/
def DeclaredIn (sections : List Section) (f : Routine) : Prop :=
  ∃ s ∈ sections, ∃ isStatic, s.sectionKind = .functions isStatic ∧
    ∃ m ∈ functionMembers s, ∃ ν, f = routineOf ν (isStatic || m.isStatic) m

variable {ν : String → EntityId} {sections : List Section} {f : Routine}

/-- What the sections stand for is declared in them. -/
lemma declaredIn_of_mem_routinesOf (h : f ∈ routinesOf ν sections) : DeclaredIn sections f := by
  obtain ⟨s, hs, hf⟩ := List.mem_flatMap.1 h
  unfold sectionRoutines at hf
  split at hf
  · rename_i isStatic hkind
    obtain ⟨m, hm, rfl⟩ := List.mem_map.1 hf
    exact ⟨s, hs, isStatic, hkind, m, hm, ν, rfl⟩
  · contradiction

/-- The sections that were loaded before one was refused are sections of the document. -/
lemma DeclaredIn.of_held {entity : Entity} (h : DeclaredIn (heldSections entity sections) f) :
    DeclaredIn sections f := by
  obtain ⟨s, hs, hdeclared⟩ := h
  exact ⟨s, (List.takeWhile_sublist _).subset hs, hdeclared⟩

/-- The methods of an entity that sections make come from the sections, as it had none before. -/
lemma declaredIn_of_mem_methods {entry : IndexEntry} {compound : Compound} {entity : Entity}
    {methods : List Routine} (hblank : blank? entry compound = some entity)
    (hmethods : (entityFrom ν entity sections).methods? = some methods) (hf : f ∈ methods) :
    DeclaredIn sections f := by
  obtain ⟨-, -, hnone⟩ := members_of_blank hblank
  rw [entityFrom, Entity.methods?_extend, Option.map_eq_some_iff] at hmethods
  obtain ⟨old, hold, rfl⟩ := hmethods
  obtain rfl : old = [] := by rwa [hold, Option.getD_some] at hnone
  rw [List.nil_append] at hf
  exact declaredIn_of_mem_routinesOf (List.mem_filter.1 (mem_of_mem_novel hf)).1

end Loading

namespace Effect

/-- The functions in an effect are declared in sections, the free ones and those that wait. -/
def Declares (sections : List Section) (e : Effect) : Prop :=
  ∀ f, f ∈ e.free ∨ f ∈ e.waiting → DeclaredIn sections f

variable {ν : String → EntityId} {sections : List Section}

lemma declares_sectionsEffect (entity : Entity) (counts : LoadStats) :
    ({ counts } ++ sectionsEffect ν entity sections : Effect).Declares sections := by
  rintro f (hf | hf) <;> exact declaredIn_of_mem_routinesOf (List.mem_filter.1 hf).1

lemma declares_fileEffect (counts : LoadStats) :
    ({ counts } ++ fileEffect ν sections : Effect).Declares sections := by
  rintro f (hf | hf) <;> exact declaredIn_of_mem_routinesOf (List.mem_filter.1 hf).1

lemma declares_counts (counts : LoadStats) : ({ counts } : Effect).Declares sections := by
  rintro f (hf | hf) <;> contradiction

end Effect

namespace Loader

/-- The states of a run over documents of a certain kind.  Entries may be refused, and the second
pass may be made at any time. -/
inductive RunsOver (documents : Compound → Prop) : Loader → Prop
  | fresh (journal : Journal) : RunsOver documents { journal }
  | loadEntry {l : Loader} (entry : IndexEntry) {compound : Compound}
      (hdocument : documents compound) (h : RunsOver documents l) :
      RunsOver documents (l.loadEntry entry compound).2
  | finish {l : Loader} (h : RunsOver documents l) : RunsOver documents l.finish
  /-- Another loader goes on with the store. -/
  | renew {l : Loader} (h : RunsOver documents l) : RunsOver documents (ofSession l.toSession)

/-- The loader has the function: in the store, or waiting.  A function that was dropped as a
duplicate is not had any more. -/
inductive Holds (l : Loader) (f : Routine) : Prop
  | free (h : f ∈ l.store.functions)
  | waiting (h : f ∈ l.pending)
  | method {id : EntityId} {entity : Entity} {methods : List Routine}
      (hdef : l.store.definition? id = some entity) (hmethods : entity.methods? = some methods)
      (h : f ∈ methods)

namespace Holds

variable {l l' : Loader} {f : Routine}

/-- An effect adds the functions in it, to the free ones and to those that wait. -/
lemma of_takes {e : Effect} (htakes : e.Takes l l') (h : l'.Holds f) :
    l.Holds f ∨ f ∈ e.free ∨ f ∈ e.waiting := by
  cases h with
  | free h =>
      rw [htakes.functions, List.mem_append] at h
      exact h.imp .free .inl
  | waiting h =>
      rw [htakes.pending, List.mem_append] at h
      exact h.imp .waiting .inr
  | @method id entity methods hdef hmethods h =>
      have hold : l'.store.definition? id = l.store.definition? id := by
        rw [htakes.store]
        exact Store.definition?_mention l.store e.refids id
      exact .inl (.method (hold ▸ hdef) hmethods h)

/-- A definition adds the methods of the entity, and nothing else changes place. -/
lemma of_define {entity : Entity} {id : EntityId} {store : Store}
    (hdefine : l.store.define entity = .ok (id, store)) (hstore : l'.store = store)
    (hpending : l'.pending = l.pending) (h : l'.Holds f) :
    l.Holds f ∨ ∃ methods, entity.methods? = some methods ∧ f ∈ methods := by
  cases h with
  | free h =>
      rw [hstore, Store.frame_of_define hdefine] at h
      exact .inl (.free h)
  | waiting h =>
      rw [hpending] at h
      exact .inl (.waiting h)
  | method hdef hmethods h =>
      rw [hstore, Store.definition?_of_define hdefine] at hdef
      split_ifs at hdef with hid
      · cases hdef
        exact .inr ⟨_, hmethods, h⟩
      · exact .inl (.method hdef hmethods h)

/-- Files hold no functions, so recording one adds none. -/
lemma of_addFile {file : Declaration} {store : Store} (hfile : l.store.addFile file = .ok store)
    (h : (l.onStore fun _ => store).Holds f) : l.Holds f := by
  unfold Store.addFile at hfile
  split at hfile
  · contradiction
  · cases hfile
    cases h with
    | free h => exact .free h
    | waiting h => exact .waiting h
    | method hdef hmethods h => exact .method hdef hmethods h

/-- The second pass gives away what waits, and makes no function. -/
lemma of_finish (h : l.finish.Holds f) : l.Holds f := by
  cases h with
  | free h =>
      have hfunctions : l.finish.store.functions = l.store.functions := by rw [l.store_finish]; rfl
      exact .free (hfunctions ▸ h)
  | waiting h =>
      rw [l.pending_finish] at h
      contradiction
  | method hdef hmethods h =>
      rw [l.store_finish, Store.definition?_mapEntities, Option.map_eq_some_iff] at hdef
      obtain ⟨old, hold, rfl⟩ := hdef
      rw [Store.settled, Entity.methods?_extend, Option.map_eq_some_iff] at hmethods
      obtain ⟨methods, hmethods, rfl⟩ := hmethods
      rcases List.mem_append.1 h with h | h
      · exact .method hold hmethods h
      · exact .waiting (List.mem_filter.1 (mem_of_mem_novel h)).1

/-- The next loader has no waiting methods, and the store of this one. -/
lemma of_renew (h : (ofSession l.toSession).Holds f) : l.Holds f := by
  cases h with
  | free h => exact .free h
  | waiting h => contradiction
  | method hdef hmethods h => exact .method hdef hmethods h

/-- **Loading an entry adds functions that its document declares, and no others.** -/
lemma of_loadEntry {entry : IndexEntry} {compound : Compound}
    (h : (l.loadEntry entry compound).2.Holds f) :
    l.Holds f ∨ DeclaredIn compound.sections f := by
  have hnumbered := (l.loadEntry entry compound).2.store.numberedBy_numbering
  have hstep := l.loadEntry_step entry compound hnumbered
  generalize (l.loadEntry entry compound).2.store.numbering = ν at hnumbered hstep
  generalize l.loadEntry entry compound = out at h hnumbered hstep
  obtain ⟨result, l'⟩ := out
  have htaken : ∀ {e : Effect} {l₀ l₁ : Loader}, e.Takes l₀ l₁ → e.Declares compound.sections →
      l₁.Holds f → l₀.Holds f ∨ DeclaredIn compound.sections f := fun htakes hdeclares hf =>
    (hf.of_takes htakes).imp_right (hdeclares f)
  cases hstep with
  | @misfit entity e _ hblank hmisfit htakes =>
      refine (h.of_takes htakes).imp_right fun hf => ?_
      exact (Effect.declares_sectionsEffect entity _ f hf).of_held
  | @refused entity e _ hblank hfits htakes hdefine =>
      exact htaken htakes (Effect.declares_sectionsEffect entity _) h
  | @defined entity id store l₁ _ hblank hfits htakes hdefine hstore hpending hstats =>
      rcases h.of_define hdefine hstore hpending with h | ⟨methods, hmethods, hf⟩
      · exact htaken htakes (Effect.declares_sectionsEffect entity _) h
      · exact .inr (declaredIn_of_mem_methods hblank hmethods hf)
  | @fileRefused e _ hkind hfile htakes => exact htaken htakes (Effect.declares_counts _) h
  | @filed store _ hkind hfile htakes =>
      exact (htaken htakes (Effect.declares_fileEffect _) h).imp_left fun h => h.of_addFile hfile
  | @ignored _ hkind htakes => exact htaken htakes (Effect.declares_counts _) h

end Holds

/-- **A loader has only functions that some document declared.**  By induction over the run. -/
theorem declared_of_holds {documents : Compound → Prop} {l : Loader} {f : Routine}
    (h : RunsOver documents l) (hf : l.Holds f) :
    ∃ compound, documents compound ∧ DeclaredIn compound.sections f := by
  induction h with
  | fresh journal =>
      cases hf with
      | free hf | waiting hf => contradiction
      | method hdef => simp [Store.definition?] at hdef
  | loadEntry entry hdocument _ ih =>
      rcases hf.of_loadEntry with hf | hdeclared
      · exact ih hf
      · exact ⟨_, hdocument, hdeclared⟩
  | finish _ ih => exact ih hf.of_finish
  | renew _ ih => exact ih hf.of_renew

end Loader

end FrameworkBindings
