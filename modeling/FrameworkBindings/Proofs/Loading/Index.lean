import FrameworkBindings.Proofs.Loading.Entries

/-!
# Loading an index

What a loader has in the end when it has loaded a whole index, and whether it gets there, as
functions of the documents alone.

**Entries.**  `entryEffect`, `entityOf?` and `fileOf?` are what an entry brings, `entryRefids` what
it mentions.  An entry is loaded if the store `Admits` it, and then the loader `Adds` just that
(`adds_of_step`).

**Indexes.**  `Loadable` says of a list of entries that it can be loaded into an empty store, and
`Describes` says of a loader that it has loaded the list.  The first does not depend on the order of
the entries, and the second only in the order of its lists.  `loadIndex_describes` goes through a
run, `loadIndex_ok_iff` and `describes_of_loadIndex` are what follows for a whole one.

**Numberings.**  `Adds` and `Describes` speak of every numbering that agrees with the store.  A
store that grows has fewer of them, so what was said of a loader stays true when it goes on, and no
step has to translate the slots of the one before.

**Renumbering.**  What an entry brings depends on the numbers of slots as types do
(`entryEffect_rename`, `entityOf?_rename`).  Comparing two orders of an index rests on this.
-/

namespace FrameworkBindings

open Document Loading

namespace Loading

variable {ν : String → EntityId} {entry : IndexEntry} {compound : Compound}

/-! ## What an entry brings -/

/-- The effect of an entry that is loaded, its definition and its file apart. -/
def entryEffect (ν : String → EntityId) (entry : IndexEntry) (compound : Compound) : Effect :=
  { counts := entryCounts entry } ++
    match blank? entry compound with
    | some entity => sectionsEffect ν entity compound.sections
    | none => if entry.compoundKind = .file then fileEffect ν compound.sections else {}

/-- The entity that an entry defines, with all members that its document gives it. -/
def entityOf? (ν : String → EntityId) (entry : IndexEntry) (compound : Compound) : Option Entity :=
  (blank? entry compound).map fun entity => entityFrom ν entity compound.sections

/-- The file that an entry stands for. -/
def fileOf? (entry : IndexEntry) (compound : Compound) : Option Declaration :=
  if entry.compoundKind = .file then some (Loader.declarationOf entry compound entry.name) else none

/-- The reference ids that have slots after an entry was loaded: those that it mentions, and its own
where it defines an entity. -/
def entryRefids (entry : IndexEntry) (compound : Compound) : List String :=
  match blank? entry compound with
  | some entity => compound.sections.flatMap sectionRefids ++ [entity.refid]
  | none => if entry.compoundKind = .file then compound.sections.flatMap functionRefids else []

/-- The entity that an entry stands for, if it does, can hold all its sections.  This depends on the
entry and its document only. -/
def Fits (entry : IndexEntry) (compound : Compound) : Prop :=
  ∀ entity, blank? entry compound = some entity →
    compound.sections.findSome? (misfit entity) = none

/-- A store into which an entry can be loaded: it fits, and its reference id is not taken by an
entity, or by a file if it is one. -/
structure Admits (entry : IndexEntry) (compound : Compound) (store : Store) : Prop where
  fits : Fits entry compound
  entity : ∀ entity, blank? entry compound = some entity →
    entity.refid ∉ store.ordered.map (·.2.refid)
  file : ∀ file, fileOf? entry compound = some file → file.refid ∉ store.files.map (·.refid)

/-- The second loader is the first one after the entry was loaded, part by part, under a numbering
of the second store. -/
structure Adds (ν : String → EntityId) (entry : IndexEntry) (compound : Compound) (l l' : Loader) :
    Prop where
  consistent : l'.store.Consistent
  numbered : l.store.NumberedBy ν
  mem_refids : ∀ refid, refid ∈ l'.store.refids ↔
    refid ∈ l.store.refids ∨ refid ∈ entryRefids entry compound
  ordered : l'.store.ordered = l.store.ordered ++
    ((entityOf? ν entry compound).map fun entity => (ν entity.refid, entity)).toList
  functions : l'.store.functions = l.store.functions ++ (entryEffect ν entry compound).free
  files : l'.store.files = l.store.files ++ (fileOf? entry compound).toList
  pending : l'.pending = l.pending ++ (entryEffect ν entry compound).waiting
  stats : l'.stats = l.stats + (entryEffect ν entry compound).counts

/-- An entry stands for an entity or for a file and not for both. -/
lemma fileOf?_of_blank {entity : Entity} (hblank : blank? entry compound = some entity) :
    fileOf? entry compound = none := by
  unfold blank? at hblank
  unfold fileOf?
  split at hblank <;> simp_all

lemma blank?_of_file (hkind : entry.compoundKind = .file) : blank? entry compound = none := by
  rw [blank?, hkind]

lemma blank?_of_other (hkind : entry.compoundKind = .other) : blank? entry compound = none := by
  rw [blank?, hkind]

/-- A file is refused just for its reference id, whatever else is in the store. -/
lemma addFile_eq_error_iff {store : Store} {file : Declaration} :
    (∃ e, store.addFile file = .error e) ↔ file.refid ∈ store.files.map (·.refid) := by
  rw [Store.addFile_eq]
  split
  · rename_i htaken
    exact iff_of_true ⟨_, rfl⟩ htaken
  · rename_i hfree
    exact iff_of_false (fun ⟨_, herror⟩ => by contradiction) hfree

/-- A definition is refused just for its reference id, if another definition has it. -/
lemma define_eq_error_iff {store : Store} {entity : Entity} (h : store.Consistent) :
    (∃ e, store.define entity = .error e) ↔ entity.refid ∈ store.ordered.map (·.2.refid) := by
  rw [← Store.isSome_definition?_intern h, Store.define_eq]
  split
  · rename_i htaken
    exact iff_of_true ⟨_, rfl⟩ htaken
  · rename_i hfree
    exact iff_of_false (fun ⟨_, herror⟩ => by contradiction) hfree

variable {l : Loader}

/-- An effect on the state without a definition: an entry that is passed over, or one step of
others. -/
lemma adds_of_takes {l' : Loader} (htakes : (entryEffect ν entry compound).Takes l l')
    (h : l.store.Consistent) (hν : l'.store.NumberedBy ν) (hblank : blank? entry compound = none)
    (hfile : fileOf? entry compound = none)
    (hrefids : entryRefids entry compound = (entryEffect ν entry compound).refids) :
    Adds ν entry compound l l' where
  consistent := htakes.consistent h
  numbered := htakes.numberedBy hν
  mem_refids := by rw [hrefids]; exact htakes.mem_refids
  ordered := by simp [htakes.ordered, entityOf?, hblank]
  functions := htakes.functions
  files := by simp [htakes.files, hfile]
  pending := htakes.pending
  stats := htakes.stats

/-- A definition of the entity after the effect, which puts it behind the definitions before. -/
lemma adds_of_define {entity : Entity} {id : EntityId} {store : Store} {l₁ l' : Loader}
    (htakes : ({ counts := entryCounts entry } ++ sectionsEffect ν entity compound.sections).Takes
      l l₁)
    (hdefine : l₁.store.define (entityFrom ν entity compound.sections) = .ok (id, store))
    (h : l.store.Consistent) (hν : l'.store.NumberedBy ν)
    (hblank : blank? entry compound = some entity) (hstore : l'.store = store)
    (hpending : l'.pending = l₁.pending) (hstats : l'.stats = l₁.stats) :
    Adds ν entry compound l l' := by
  have heffect : entryEffect ν entry compound =
      { counts := entryCounts entry } ++ sectionsEffect ν entity compound.sections := by
    rw [entryEffect, hblank]
  have hrefid : (entityFrom ν entity compound.sections).refid = entity.refid :=
    Entity.refid_extend entity
  have hgrown : l₁.store.refids <+: l'.store.refids := by
    rw [hstore]
    exact Store.refids_grown_of_define hdefine
  have hconsistent := htakes.consistent h
  have hid : ν entity.refid = id := by
    refine hν _ _ ?_
    have hlookup := (hconsistent.define hdefine).nodup
    rw [hstore, Store.lookup_eq_some_iff hlookup, Store.refids_of_define hdefine, hrefid,
      (Store.id_of_define hdefine).1, hrefid]
    exact l₁.store.getElem?_refids_intern entity.refid
  refine ⟨?_, htakes.numberedBy (hν.of_grown hgrown), ?_, ?_, ?_, ?_, ?_, ?_⟩
  · rw [hstore]
    exact hconsistent.define hdefine
  · intro refid
    have hmentioned := htakes.mem_refids refid
    simp only [sectionsEffect, reading, placing, Effect.append_def, List.nil_append,
      List.append_nil] at hmentioned
    rw [hstore, Store.refids_of_define hdefine, ← Store.mention_nil (l₁.store.intern _).2,
      ← Store.mention_cons, Store.mem_refids_mention, hmentioned, hrefid]
    simp only [entryRefids, hblank, List.mem_append, or_assoc]
  · rw [hstore, Store.ordered_of_define hconsistent.toCoherent hdefine, htakes.ordered, entityOf?,
      hblank]
    simp [hrefid, hid]
  · rw [hstore, Store.frame_of_define hdefine, htakes.functions, heffect]
  · rw [hstore, Store.frame_of_define hdefine, htakes.files, fileOf?_of_blank hblank]
    simp
  · rw [hpending, htakes.pending, heffect]
  · rw [hstats, htakes.stats, heffect]

/-- A file and its functions, once the file has been added. -/
lemma adds_of_file {store : Store} {l' : Loader} (hkind : entry.compoundKind = .file)
    (hfile : l.store.addFile (Loader.declarationOf entry compound entry.name) = .ok store)
    (htakes : ({ counts := entryCounts entry } ++ fileEffect ν compound.sections).Takes
      (l.onStore fun _ => store) l')
    (h : l.store.Consistent) (hν : l'.store.NumberedBy ν) : Adds ν entry compound l l' := by
  have hblank : blank? entry compound = none := blank?_of_file hkind
  have hfound : fileOf? entry compound =
      some (Loader.declarationOf entry compound entry.name) := if_pos hkind
  have heffect : entryEffect ν entry compound =
      { counts := entryCounts entry } ++ fileEffect ν compound.sections := by
    rw [entryEffect, hblank, if_pos hkind]
  obtain rfl : store = { l.store with
      files := l.store.files ++ [Loader.declarationOf entry compound entry.name] } := by
    unfold Store.addFile at hfile
    split at hfile
    · contradiction
    · exact (Except.ok.inj hfile).symm
  refine ⟨htakes.consistent (h.of_slots rfl rfl), htakes.numberedBy hν, ?_, ?_, ?_, ?_, ?_, ?_⟩
  · intro refid
    rw [htakes.mem_refids]
    simp [entryRefids, hblank, hkind, Loader.onStore, fileEffect, reading, filing,
      Effect.append_def, Store.refids]
  · rw [htakes.ordered, entityOf?, hblank]
    exact (List.append_nil _).symm
  · rw [htakes.functions, heffect]
    rfl
  · rw [htakes.files, hfound]
    rfl
  · rw [htakes.pending, heffect]
    rfl
  · rw [htakes.stats, heffect]
    rfl

lemma admits_of_blank {entity : Entity} (hblank : blank? entry compound = some entity)
    (hfits : compound.sections.findSome? (misfit entity) = none)
    (hfree : entity.refid ∉ l.store.ordered.map (·.2.refid)) :
    Admits entry compound l.store := by
  refine ⟨fun other hother => ?_, fun other hother => ?_, fun file hfile => ?_⟩
  · obtain rfl : entity = other := Option.some.inj (hblank.symm.trans hother)
    exact hfits
  · obtain rfl : entity = other := Option.some.inj (hblank.symm.trans hother)
    exact hfree
  · rw [fileOf?_of_blank hblank] at hfile
    contradiction

lemma admits_of_no_blank (hblank : blank? entry compound = none)
    (hfree : ∀ file, fileOf? entry compound = some file →
      file.refid ∉ l.store.files.map (·.refid)) :
    Admits entry compound l.store where
  fits := by simp [Fits, hblank]
  entity := by simp [hblank]
  file := hfree

/-- After the sections of an entry, its reference id is free for the definition if it was before. -/
lemma define_sections_eq_error_iff {entity : Entity} {sections : List Section} {l₁ : Loader}
    {e : Effect} (htakes : e.Takes l l₁) (h : l.store.Consistent) :
    (∃ err, l₁.store.define (entityFrom ν entity sections) = .error err) ↔
      entity.refid ∈ l.store.ordered.map (·.2.refid) := by
  rw [define_eq_error_iff (htakes.consistent h), htakes.ordered, entityFrom, Entity.refid_extend]

/-- **An entry is loaded if the store admits it**, and then it adds what it brings.  One case for
each way in which loading an entry can end. -/
theorem adds_of_step {result : Except LoadError Unit} {l' : Loader}
    (hstep : EntryStep ν l entry compound result l') (h : l.store.Consistent)
    (hν : l'.store.NumberedBy ν) :
    result = .ok () ∧ Admits entry compound l.store ∧ Adds ν entry compound l l' ∨
      result ≠ .ok () ∧ ¬ Admits entry compound l.store := by
  cases hstep with
  | misfit hblank hmisfit htakes =>
      refine .inr ⟨by simp, fun hadmits => ?_⟩
      rw [hadmits.fits _ hblank] at hmisfit
      contradiction
  | refused hblank hfits htakes hdefine =>
      refine .inr ⟨by simp, fun hadmits => hadmits.entity _ hblank ?_⟩
      exact (define_sections_eq_error_iff htakes h).1 ⟨_, hdefine⟩
  | defined hblank hfits htakes hdefine hstore hpending hstats =>
      refine .inl ⟨rfl, admits_of_blank hblank hfits fun htaken => ?_,
        adds_of_define htakes hdefine h hν hblank hstore hpending hstats⟩
      obtain ⟨err, herror⟩ := (define_sections_eq_error_iff htakes h).2 htaken
      rw [hdefine] at herror
      contradiction
  | fileRefused hkind hfile htakes =>
      refine .inr ⟨by simp, fun hadmits => hadmits.file _ (if_pos hkind) ?_⟩
      exact addFile_eq_error_iff.1 ⟨_, hfile⟩
  | filed hkind hfile htakes =>
      refine .inl ⟨rfl, admits_of_no_blank (blank?_of_file hkind) fun file hfound htaken => ?_,
        adds_of_file hkind hfile htakes h hν⟩
      obtain rfl : Loader.declarationOf entry compound entry.name = file :=
        Option.some.inj ((if_pos hkind).symm.trans hfound)
      obtain ⟨e, he⟩ := addFile_eq_error_iff.2 htaken
      rw [hfile] at he
      contradiction
  | ignored hkind htakes =>
      have hblank : blank? entry compound = none := blank?_of_other hkind
      have hfile : fileOf? entry compound = none := by rw [fileOf?, hkind]; rfl
      have heffect : entryEffect ν entry compound = { counts := entryCounts entry } := by
        rw [entryEffect, hblank, hkind]
        exact Effect.append_nil _
      refine .inl ⟨rfl, admits_of_no_blank hblank (by simp [hfile]), ?_⟩
      refine adds_of_takes (heffect ▸ htakes) h hν hblank hfile ?_
      rw [heffect, entryRefids, hblank, hkind]
      rfl

/-! ## What an index brings -/

variable {decode : IndexEntry → Except LoadError Compound} {es : List IndexEntry}

/-- The document of an entry, empty if there is none.  It makes the statements total; where an index
has been loaded all its documents were there. -/
def documentOf (decode : IndexEntry → Except LoadError Compound) (entry : IndexEntry) : Compound :=
  match decode entry with
  | .ok compound => compound
  | .error _ => {}

/-- Entries that can be loaded into an empty store, in some order and so in any: all parts are about
the entries as a set. -/
structure Loadable (decode : IndexEntry → Except LoadError Compound) (es : List IndexEntry) :
    Prop where
  decodes : ∀ entry ∈ es, decode entry = .ok (documentOf decode entry)
  fits : ∀ entry ∈ es, Fits entry (documentOf decode entry)
  entities : (es.filterMap fun entry =>
    (blank? entry (documentOf decode entry)).map Entity.refid).Nodup
  files : (es.filterMap fun entry =>
    (fileOf? entry (documentOf decode entry)).map Declaration.refid).Nodup

/-- The loader has loaded the entries, from an empty store.  Every part of its state is given by the
documents, with lists in the order of the entries. -/
structure Describes (decode : IndexEntry → Except LoadError Compound) (es : List IndexEntry)
    (l : Loader) : Prop where
  consistent : l.store.Consistent
  mem_refids : ∀ refid, refid ∈ l.store.refids ↔
    ∃ entry ∈ es, refid ∈ entryRefids entry (documentOf decode entry)
  ordered : ∀ ν, l.store.NumberedBy ν → l.store.ordered = es.filterMap fun entry =>
    (entityOf? ν entry (documentOf decode entry)).map fun entity => (ν entity.refid, entity)
  functions : ∀ ν, l.store.NumberedBy ν → l.store.functions = es.flatMap fun entry =>
    (entryEffect ν entry (documentOf decode entry)).free
  files : l.store.files = es.filterMap fun entry => fileOf? entry (documentOf decode entry)
  pending : ∀ ν, l.store.NumberedBy ν → l.pending = es.flatMap fun entry =>
    (entryEffect ν entry (documentOf decode entry)).waiting
  stats : ∀ ν, l.store.NumberedBy ν → l.stats = (es.map fun entry =>
    (entryEffect ν entry (documentOf decode entry)).counts).sum

lemma Loadable.of_perm {es' : List IndexEntry} (h : Loadable decode es) (hperm : es.Perm es') :
    Loadable decode es' where
  decodes := fun entry hentry => h.decodes entry (hperm.mem_iff.2 hentry)
  fits := fun entry hentry => h.fits entry (hperm.mem_iff.2 hentry)
  entities := (hperm.filterMap _).nodup_iff.1 h.entities
  files := (hperm.filterMap _).nodup_iff.1 h.files

/-- The first entries of a list can be loaded without the rest. -/
lemma Loadable.of_append {rest : List IndexEntry} (h : Loadable decode (es ++ rest)) :
    Loadable decode es where
  decodes := fun entry hentry => h.decodes entry (List.mem_append_left rest hentry)
  fits := fun entry hentry => h.fits entry (List.mem_append_left rest hentry)
  entities := by
    have hnodup := h.entities
    rw [List.filterMap_append] at hnodup
    exact (List.nodup_append.1 hnodup).1
  files := by
    have hnodup := h.files
    rw [List.filterMap_append] at hnodup
    exact (List.nodup_append.1 hnodup).1

/-- One more value is distinct from the others if it is not among them. -/
lemma nodup_filterMap_snoc_iff {α β : Type} {l : List α} {a : α} {f : α → Option β} :
    ((l ++ [a]).filterMap f).Nodup ↔
      (l.filterMap f).Nodup ∧ ∀ b, f a = some b → b ∉ l.filterMap f := by
  rw [List.filterMap_append]
  cases hfa : f a with
  | none => simp [hfa]
  | some b =>
      rw [List.filterMap_cons_some hfa, List.filterMap_nil, ← List.concat_eq_append,
        List.nodup_concat, and_comm]
      exact and_congr_right fun _ => by simp

lemma loadable_nil : Loadable decode [] where
  decodes := by simp
  fits := by simp
  entities := List.nodup_nil
  files := List.nodup_nil

lemma describes_nil : Describes decode [] {} where
  consistent := .empty
  mem_refids := by simp [Store.refids]
  ordered := fun _ _ => rfl
  functions := fun _ _ => rfl
  files := rfl
  pending := fun _ _ => rfl
  stats := fun _ _ => rfl

namespace Describes

variable {l l' : Loader}

/-- The reference ids of the definitions are those of the entries. -/
lemma refids_ordered (h : Describes decode es l) : l.store.ordered.map (·.2.refid) =
    es.filterMap fun entry => (blank? entry (documentOf decode entry)).map Entity.refid := by
  rw [h.ordered _ l.store.numberedBy_numbering, List.map_filterMap]
  refine List.filterMap_congr fun entry _ => ?_
  rw [entityOf?, Option.map_map, Option.map_map]
  exact Option.map_congr fun entity _ => Entity.refid_extend entity

/-- The reference ids of the files are those of the entries for files. -/
lemma refids_files (h : Describes decode es l) : l.store.files.map (·.refid) =
    es.filterMap fun entry => (fileOf? entry (documentOf decode entry)).map Declaration.refid := by
  rw [h.files, List.map_filterMap]

/-- One entry more can be loaded if the store admits it.  This turns a condition on the state into
one on the entries. -/
lemma loadable_snoc_iff (h : Describes decode es l) (hloadable : Loadable decode es)
    (hdecode : decode entry = .ok compound) :
    Loadable decode (es ++ [entry]) ↔ Admits entry compound l.store := by
  have hdocument : documentOf decode entry = compound := by rw [documentOf, hdecode]
  constructor
  · intro hmore
    have hentities := (nodup_filterMap_snoc_iff.1 hmore.entities).2
    have hfiles := (nodup_filterMap_snoc_iff.1 hmore.files).2
    rw [← h.refids_ordered, hdocument] at hentities
    rw [← h.refids_files, hdocument] at hfiles
    refine ⟨hdocument ▸ hmore.fits entry (by simp), fun entity hblank => ?_, fun file hfile => ?_⟩
    · exact hentities _ (by rw [hblank, Option.map_some])
    · exact hfiles _ (by rw [hfile, Option.map_some])
  · intro hadmits
    refine ⟨?_, ?_, ?_, ?_⟩
    · refine List.forall_mem_append.2 ⟨hloadable.decodes, List.forall_mem_singleton.2 ?_⟩
      rw [hdocument, hdecode]
    · refine List.forall_mem_append.2 ⟨hloadable.fits, List.forall_mem_singleton.2 ?_⟩
      rw [hdocument]
      exact hadmits.fits
    · refine nodup_filterMap_snoc_iff.2 ⟨hloadable.entities, fun refid hrefid => ?_⟩
      rw [hdocument] at hrefid
      obtain ⟨entity, hblank, rfl⟩ := Option.map_eq_some_iff.1 hrefid
      rw [← h.refids_ordered]
      exact hadmits.entity entity hblank
    · refine nodup_filterMap_snoc_iff.2 ⟨hloadable.files, fun refid hrefid => ?_⟩
      rw [hdocument] at hrefid
      obtain ⟨file, hfile, rfl⟩ := Option.map_eq_some_iff.1 hrefid
      rw [← h.refids_files]
      exact hadmits.file file hfile

/-- One entry more has been loaded: every part of the description gets what that entry brings. -/
lemma snoc (h : Describes decode es l)
    (hadds : ∀ ν, l'.store.NumberedBy ν → Adds ν entry (documentOf decode entry) l l') :
    Describes decode (es ++ [entry]) l' := by
  have hfinal := hadds _ l'.store.numberedBy_numbering
  refine ⟨hfinal.consistent, ?_, ?_, ?_, ?_, ?_, ?_⟩
  · intro refid
    rw [hfinal.mem_refids, h.mem_refids]
    simp [or_and_right, exists_or]
  · intro ν hν
    rw [(hadds ν hν).ordered, h.ordered ν (hadds ν hν).numbered, List.filterMap_append]
    cases hentity : entityOf? ν entry (documentOf decode entry) <;> simp [hentity]
  · intro ν hν
    rw [(hadds ν hν).functions, h.functions ν (hadds ν hν).numbered, List.flatMap_append]
    simp
  · rw [hfinal.files, h.files, List.filterMap_append]
    cases hfile : fileOf? entry (documentOf decode entry) <;> simp [hfile]
  · intro ν hν
    rw [(hadds ν hν).pending, h.pending ν (hadds ν hν).numbered, List.flatMap_append]
    simp
  · intro ν hν
    rw [(hadds ν hν).stats, h.stats ν (hadds ν hν).numbered, List.map_append, List.sum_append]
    simp

end Describes

end Loading

/-! ## Runs -/

namespace Loader

variable {decode : IndexEntry → Except LoadError Compound}

lemma loadIndex_of_undecoded {e : LoadError} {entry : IndexEntry} (l : Loader)
    (rest : List IndexEntry) (hdecode : decode entry = .error e) :
    loadIndex (m := Id) decode l (entry :: rest) = (.error e, l) := by
  simp only [loadIndex, bind, pure, hdecode]

lemma loadIndex_of_refused {e : LoadError} {entry : IndexEntry} {compound : Compound}
    {l l' : Loader} (rest : List IndexEntry) (hdecode : decode entry = .ok compound)
    (hentry : l.loadEntry entry compound = (.error e, l')) :
    loadIndex (m := Id) decode l (entry :: rest) = (.error e, l') := by
  simp only [loadIndex, bind, pure, hdecode, hentry]

lemma loadIndex_of_loaded {entry : IndexEntry} {compound : Compound} {l l' : Loader}
    (rest : List IndexEntry) (hdecode : decode entry = .ok compound)
    (hentry : l.loadEntry entry compound = (.ok (), l')) :
    loadIndex (m := Id) decode l (entry :: rest) = loadIndex (m := Id) decode l' rest := by
  simp only [loadIndex, bind, hdecode, hentry]

/-- **An index is loaded if it can be**, and then the loader is as the entries describe it.  The
induction goes along the entries that remain; `done` are those that have been loaded. -/
theorem loadIndex_describes (rest done : List IndexEntry) (l : Loader)
    (h : Describes decode done l) (hloadable : Loadable decode done) :
    let out := loadIndex (m := Id) decode l rest
    out.1 = .ok () ∧ Loadable decode (done ++ rest) ∧ Describes decode (done ++ rest) out.2 ∨
      out.1 ≠ .ok () ∧ ¬ Loadable decode (done ++ rest) := by
  induction rest generalizing done l with
  | nil =>
      rw [List.append_nil]
      exact .inl ⟨rfl, hloadable, h⟩
  | cons entry rest ih =>
      have hmore : Loadable decode (done ++ entry :: rest) → Loadable decode (done ++ [entry]) := by
        intro hall
        rw [List.append_cons] at hall
        exact hall.of_append
      cases hdecode : decode entry with
      | error e =>
          rw [loadIndex_of_undecoded l rest hdecode]
          refine .inr ⟨by simp, fun hall => ?_⟩
          have hdocument := (hmore hall).decodes entry (by simp)
          rw [hdecode] at hdocument
          contradiction
      | ok compound =>
          have hdocument : documentOf decode entry = compound := by rw [documentOf, hdecode]
          have hadds : ∀ ν, (l.loadEntry entry compound).2.store.NumberedBy ν → _ :=
            fun ν hν => adds_of_step (l.loadEntry_step entry compound hν) h.consistent hν
          cases hentry : l.loadEntry entry compound with | mk result l'
          rw [hentry] at hadds
          rcases hadds _ l'.store.numberedBy_numbering with ⟨rfl, hadmits, _⟩ | ⟨hfails, hrefuses⟩
          · rw [← h.loadable_snoc_iff hloadable hdecode] at hadmits
            have hdescribes : Describes decode (done ++ [entry]) l' := by
              refine h.snoc fun ν hν => ?_
              rcases hadds ν hν with ⟨_, _, hadded⟩ | ⟨hfails, _⟩
              · rw [hdocument]
                exact hadded
              · contradiction
            rw [List.append_cons, loadIndex_of_loaded rest hdecode hentry]
            exact ih _ l' hdescribes hadmits
          · cases result with
            | ok _ => contradiction
            | error e =>
                rw [loadIndex_of_refused rest hdecode hentry]
                refine .inr ⟨by simp, fun hall => hrefuses ?_⟩
                rw [← h.loadable_snoc_iff hloadable hdecode]
                exact hmore hall

/-- Whether an index can be loaded does not depend on the order of its entries: it is a condition
that does not mention the run. -/
lemma loadIndex_ok_iff {es : List IndexEntry} :
    (∃ l, loadIndex (m := Id) decode {} es = (.ok (), l)) ↔ Loadable decode es := by
  have hempty : Describes decode [] {} := describes_nil
  have hrun := loadIndex_describes es [] {} hempty loadable_nil
  generalize loadIndex (m := Id) decode {} es = out at hrun ⊢
  obtain ⟨result, l⟩ := out
  rcases hrun with ⟨hresult, hloadable, _⟩ | ⟨hresult, hfails⟩
  · exact iff_of_true ⟨l, Prod.ext hresult rfl⟩ hloadable
  · exact iff_of_false (fun ⟨l', hl'⟩ => hresult (congrArg Prod.fst hl')) hfails

/-- What a loader has in the end is what its entries describe. -/
lemma describes_of_loadIndex {es : List IndexEntry} {l : Loader}
    (h : loadIndex (m := Id) decode {} es = (.ok (), l)) : Describes decode es l := by
  have hempty : Describes decode [] {} := describes_nil
  have hrun := loadIndex_describes es [] {} hempty loadable_nil
  rw [h] at hrun
  rcases hrun with ⟨_, _, hdescribes⟩ | ⟨hresult, _⟩
  · exact hdescribes
  · contradiction

end Loader

/-! ## Renumbering -/

/-- The effect with every slot renumbered.  Reference ids and counters are as they were. -/
def Effect.rename (σ : EntityId → EntityId) (e : Effect) : Effect :=
  { e with free := e.free.map (·.rename σ), waiting := e.waiting.map (·.rename σ) }

namespace Loading

variable {ν : String → EntityId} {σ : EntityId → EntityId}

/-- Renumbering goes through effects one by one, as it goes through their lists. -/
lemma rename_append_effect (e e' : Effect) : (e ++ e').rename σ = e.rename σ ++ e'.rename σ := by
  simp only [Effect.rename, Effect.append_def, List.map_append]

/-- What is counted has nothing to do with slots. -/
lemma attachCounts_rename (entity : Entity) (functions : List Routine) :
    attachCounts (entity.rename σ) (functions.map (·.rename σ)) =
      attachCounts entity functions := by
  rw [attachCounts, attachCounts, Entity.methods?_rename]
  cases entity.methods? with
  | none => rfl
  | some methods => simp only [Option.map_some, novel_rename, List.length_map]

/-- Functions find the same places under other numbers, since places go by names. -/
lemma placing_rename (entity : Entity) (functions : List Routine) :
    placing (entity.rename σ) (functions.map (·.rename σ)) =
      (placing entity functions).rename σ := by
  simp only [placing, Effect.rename, Entity.name_rename, freeOf_rename, waitingOf_rename,
    ownOf_rename, attachCounts_rename, List.length_map]

lemma filing_rename (functions : List Routine) :
    filing (functions.map (·.rename σ)) = (filing functions).rename σ := by
  simp only [filing, Effect.rename, freeOf_rename, boundOf_rename, List.length_map]

/-- An entity without members has no slots in it. -/
lemma rename_blank {entry : IndexEntry} {compound : Compound} {entity : Entity}
    (h : blank? entry compound = some entity) : entity.rename σ = entity := by
  unfold blank? at h
  split at h <;> cases h <;> rfl

/-- **What an entry brings depends on the numbers as types do**: another numbering gives the same
effect with its slots renumbered. -/
theorem entryEffect_rename (entry : IndexEntry) (compound : Compound) :
    entryEffect (fun refid => σ (ν refid)) entry compound =
      (entryEffect ν entry compound).rename σ := by
  rw [entryEffect, entryEffect, rename_append_effect]
  refine congrArg (fun e => ({ counts := entryCounts entry } : Effect) ++ e) ?_
  cases hblank : blank? entry compound with
  | some entity =>
      have hplacing := placing_rename (σ := σ) entity (routinesOf ν compound.sections)
      rw [rename_blank hblank, ← rename_routinesOf] at hplacing
      simp only [sectionsEffect, hplacing, rename_append_effect]
      rfl
  | none =>
      dsimp only
      split
      · simp only [fileEffect, rename_routinesOf, filing_rename, rename_append_effect]
        rfl
      · rfl

/-- The entity that an entry defines depends on the numbers as types do: it has the same members
with their slots renumbered. -/
theorem entityOf?_rename (entry : IndexEntry) (compound : Compound) :
    entityOf? (fun refid => σ (ν refid)) entry compound =
      (entityOf? ν entry compound).map (·.rename σ) := by
  rw [entityOf?, entityOf?, Option.map_map]
  refine Option.map_congr fun entity hblank => ?_
  rw [Function.comp_apply, entityFrom, entityFrom, rename_attributesOf, rename_propertiesOf,
    rename_routinesOf, ownOf_rename, ← extend_rename, rename_blank hblank]

end Loading

end FrameworkBindings
