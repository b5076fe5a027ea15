import FrameworkBindings.Proofs.Loading.Entries

/-!
# When an entry is refused

Loading an entry fails for what the entry is and where it stands, never for what its members say,
and a failure leaves the definitions alone.

**Which entries.**  `refusal?` is the error with which an entry ends.  It is computed from the
entry, the *tags* of its sections and the store as it was, so no signature, kind of member,
definition or parameter comes into it.  What a malformed signature does instead is to be counted
(`readFaults`).

**What is left.**  `Spares` says that one loader has at most placeholders, free functions, waiting
methods and counts that another lacks.  An effect on a loader spares it (`Effect.Takes.spares`).

**Before and after the sections.**  The reference id of an entity is looked at when its sections
have been loaded, and they may have given slots to many ids, its own among them.  A slot that was
given by a mention has no definition, so the answer is the same as before the sections
(`define_eq_of_takes`).  That is why `refusal?` can speak of the store as it was.

**`loadEntry_refusal`** puts both together, for every loader, whether a run can reach it or not.
-/

namespace FrameworkBindings

open Document Loading

/-! ## What is refused -/

/-- Whether the slot of a reference id has been filled.  A reference id that was only mentioned has
a slot and no definition. -/
def Store.defines (store : Store) (refid : String) : Bool :=
  (store.lookup refid).any store.isDefined

namespace Loading

/-- The kind and the name of the entity that an entry stands for.  For a protocol the mark behind
the name is taken off. -/
def objectHead? (entry : IndexEntry) : Option (EntityKind × String) :=
  match entry.compoundKind with
  | .struct | .interface => some (.struct, entry.name)
  | .objectClass => some (.objectClass, entry.name)
  | .protocol => some (.protocol, protocolName entry.name)
  | .union => some (.union, entry.name)
  | .file | .other => none

/-- The capability that sections with this tag ask for and entities of this kind lack. -/
def lacking? (kind : EntityKind) (tag : String) : Option Capability :=
  (SectionKind.ofTag tag).capability?.filter fun capability => !kind.hosts capability

/-- The error with which an entry ends, from the tags of its sections and the store before. -/
def refusal? (store : Store) (entry : IndexEntry) (tags : List String) : Option LoadError :=
  match objectHead? entry with
  | some (kind, name) =>
    match tags.findSome? fun tag => (lacking? kind tag).map (·, tag) with
    | some (capability, tag) => some (.unsupportedSection name kind capability tag)
    | none =>
      if store.defines entry.refid then some (.store (.duplicateDefinition entry.refid)) else none
  | none =>
    if entry.compoundKind = .file ∧ entry.refid ∈ store.files.map (·.refid) then
      some (.store (.duplicateFile entry.refid))
    else none

/-- How many malformed signatures are met: those of the sections before the first that the entity
cannot hold, and those of the functions of a file, unless the file is there already. -/
def readFaults (store : Store) (entry : IndexEntry) (sections : List Section) : ℕ :=
  match objectHead? entry with
  | some (kind, _) =>
    ((sections.takeWhile fun s => (lacking? kind s.kind).isNone).map sectionFaults).sum
  | none =>
    if entry.compoundKind = .file ∧ entry.refid ∉ store.files.map (·.refid) then
      (sections.map functionFaults).sum
    else 0

/-- A load that ends with an error, if there is one. -/
def outcome : Option LoadError → Except LoadError Unit
  | none => .ok ()
  | some e => .error e

end Loading

/-! ## What is left -/

/-- The second loader has the definitions and the files of the first, and what else it has comes
behind the rest. -/
structure Loader.Spares (l l' : Loader) : Prop where
  /-- New slots are awaited. -/
  slots : ∃ refids : List String,
    l'.store.slots = l.store.slots ++ (refids.map Slot.awaited).toArray
  definition : ∀ id, l'.store.definition? id = l.store.definition? id
  order : l'.store.order = l.store.order
  names : ∀ name, l'.store.findByName name = l.store.findByName name
  files : l'.store.files = l.store.files
  functions : l.store.functions <+: l'.store.functions
  pending : l.pending <+: l'.pending
  stats : ∃ counts, l'.stats = l.stats + counts

namespace Store

variable {store : Store}

/-- Mentions add awaited slots behind the others, for the reference ids that had none. -/
lemma exists_slots_mention (store : Store) (refids : List String) :
    ∃ added : List String,
      (store.mention refids).slots = store.slots ++ (added.map Slot.awaited).toArray := by
  induction refids generalizing store with
  | nil => exact ⟨[], by simp⟩
  | cons refid refids ih =>
      obtain ⟨added, hadded⟩ := ih (store.intern refid).2
      rw [mention_cons, hadded, intern_eq]
      split_ifs
      · exact ⟨added, rfl⟩
      · exact ⟨refid :: added, by simp⟩

/-- An awaited slot has no name, so mentions name nothing new. -/
lemma nameOf_mention (store : Store) (refids : List String) (id : EntityId) {name : String}
    (hname : name ≠ "") :
    (store.mention refids).nameOf id = some name ↔ store.nameOf id = some name := by
  obtain ⟨added, hadded⟩ := store.exists_slots_mention refids
  have hlist : (store.mention refids).slots[id.slot]? =
      if id.slot < store.slots.size then store.slots[id.slot]?
      else added[id.slot - store.slots.size]?.map Slot.awaited := by
    rw [hadded, Array.getElem?_append]
    simp
  unfold nameOf entity?
  rw [hlist]
  split_ifs with hlt
  · rfl
  · have hnone : store.slots[id.slot]? = none := by simpa using hlt
    rw [hnone]
    cases added[id.slot - store.slots.size]? with
    | none => rfl
    | some refid => exact iff_of_false (fun h => hname (Option.some.inj h).symm) (by simp)

/-- Mentions change nothing about names, as an awaited slot is found under none. -/
lemma findByName_mention (store : Store) (refids : List String) (name : String) :
    (store.mention refids).findByName name = store.findByName name := by
  unfold findByName
  split_ifs with hname
  · rfl
  · rw [mention_frame]
    congr 1
    funext id
    rw [Bool.eq_iff_iff, beq_iff_eq, beq_iff_eq]
    exact store.nameOf_mention refids id hname

/-- A definition is refused just for its reference id. -/
lemma isSome_definition?_intern_eq (store : Store) (refid : String) :
    (store.definition? (store.intern refid).1).isSome = store.defines refid := by
  rw [defines, intern]
  cases hlookup : store.lookup refid with
  | some id => exact (store.isDefined_eq id).symm
  | none =>
      have hnone : store.slots[store.size]? = none := by simp [size]
      simp [definition?, hnone]

/-- Mentions define nothing, not even a reference id that is mentioned for the first time. -/
lemma defines_mention (store : Store) (refids : List String) (refid : String) :
    (store.mention refids).defines refid = store.defines refid := by
  have hdefined : ∀ id, (store.mention refids).isDefined id = store.isDefined id := by
    intro id
    rw [isDefined_eq, isDefined_eq, definition?_mention]
  unfold defines
  cases hlookup : store.lookup refid with
  | some id => rw [lookup_of_grown (store.prefix_mention refids) hlookup, Option.any_some,
      Option.any_some, hdefined]
  | none =>
      cases hlater : (store.mention refids).lookup refid with
      | none => rfl
      | some id =>
          -- a slot that the store had would carry the reference id
          have hcarried := getElem?_refids_of_lookup hlater
          rw [Option.any_some, hdefined, Option.any_none, isDefined_eq, Option.isSome_eq_false_iff,
            Option.isNone_iff_eq_none]
          by_contra hsome
          obtain ⟨entity, hentity⟩ := Option.ne_none_iff_exists'.1 hsome
          have hlt : id.slot < store.refids.length := by
            rw [length_refids]
            exact slot_lt_of_definition? hentity
          obtain ⟨behind, hbehind⟩ := store.prefix_mention refids
          rw [← hbehind, List.getElem?_append_left hlt] at hcarried
          exact lookup_eq_none_iff.1 hlookup (List.mem_of_getElem? hcarried)

end Store

/-- An effect spares the loader it happens to, as it defines nothing and only adds to lists. -/
lemma Effect.Takes.spares {e : Effect} {l l' : Loader} (h : e.Takes l l') : l.Spares l' where
  slots := by
    rw [h.store]
    exact l.store.exists_slots_mention e.refids
  definition := by
    intro id
    rw [h.store]
    exact l.store.definition?_mention e.refids id
  order := by
    rw [h.store]
    rw [Store.mention_frame]
  names := by
    intro name
    rw [h.store]
    exact l.store.findByName_mention e.refids name
  files := h.files
  functions := by
    rw [h.functions]
    exact List.prefix_append _ _
  pending := by
    rw [h.pending]
    exact List.prefix_append _ _
  stats := ⟨e.counts, h.stats⟩

/-- An effect defines nothing either: the reference ids with a definition are those before it. -/
lemma Effect.Takes.defines {e : Effect} {l l' : Loader} (h : e.Takes l l') (refid : String) :
    l'.store.defines refid = l.store.defines refid := by
  rw [h.store]
  exact l.store.defines_mention e.refids refid

/-! ## Entries -/

namespace Loading

variable {ν : String → EntityId} {entry : IndexEntry} {compound : Compound} {entity : Entity}

/-- The entity that an entry starts from has this kind and this name. -/
lemma objectHead?_of_blank (h : blank? entry compound = some entity) :
    objectHead? entry = some (entity.kind, entity.name) ∧ entity.refid = entry.refid := by
  unfold blank? at h
  unfold objectHead?
  cases hkind : entry.compoundKind <;> simp only [hkind, reduceCtorEq, Option.some.injEq] at h <;>
    subst h <;> exact ⟨rfl, rfl⟩

lemma objectHead?_of_file (h : entry.compoundKind = .file) : objectHead? entry = none := by
  rw [objectHead?, h]

lemma objectHead?_of_other (h : entry.compoundKind = .other) : objectHead? entry = none := by
  rw [objectHead?, h]

/-- An entity complains about a section for its tag. -/
lemma misfit_eq (entity : Entity) (s : Section) :
    misfit entity s = (lacking? entity.kind s.kind).map fun capability =>
      .unsupportedSection entity.name entity.kind capability s.kind := by
  have hkind : s.sectionKind = .ofTag s.kind := rfl
  rw [misfit, Loader.canHold, lacking?, hkind]
  cases (SectionKind.ofTag s.kind).capability? with
  | none => rfl
  | some capability => cases hhosts : entity.kind.hosts capability <;> simp [hhosts, Option.filter]

/-- The first complaint of an entity is about the first tag that asks for what it lacks. -/
lemma findSome?_misfit (entity : Entity) (sections : List Section) :
    sections.findSome? (misfit entity) =
      ((sections.map (·.kind)).findSome? fun tag => (lacking? entity.kind tag).map (·, tag)).map
        fun found => .unsupportedSection entity.name entity.kind found.1 found.2 := by
  induction sections with
  | nil => rfl
  | cons s sections ih =>
      rw [List.findSome?_cons, List.map_cons, List.findSome?_cons, misfit_eq, ih]
      cases lacking? entity.kind s.kind <;> rfl

/-- The sections that are loaded are those before the first tag that asks for what the entity
lacks. -/
lemma heldSections_eq (entity : Entity) (sections : List Section) :
    heldSections entity sections =
      sections.takeWhile fun s => (lacking? entity.kind s.kind).isNone := by
  simp only [heldSections, misfit_eq, Option.isNone_map]

/-- What is refused of an entity, in terms of its complaint. -/
lemma refusal?_of_blank {store : Store} (h : blank? entry compound = some entity) :
    refusal? store entry (compound.sections.map (·.kind)) =
      match compound.sections.findSome? (misfit entity) with
      | some e => some e
      | none =>
        if store.defines entry.refid then some (.store (.duplicateDefinition entry.refid))
        else none := by
  obtain ⟨hhead, -⟩ := objectHead?_of_blank h
  rw [refusal?, hhead, findSome?_misfit]
  dsimp only
  cases (compound.sections.map (·.kind)).findSome? fun tag =>
    (lacking? entity.kind tag).map (·, tag) <;> rfl

/-- What is malformed in an entity is counted in the sections that are loaded. -/
lemma readFaults_of_blank {store : Store} (h : blank? entry compound = some entity) :
    readFaults store entry compound.sections =
      ((heldSections entity compound.sections).map sectionFaults).sum := by
  obtain ⟨hhead, -⟩ := objectHead?_of_blank h
  rw [readFaults, hhead, heldSections_eq]

/-! ### Counters -/

/-- An entry as such is no fault, so counting it adds none. -/
lemma malformed_entryCounts (entry : IndexEntry) : (entryCounts entry).malformed = 0 := by
  unfold entryCounts
  cases entry.compoundKind <;> rfl

/-- Functions that find their places are no fault, so the faults are those of the texts. -/
lemma malformed_sectionsEffect (sections : List Section) :
    (sectionsEffect ν entity sections).counts.malformed = (sections.map sectionFaults).sum := by
  have hattached : ∀ functions, (attachCounts entity functions).malformed = 0 := by
    intro functions
    unfold attachCounts
    cases entity.methods? <;> rfl
  simp only [sectionsEffect, reading, placing, Effect.append_def, LoadStats.counters_add, hattached]
  omega

/-- The malformed signatures of an effect that comes behind the count of an entry. -/
lemma malformed_of_takes {e : Effect} {l l' : Loader}
    (h : (({ counts := entryCounts entry } : Effect) ++ e).Takes l l') :
    l'.stats.malformed = l.stats.malformed + e.counts.malformed := by
  rw [h.stats]
  simp only [Effect.append_def, LoadStats.counters_add, malformed_entryCounts, Nat.zero_add]

/-! ### Steps -/

/-- What an entry ends with, how many malformed signatures it counts, and what it leaves alone if it
fails. -/
structure Ends (l : Loader) (entry : IndexEntry) (compound : Compound)
    (result : Except LoadError Unit) (l' : Loader) : Prop where
  result_eq : result = outcome (refusal? l.store entry (compound.sections.map (·.kind)))
  malformed : l'.stats.malformed = l.stats.malformed + readFaults l.store entry compound.sections
  spares : result ≠ .ok () → l.Spares l'

lemma ends_misfit {e : LoadError} {l l' : Loader} (hblank : blank? entry compound = some entity)
    (hmisfit : compound.sections.findSome? (misfit entity) = some e)
    (htakes : ({ counts := entryCounts entry }
      ++ sectionsEffect ν entity (heldSections entity compound.sections)).Takes l l') :
    Ends l entry compound (.error e) l' where
  result_eq := by
    rw [refusal?_of_blank hblank, hmisfit]
    rfl
  malformed := by
    rw [malformed_of_takes htakes, malformed_sectionsEffect, readFaults_of_blank hblank]
  spares := fun _ => htakes.spares

/-- Once all sections have been loaded, an entity is refused just if its reference id was defined
before they were. -/
lemma define_eq_of_takes {e : Effect} {l l' : Loader} (htakes : e.Takes l l')
    (hblank : blank? entry compound = some entity) :
    (l'.store.definition?
        (l'.store.intern (entityFrom ν entity compound.sections).refid).1).isSome =
      l.store.defines entry.refid := by
  rw [Store.isSome_definition?_intern_eq, htakes.defines, entityFrom, Entity.refid_extend,
    (objectHead?_of_blank hblank).2]

lemma ends_refused {e : StoreError} {l l' : Loader} (hblank : blank? entry compound = some entity)
    (hfits : compound.sections.findSome? (misfit entity) = none)
    (htakes : ({ counts := entryCounts entry }
      ++ sectionsEffect ν entity compound.sections).Takes l l')
    (hdefine : l'.store.define (entityFrom ν entity compound.sections) = .error e) :
    Ends l entry compound (.error (.store e)) l' where
  result_eq := by
    rw [Store.define_eq, define_eq_of_takes htakes hblank, entityFrom, Entity.refid_extend,
      (objectHead?_of_blank hblank).2] at hdefine
    split_ifs at hdefine with htaken
    cases hdefine
    rw [refusal?_of_blank hblank, hfits]
    simp only [htaken, if_true]
    rfl
  malformed := by
    rw [malformed_of_takes htakes, malformed_sectionsEffect, readFaults_of_blank hblank,
      heldSections_eq_self hfits]
  spares := fun _ => htakes.spares

lemma ends_defined {id : EntityId} {store : Store} {l l' l'' : Loader}
    (hblank : blank? entry compound = some entity)
    (hfits : compound.sections.findSome? (misfit entity) = none)
    (htakes : ({ counts := entryCounts entry }
      ++ sectionsEffect ν entity compound.sections).Takes l l')
    (hdefine : l'.store.define (entityFrom ν entity compound.sections) = .ok (id, store))
    (hstats : l''.stats = l'.stats) : Ends l entry compound (.ok ()) l'' where
  result_eq := by
    rw [Store.define_eq, define_eq_of_takes htakes hblank] at hdefine
    split_ifs at hdefine with hfree
    rw [refusal?_of_blank hblank, hfits]
    simp only [hfree]
    rfl
  malformed := by
    rw [hstats, malformed_of_takes htakes, malformed_sectionsEffect, readFaults_of_blank hblank,
      heldSections_eq_self hfits]
  spares := fun hfails => absurd rfl hfails

/-- A file is refused just for its reference id, whatever its sections are. -/
lemma refusal?_of_file {store : Store} (hkind : entry.compoundKind = .file) (tags : List String) :
    refusal? store entry tags = if entry.refid ∈ store.files.map (·.refid) then
      some (.store (.duplicateFile entry.refid)) else none := by
  rw [refusal?, objectHead?_of_file hkind]
  simp only [hkind, true_and]

/-- Nothing is read of a file that is refused. -/
lemma readFaults_of_file {store : Store} (hkind : entry.compoundKind = .file)
    (sections : List Section) :
    readFaults store entry sections = if entry.refid ∈ store.files.map (·.refid) then 0
      else (sections.map functionFaults).sum := by
  rw [readFaults, objectHead?_of_file hkind]
  simp only [hkind, true_and, ite_not]

lemma ends_fileRefused {e : StoreError} {l l' : Loader} (hkind : entry.compoundKind = .file)
    (hfile : l.store.addFile (Loader.declarationOf entry compound entry.name) = .error e)
    (htakes : ({ counts := { entries := 1 } } : Effect).Takes l l') :
    Ends l entry compound (.error (.store e)) l' := by
  rw [Store.addFile_eq, Loader.declarationOf] at hfile
  split_ifs at hfile with htaken
  cases hfile
  refine ⟨?_, ?_, fun _ => htakes.spares⟩
  · rw [refusal?_of_file hkind, if_pos htaken]
    rfl
  · rw [readFaults_of_file hkind, if_pos htaken, htakes.stats]
    rfl

lemma ends_filed {store : Store} {l l' : Loader} (hkind : entry.compoundKind = .file)
    (hfile : l.store.addFile (Loader.declarationOf entry compound entry.name) = .ok store)
    (htakes : ({ counts := entryCounts entry } ++ fileEffect ν compound.sections).Takes
      (l.onStore fun _ => store) l') :
    Ends l entry compound (.ok ()) l' := by
  rw [Store.addFile_eq, Loader.declarationOf] at hfile
  split_ifs at hfile with hfree
  refine ⟨?_, ?_, fun hfails => absurd rfl hfails⟩
  · rw [refusal?_of_file hkind, if_neg hfree]
    rfl
  · rw [readFaults_of_file hkind, if_neg hfree]
    exact malformed_of_takes htakes

lemma ends_ignored {l l' : Loader} (hkind : entry.compoundKind = .other)
    (htakes : ({ counts := entryCounts entry } : Effect).Takes l l') :
    Ends l entry compound (.ok ()) l' := by
  refine ⟨?_, ?_, fun hfails => absurd rfl hfails⟩
  · rw [refusal?, objectHead?_of_other hkind]
    simp [hkind, outcome]
  · rw [readFaults, objectHead?_of_other hkind, htakes.stats]
    simp [hkind, LoadStats.counters_add, malformed_entryCounts]

end Loading

namespace Loader

/-- What an entry ends with, in each of the ways in which loading it can end. -/
lemma loadEntry_ends (l : Loader) (entry : IndexEntry) (compound : Compound) :
    Ends l entry compound (l.loadEntry entry compound).1 (l.loadEntry entry compound).2 := by
  have hstep := l.loadEntry_step entry compound (Store.numberedBy_numbering _)
  generalize (l.loadEntry entry compound).2 = l', (l.loadEntry entry compound).1 = result at *
  cases hstep with
  | misfit hblank hmisfit htakes => exact ends_misfit hblank hmisfit htakes
  | refused hblank hfits htakes hdefine => exact ends_refused hblank hfits htakes hdefine
  | defined hblank hfits htakes hdefine _ _ hstats =>
      exact ends_defined hblank hfits htakes hdefine hstats
  | fileRefused hkind hfile htakes => exact ends_fileRefused hkind hfile htakes
  | filed hkind hfile htakes => exact ends_filed hkind hfile htakes
  | ignored hkind htakes => exact ends_ignored hkind htakes

/-- **Loading an entry fails only for its kind, its sections' tags and its reference id, and spares
what is there.**  It ends as `refusal?` says, which does not know what members say; malformed
signatures are counted; and after an error the loader has the definitions, names and files that it
had, with at most awaited slots, free functions, waiting methods and counts added to it. -/
theorem loadEntry_refusal (l : Loader) (entry : IndexEntry) (compound : Compound) :
    (l.loadEntry entry compound).1 =
        outcome (refusal? l.store entry (compound.sections.map (·.kind))) ∧
      (l.loadEntry entry compound).2.stats.malformed =
        l.stats.malformed + readFaults l.store entry compound.sections ∧
      ((l.loadEntry entry compound).1 ≠ .ok () → l.Spares (l.loadEntry entry compound).2) := by
  have hends := l.loadEntry_ends entry compound
  exact ⟨hends.result_eq, hends.malformed, hends.spares⟩

/-- A loader that knows one class, and nothing else. -/
def withView : Loader := (({} : Loader).loadEntry ⟨"v", "NSView", "class"⟩ {}).2

/-- Fields, one of them malformed and one of another entity's type, and then methods. -/
def badge : Compound where
  sections := [
    { kind := "public-attrib"
      members := [
        { id := "a", kind := "variable", name := "draw", type := some ⟨"void (", []⟩ },
        { id := "b", kind := "variable", name := "window"
          type := some ⟨"", [⟨"w", "NSWindow"⟩]⟩ }] },
    { kind := "public-func" }]

/-- A union is refused for its methods, and as a second definition of the class the same document is
refused for its reference id.  The malformed field is counted, and is not what it is refused for. -/
theorem loadEntry_refusal_badge :
    (withView.loadEntry ⟨"b", "Badge", "union"⟩ badge).1 =
        .error (.unsupportedSection "Badge" .union .methods "public-func") ∧
      withView.Spares (withView.loadEntry ⟨"b", "Badge", "union"⟩ badge).2 ∧
      (withView.loadEntry ⟨"b", "Badge", "union"⟩ badge).2.stats.malformed = 1 ∧
      (withView.loadEntry ⟨"v", "Badge", "struct"⟩ badge).1 =
        .error (.store (.duplicateDefinition "v")) ∧
      withView.Spares (withView.loadEntry ⟨"v", "Badge", "struct"⟩ badge).2 := by
  obtain ⟨hunion, hfaults, hunionSpares⟩ := withView.loadEntry_refusal ⟨"b", "Badge", "union"⟩ badge
  obtain ⟨hstruct, -, hstructSpares⟩ := withView.loadEntry_refusal ⟨"v", "Badge", "struct"⟩ badge
  have hunsupported :
      refusal? withView.store ⟨"b", "Badge", "union"⟩ (badge.sections.map (·.kind)) =
        some (.unsupportedSection "Badge" .union .methods "public-func") := by decide +kernel
  have hduplicate :
      refusal? withView.store ⟨"v", "Badge", "struct"⟩ (badge.sections.map (·.kind)) =
        some (.store (.duplicateDefinition "v")) := by decide +kernel
  have hcount : withView.stats.malformed +
      readFaults withView.store ⟨"b", "Badge", "union"⟩ badge.sections = 1 := by decide +kernel
  rw [hunsupported] at hunion
  rw [hduplicate] at hstruct
  refine ⟨hunion, hunionSpares ?_, hfaults.trans hcount, hstruct, hstructSpares ?_⟩
  · rw [hunion]
    exact fun h => by cases h
  · rw [hstruct]
    exact fun h => by cases h

end Loader

end FrameworkBindings
