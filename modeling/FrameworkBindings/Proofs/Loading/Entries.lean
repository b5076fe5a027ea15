import Mathlib.Data.List.TakeWhile
import FrameworkBindings.Proofs.Loading.Effect

/-!
# Loading an entry

All that can happen when an entry is loaded, as one case distinction that later proofs start from.

**Sections.**  `misfit` is the complaint about a section that an entity cannot hold.  The sections
before the first of this kind are loaded (`heldSections`), and the entity they make is
`entityFrom`; both follow from the document and a numbering (`loadSections_gives`).

**Entries.**  `blank?` is the entity that an entry starts from, if it stands for one.  `EntryStep`
has one case for each way in which loading an entry can end, with its effect on the loader, and
`loadEntry_step` says that these are all.

**How it is used.**  A proof about loading starts with `cases loadEntry_step …` and never opens the
loader.  Each case gives the effect up to the last store that an operation may refuse, and says
whether it did.  What was loaded before a refusal is part of the case, because it stays.

**One section after the other.**  An entity grows from section to section, and what a section does
depends on it only by its name and its kind, which stay the same (`misfit_congr`).  So loading the
sections one by one is loading them together (`entityFrom_cons`, `sectionsEffect_cons`).
-/

namespace FrameworkBindings

open Document Loading

/-! ## Sections -/

namespace Loading

/-- The complaint about a section that the entity cannot hold.  It depends on the kind of the entity
and of the section, and names the entity. -/
def misfit (entity : Entity) (s : Section) : Option LoadError :=
  match Loader.canHold entity s with
  | .ok () => none
  | .error e => some e

/-- The sections before the first that the entity cannot hold: what is loaded in any case. -/
def heldSections (entity : Entity) (sections : List Section) : List Section :=
  sections.takeWhile fun s => (misfit entity s).isNone

/-- The effect of loading sections of an entity: what they mention, what is malformed in them, and
where the functions in them go. -/
def sectionsEffect (ν : String → EntityId) (entity : Entity) (sections : List Section) : Effect :=
  reading (sections.flatMap sectionRefids) (sections.map sectionFaults).sum
    ++ placing entity (routinesOf ν sections)

/-- The entity that sections make of another one, with all their fields, properties and own
functions. -/
def entityFrom (ν : String → EntityId) (entity : Entity) (sections : List Section) : Entity :=
  entity.extend (attributesOf ν sections) (propertiesOf ν sections)
    (ownOf entity.name (routinesOf ν sections))

/-- The effect of loading sections of a file, of which only the functions count. -/
def fileEffect (ν : String → EntityId) (sections : List Section) : Effect :=
  reading (sections.flatMap functionRefids) (sections.map functionFaults).sum
    ++ filing (routinesOf ν sections)

variable {ν : String → EntityId}

/-- Complaints depend on the name and the kind of an entity only, not on its members. -/
lemma misfit_congr {entity entity' : Entity} (hname : entity'.name = entity.name)
    (hkind : entity'.kind = entity.kind) : misfit entity' = misfit entity := by
  funext s
  simp only [misfit, Loader.canHold, hname, hkind]

/-- Where there is no complaint all sections are loaded. -/
lemma heldSections_eq_self {entity : Entity} {sections : List Section}
    (h : sections.findSome? (misfit entity) = none) : heldSections entity sections = sections := by
  refine List.takeWhile_eq_self_iff.2 fun s hs => ?_
  rw [List.findSome?_eq_none_iff.1 h s hs]
  rfl

/-- Only what an entity can hold is asked of it. -/
lemma hosts_of_fits {entity : Entity} {sections : List Section}
    (hfits : sections.findSome? (misfit entity) = none) {s : Section} (hs : s ∈ sections)
    {capability : Capability} (h : s.sectionKind.capability? = some capability) :
    entity.kind.hosts capability = true := by
  have hfit := List.findSome?_eq_none_iff.1 hfits s hs
  rw [misfit, Loader.canHold, h] at hfit
  by_contra hlacks
  simp [hlacks] at hfit

/-- Sections that fit have nothing of what the entity lacks. -/
lemma flatMap_eq_nil_of_lacks {α : Type} {f : Section → List α} {entity : Entity}
    {sections : List Section} {capability : Capability}
    (hfits : sections.findSome? (misfit entity) = none)
    (hlacks : entity.kind.hosts capability = false)
    (hf : ∀ s, s.sectionKind.capability? ≠ some capability → f s = []) :
    sections.flatMap f = [] := by
  refine List.flatMap_eq_nil_iff.2 fun s hs => hf s fun hasks => ?_
  rw [hosts_of_fits hfits hs hasks] at hlacks
  contradiction

lemma sectionAttributes_eq_nil {s : Section} (h : s.sectionKind.capability? ≠ some .attributes) :
    sectionAttributes ν s = [] := by
  unfold sectionAttributes
  cases hkind : s.sectionKind with
  | attributes access isStatic => exact absurd (by rw [hkind]; rfl) h
  | properties | functions _ | other => rfl

lemma sectionProperties_eq_nil {s : Section} (h : s.sectionKind.capability? ≠ some .properties) :
    sectionProperties ν s = [] := by
  unfold sectionProperties
  cases hkind : s.sectionKind with
  | properties => exact absurd (by rw [hkind]; rfl) h
  | attributes _ _ | functions _ | other => rfl

lemma sectionRoutines_eq_nil {s : Section} (h : s.sectionKind.capability? ≠ some .methods) :
    sectionRoutines ν s = [] := by
  unfold sectionRoutines
  cases hkind : s.sectionKind with
  | functions isStatic => exact absurd (by rw [hkind]; rfl) h
  | attributes _ _ | properties | other => rfl

lemma sectionsEffect_nil (entity : Entity) : sectionsEffect ν entity [] = {} := by
  rw [sectionsEffect, show routinesOf ν [] = [] from rfl, placing_nil]
  exact Effect.append_nil _

/-- The effect of a section and of those behind it. -/
lemma sectionsEffect_cons (entity : Entity) (s : Section) (sections : List Section) :
    sectionsEffect ν entity (s :: sections) =
      (reading (sectionRefids s) (sectionFaults s) ++ placing entity (sectionRoutines ν s)) ++
        sectionsEffect ν (entityFrom ν entity [s]) sections := by
  have hroutines : routinesOf ν (s :: sections) = sectionRoutines ν s ++ routinesOf ν sections := by
    simp [routinesOf]
  have hfirst : routinesOf ν [s] = sectionRoutines ν s := by simp [routinesOf]
  rw [sectionsEffect, hroutines,
    placing_append entity (attributesOf ν [s]) (propertiesOf ν [s]), sectionsEffect, entityFrom,
    hfirst, List.flatMap_cons, List.map_cons, List.sum_cons, ← reading_append]
  rw [Effect.append_assoc, Effect.append_assoc, ← Effect.append_assoc (placing entity _),
    placing_reading, Effect.append_assoc]

/-- An entity is made from its sections one after the other. -/
lemma entityFrom_cons (entity : Entity) (s : Section) (sections : List Section) :
    entityFrom ν entity (s :: sections) = entityFrom ν (entityFrom ν entity [s]) sections := by
  rw [entityFrom, entityFrom, entityFrom, Entity.extend_extend, Entity.name_extend]
  simp [attributesOf, propertiesOf, routinesOf, ownOf]

/-- The effects of the sections of a file come one after the other, the functions of each behind
those before. -/
lemma fileEffect_cons (s : Section) (sections : List Section) :
    fileEffect ν (s :: sections) =
      (reading (functionRefids s) (functionFaults s) ++ filing (sectionRoutines ν s)) ++
        fileEffect ν sections := by
  have hroutines : routinesOf ν (s :: sections) = sectionRoutines ν s ++ routinesOf ν sections := by
    simp [routinesOf]
  rw [fileEffect, hroutines, filing_append, fileEffect, List.flatMap_cons, List.map_cons,
    List.sum_cons, ← reading_append]
  rw [Effect.append_assoc, Effect.append_assoc, ← Effect.append_assoc (filing _),
    filing_reading, Effect.append_assoc]

end Loading

namespace Loader

variable {ν : String → EntityId}

/-- A section of an entity is loaded as what it stands for. -/
lemma loadSection_gives (l : Loader) (entity : Entity) (s : Section)
    (hν : (l.loadSection entity s).1.store.NumberedBy ν) :
    (l.loadSection entity s).2 = entityFrom ν entity [s] ∧
      (reading (sectionRefids s) (sectionFaults s) ++ placing entity (sectionRoutines ν s)).Takes l
        (l.loadSection entity s).1 := by
  simp only [entityFrom, attributesOf, propertiesOf, routinesOf, List.flatMap_cons,
    List.flatMap_nil, List.append_nil]
  unfold loadSection at hν ⊢
  cases hkind : s.sectionKind with
  | attributes access isStatic =>
      simp only [hkind] at hν ⊢
      obtain ⟨hentity, htakes⟩ := loadAttributes_gives access isStatic s.members l entity hν
      simp only [sectionAttributes, sectionProperties, sectionRoutines, sectionRefids,
        sectionFaults, hkind, placing_nil, Effect.append_nil]
      exact ⟨hentity, htakes⟩
  | properties =>
      simp only [hkind] at hν ⊢
      obtain ⟨hentity, htakes⟩ := loadProperties_gives s.members l entity hν
      simp only [sectionAttributes, sectionProperties, sectionRoutines, sectionRefids,
        sectionFaults, hkind, placing_nil, Effect.append_nil]
      exact ⟨hentity, htakes⟩
  | functions isStatic =>
      simp only [hkind] at hν ⊢
      obtain ⟨hentity, htakes⟩ := loadFunctions_owned isStatic s.members l entity hν
      rw [hentity]
      simp only [sectionAttributes, sectionProperties, sectionRoutines, sectionRefids,
        sectionFaults, functionRefids, functionFaults, functionMembers, hkind]
      exact ⟨rfl, htakes⟩
  | other =>
      simp only [sectionAttributes, sectionProperties, sectionRoutines, sectionRefids,
        sectionFaults, hkind, placing_nil, Effect.append_nil]
      exact ⟨entity.extend_nil.symm, (Effect.Takes.refl l).of_eq rfl rfl rfl⟩

/-- One step of loading sections: the first complaint ends it. -/
lemma loadSections_cons (l : Loader) (entity : Entity) (s : Section) (rest : List Section) :
    l.loadSections entity (s :: rest) =
      match canHold entity s with
      | .error e => (.error e, l)
      | .ok () => (l.loadSection entity s).1.loadSections (l.loadSection entity s).2 rest := rfl

/-- **Sections are loaded up to the first that the entity cannot hold.** -/
theorem loadSections_gives (l : Loader) (entity : Entity) (sections : List Section)
    (hν : (l.loadSections entity sections).2.store.NumberedBy ν) :
    (l.loadSections entity sections).1 =
        (match sections.findSome? (misfit entity) with
        | none => .ok (entityFrom ν entity sections)
        | some e => .error e) ∧
      (sectionsEffect ν entity (heldSections entity sections)).Takes l
        (l.loadSections entity sections).2 := by
  induction sections generalizing l entity with
  | nil =>
      rw [heldSections, List.takeWhile_nil, sectionsEffect_nil]
      exact ⟨congrArg Except.ok entity.extend_nil.symm, .refl l⟩
  | cons s sections ih =>
      rw [loadSections_cons] at hν ⊢
      cases hhold : canHold entity s with
      | error e =>
          have hmisfit : misfit entity s = some e := by rw [misfit, hhold]
          rw [heldSections, List.takeWhile_cons_of_neg (by simp [hmisfit]), sectionsEffect_nil,
            List.findSome?_cons, hmisfit]
          exact ⟨rfl, .refl l⟩
      | ok _ =>
          have hfits : misfit entity s = none := by rw [misfit, hhold]
          rw [hhold] at hν
          obtain ⟨hresult, hrest⟩ :=
            ih (l.loadSection entity s).1 (l.loadSection entity s).2 hν
          obtain ⟨hentity, hfirst⟩ := l.loadSection_gives entity s (hrest.numberedBy hν)
          have hcongr : misfit (entityFrom ν entity [s]) = misfit entity :=
            misfit_congr (Entity.name_extend _) (Entity.kind_extend _)
          rw [hentity] at hresult hrest
          have hheld : heldSections entity (s :: sections) =
              s :: heldSections (entityFrom ν entity [s]) sections := by
            rw [heldSections, List.takeWhile_cons_of_pos (by simp [hfits]), heldSections, hcongr]
          rw [hheld, sectionsEffect_cons, List.findSome?_cons, hfits, entityFrom_cons, ← hcongr]
          dsimp only
          rw [hentity]
          exact ⟨hresult, hfirst.trans hrest⟩

/-- The sections of a file are loaded as the functions in them. -/
lemma loadFileSections_gives (l : Loader) (sections : List Section)
    (hν : (sections.foldl loadFileSection l).store.NumberedBy ν) :
    (fileEffect ν sections).Takes l (sections.foldl loadFileSection l) := by
  induction sections generalizing l with
  | nil => exact .refl l
  | cons s sections ih =>
      rw [List.foldl_cons] at hν ⊢
      have hrest := ih _ hν
      have hfirst : (reading (functionRefids s) (functionFaults s)
          ++ filing (sectionRoutines ν s)).Takes l (l.loadFileSection s) := by
        have hnumbered := hrest.numberedBy hν
        simp only [functionRefids, functionFaults, sectionRoutines, functionMembers]
        unfold loadFileSection at hnumbered ⊢
        cases hkind : s.sectionKind with
        | functions isStatic =>
            simp only [hkind] at hnumbered
            exact loadFunctions_filed isStatic s.members l hnumbered
        | attributes _ _ | properties | other =>
            exact (Effect.Takes.refl l).of_eq rfl rfl rfl
      rw [fileEffect_cons]
      exact hfirst.trans hrest

end Loader

/-! ## Entries -/

namespace Loading

/-- The entity that an entry starts from, if it stands for one; it has the head that the entry and
the document give, and no members. -/
def blank? (entry : IndexEntry) (compound : Compound) : Option Entity :=
  match entry.compoundKind with
  | .struct | .interface =>
    some (.record { head := Loader.declarationOf entry compound entry.name, isClass := false })
  | .objectClass =>
    some (.record { head := Loader.declarationOf entry compound entry.name, isClass := true })
  | .protocol =>
    some (.protocol { head := Loader.declarationOf entry compound (protocolName entry.name) })
  | .union => some (.union { head := Loader.declarationOf entry compound entry.name })
  | .file | .other => none

/-- An entity that an entry starts from has no members. -/
lemma members_of_blank {entry : IndexEntry} {compound : Compound} {entity : Entity}
    (h : blank? entry compound = some entity) : entity.attributes?.getD [] = [] ∧
      entity.properties?.getD [] = [] ∧ entity.methods?.getD [] = [] := by
  unfold blank? at h
  split at h <;> cases h <;> exact ⟨rfl, rfl, rfl⟩

/-- What is counted for an entry as such, before anything of its document is looked at. -/
def entryCounts (entry : IndexEntry) : LoadStats :=
  match entry.compoundKind with
  | .struct | .interface | .objectClass => { entries := 1, structs := 1 }
  | .protocol => { entries := 1, protocols := 1 }
  | .union => { entries := 1, unions := 1 }
  | .file => { entries := 1, files := 1 }
  | .other => { entries := 1, ignored := 1 }

/-- How loading an entry can end, with what it does to the loader. -/
inductive EntryStep (ν : String → EntityId) (l : Loader) (entry : IndexEntry)
    (compound : Compound) : Except LoadError Unit → Loader → Prop
  /-- A section cannot be held, and the sections before it have been loaded. -/
  | misfit {entity : Entity} {e : LoadError} {l' : Loader}
      (hblank : blank? entry compound = some entity)
      (hmisfit : compound.sections.findSome? (misfit entity) = some e)
      (htakes : ({ counts := entryCounts entry }
        ++ sectionsEffect ν entity (heldSections entity compound.sections)).Takes l l') :
      EntryStep ν l entry compound (.error e) l'
  /-- The entity has been loaded, but its reference id is defined already. -/
  | refused {entity : Entity} {e : StoreError} {l' : Loader}
      (hblank : blank? entry compound = some entity)
      (hfits : compound.sections.findSome? (Loading.misfit entity) = none)
      (htakes : ({ counts := entryCounts entry }
        ++ sectionsEffect ν entity compound.sections).Takes l l')
      (hdefine : l'.store.define (entityFrom ν entity compound.sections) = .error e) :
      EntryStep ν l entry compound (.error (.store e)) l'
  /-- The entity has been loaded and defined. -/
  | defined {entity : Entity} {id : EntityId} {store : Store} {l' l'' : Loader}
      (hblank : blank? entry compound = some entity)
      (hfits : compound.sections.findSome? (Loading.misfit entity) = none)
      (htakes : ({ counts := entryCounts entry }
        ++ sectionsEffect ν entity compound.sections).Takes l l')
      (hdefine : l'.store.define (entityFrom ν entity compound.sections) = .ok (id, store))
      (hstore : l''.store = store) (hpending : l''.pending = l'.pending)
      (hstats : l''.stats = l'.stats) :
      EntryStep ν l entry compound (.ok ()) l''
  /-- The file is there already. -/
  | fileRefused {e : StoreError} {l' : Loader} (hkind : entry.compoundKind = .file)
      (hfile : l.store.addFile (Loader.declarationOf entry compound entry.name) = .error e)
      (htakes : ({ counts := { entries := 1 } } : Effect).Takes l l') :
      EntryStep ν l entry compound (.error (.store e)) l'
  /-- The file and its functions have been loaded. -/
  | filed {store : Store} {l' : Loader} (hkind : entry.compoundKind = .file)
      (hfile : l.store.addFile (Loader.declarationOf entry compound entry.name) = .ok store)
      (htakes : ({ counts := entryCounts entry } ++ fileEffect ν compound.sections).Takes
        (l.onStore fun _ => store) l') :
      EntryStep ν l entry compound (.ok ()) l'
  /-- The entry stands for nothing. -/
  | ignored {l' : Loader} (hkind : entry.compoundKind = .other)
      (htakes : ({ counts := entryCounts entry } : Effect).Takes l l') :
      EntryStep ν l entry compound (.ok ()) l'

end Loading

namespace Loader

variable {ν : String → EntityId}

/-- Loading an entity, once the entry has been counted.  It can end in three ways. -/
lemma loadObject_step {l l₀ : Loader} {entry : IndexEntry} {entity : Entity} {compound : Compound}
    (hblank : blank? entry compound = some entity)
    (hcount : ({ counts := entryCounts entry } : Effect).Takes l l₀)
    (hν : (l₀.loadObject entity compound).2.store.NumberedBy ν) :
    EntryStep ν l entry compound (l₀.loadObject entity compound).1
      (l₀.loadObject entity compound).2 := by
  have hnoted : ({ counts := entryCounts entry } : Effect).Takes l (l₀.note .debug
      ("loading " ++ entity.kind.word ++ " " ++ Text.quoted entity.name)) :=
    hcount.of_eq rfl rfl rfl
  unfold loadObject at hν ⊢
  dsimp only at hν ⊢
  generalize l₀.note .debug
    ("loading " ++ entity.kind.word ++ " " ++ Text.quoted entity.name) = l₁ at *
  have hsections := l₁.loadSections_gives (ν := ν) entity compound.sections
  generalize hloaded : l₁.loadSections entity compound.sections = loaded at *
  obtain ⟨result, l₂⟩ := loaded
  cases result with
  | error e =>
      obtain ⟨hresult, htakes⟩ := hsections hν
      cases hmisfit : compound.sections.findSome? (misfit entity) with
      | none => simp [hmisfit] at hresult
      | some e' =>
          obtain rfl : e = e' := by simpa [hmisfit] using hresult
          exact .misfit hblank hmisfit (hnoted.trans htakes)
  | ok found =>
      have hfound : ∀ hnumbered : l₂.store.NumberedBy ν,
          compound.sections.findSome? (misfit entity) = none ∧
            entityFrom ν entity compound.sections = found ∧
            ({ counts := entryCounts entry }
              ++ sectionsEffect ν entity compound.sections).Takes l l₂ := by
        intro hnumbered
        obtain ⟨hresult, htakes⟩ := hsections hnumbered
        cases hmisfit : compound.sections.findSome? (misfit entity) with
        | some e => simp [hmisfit] at hresult
        | none =>
            rw [heldSections_eq_self hmisfit] at htakes
            simp only [hmisfit] at hresult
            exact ⟨rfl, (Except.ok.inj hresult).symm, hnoted.trans htakes⟩
      cases hdefine : l₂.store.define found with
      | error e =>
          have hsession : l₂.toSession.define found = (.error e, l₂.toSession) := by
            rw [Session.define, hdefine]
          simp only [run, hsession] at hν ⊢
          obtain ⟨hfits, rfl, htakes⟩ := hfound hν
          exact .refused hblank hfits htakes hdefine
      | ok filled =>
          obtain ⟨id, store⟩ := filled
          have hsession : l₂.toSession.define found =
              (.ok id, { l₂.toSession.noteReference found.refid with store }) := by
            rw [Session.define, hdefine]
          simp only [run, hsession] at hν ⊢
          have hgrown : l₂.store.refids <+: store.refids :=
            Store.refids_grown_of_define hdefine
          obtain ⟨hfits, rfl, htakes⟩ := hfound (Store.NumberedBy.of_grown hν hgrown)
          exact .defined hblank hfits htakes hdefine rfl rfl rfl

/-- Counting an entry is counting it as an entry and by its kind. -/
lemma loadObject_counted {l l₁ : Loader} {entry : IndexEntry} {entity : Entity}
    {compound : Compound} {f : LoadStats → LoadStats} {c : LoadStats}
    (hentries : ({ counts := { entries := 1 } } : Effect).Takes l l₁) (hf : ∀ s, f s = s + c)
    (hcounts : entryCounts entry = { entries := 1 } + c)
    (hblank : blank? entry compound = some entity)
    (hν : ((l₁.count f).loadObject entity compound).2.store.NumberedBy ν) :
    EntryStep ν l entry compound ((l₁.count f).loadObject entity compound).1
      ((l₁.count f).loadObject entity compound).2 := by
  refine loadObject_step hblank ?_ hν
  rw [hcounts]
  exact hentries.trans (.of_count l₁ (hf l₁.stats))

/-- Loading a file, once the entry has been counted. -/
lemma loadFile_step {l l₁ : Loader} {entry : IndexEntry} {compound : Compound}
    (hkind : entry.compoundKind = .file)
    (hentries : ({ counts := { entries := 1 } } : Effect).Takes l l₁)
    (hν : (l₁.loadFile entry compound).2.store.NumberedBy ν) :
    EntryStep ν l entry compound (l₁.loadFile entry compound).1
      (l₁.loadFile entry compound).2 := by
  have hstore : l₁.store = l.store := by simp [hentries.store]
  unfold loadFile at hν ⊢
  dsimp only at hν ⊢
  have hnoted : (l₁.note .debug ("loading file " ++ Text.quoted entry.name)).store = l.store :=
    hstore
  rw [hnoted] at hν ⊢
  cases hfile : l.store.addFile (declarationOf entry compound entry.name) with
  | error e => exact .fileRefused hkind hfile (hentries.of_eq rfl rfl rfl)
  | ok store =>
      simp only [hfile] at hν
      refine .filed hkind hfile ?_
      have hsections := loadFileSections_gives _ compound.sections hν
      have hstored : ({ counts := { entries := 1 } } : Effect).Takes (l.onStore fun _ => store)
          ((l₁.note .debug ("loading file " ++ Text.quoted entry.name)).onStore fun _ => store) :=
        ⟨by simp [onStore], hentries.pending, hentries.stats⟩
      have hcounted := hstored.trans (.of_count _ (f := fun s => { s with files := s.files + 1 })
        (c := { files := 1 }) rfl)
      have hwhole := hcounted.trans hsections
      simp only [entryCounts, hkind]
      exact hwhole

/-- **These are all the ways in which loading an entry can end.**  By the kind of the entry. -/
theorem loadEntry_step (l : Loader) (entry : IndexEntry) (compound : Compound)
    (hν : (l.loadEntry entry compound).2.store.NumberedBy ν) :
    EntryStep ν l entry compound (l.loadEntry entry compound).1
      (l.loadEntry entry compound).2 := by
  unfold loadEntry at hν ⊢
  dsimp only at hν ⊢
  have hentries := Effect.Takes.of_count l (f := fun s => { s with entries := s.entries + 1 })
    (c := { entries := 1 }) rfl
  generalize l.count (fun s => { s with entries := s.entries + 1 }) = l₁ at *
  cases hkind : entry.compoundKind with
  | struct =>
      simp only [hkind] at hν ⊢
      exact loadObject_counted hentries (c := { structs := 1 }) (fun _ => rfl)
        (by simp only [entryCounts, hkind]; rfl) (by simp only [blank?, hkind]) hν
  | interface =>
      simp only [hkind] at hν ⊢
      exact loadObject_counted hentries (c := { structs := 1 }) (fun _ => rfl)
        (by simp only [entryCounts, hkind]; rfl) (by simp only [blank?, hkind]) hν
  | objectClass =>
      simp only [hkind] at hν ⊢
      exact loadObject_counted hentries (c := { structs := 1 }) (fun _ => rfl)
        (by simp only [entryCounts, hkind]; rfl) (by simp only [blank?, hkind]) hν
  | protocol =>
      simp only [hkind] at hν ⊢
      exact loadObject_counted hentries (c := { protocols := 1 }) (fun _ => rfl)
        (by simp only [entryCounts, hkind]; rfl) (by simp only [blank?, hkind]) hν
  | union =>
      simp only [hkind] at hν ⊢
      exact loadObject_counted hentries (c := { unions := 1 }) (fun _ => rfl)
        (by simp only [entryCounts, hkind]; rfl) (by simp only [blank?, hkind]) hν
  | file =>
      simp only [hkind] at hν ⊢
      exact loadFile_step hkind hentries hν
  | other =>
      simp only [hkind] at hν ⊢
      refine .ignored hkind ?_
      have hnoted : ({ counts := { entries := 1 } } : Effect).Takes l (l₁.note .trace
          ("ignoring " ++ entry.kind ++ " entry " ++ Text.quoted entry.name)) :=
        hentries.of_eq rfl rfl rfl
      have hcounted := hnoted.trans (.of_count _ (f := fun s => { s with ignored := s.ignored + 1 })
        (c := { ignored := 1 }) rfl)
      simp only [entryCounts, hkind]
      exact hcounted

end Loader

end FrameworkBindings
