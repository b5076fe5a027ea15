import FrameworkBindings.Proofs.Loading.Refusal

/-!
# The image of an entry

An entry that has been loaded is in the store as what its document says: no member is lost, none is
there twice, and none is out of order.

**The image.**  `IsImage` compares the definition of an entity with the sections of its document,
and `Imaged` says of a loader where everything in them has gone: the fields, the properties and the
own methods into the definition, the functions of no entity to the free functions, and the methods
of another entity to those that wait.

**The numbering.**  Members refer to entities by slots, and slots are made while the sections are
loaded.  The image is stated with the numbering of the store in the end (`Store.numbering`): it
agrees with what the loader saw at each member, since a reference id that has a slot keeps it.

**What does not count.**  `relevant` are the sections without those that are ignored and without the
members of sections of functions that are no functions.  What is loaded depends on them only
(`loadEntry_of_relevant`).  Members of the other kinds of section all count, so there is nothing to
leave out of them.

**`loadEntry_image`** puts both together.  A function without a receiver is free wherever it is
listed, also under an entity without a name.
-/

namespace FrameworkBindings

open Document Loading

/-- Reference ids are all that a numbering depends on, so definitions do not change it. -/
lemma Store.numbering_congr {store other : Store} (h : store.refids = other.refids) :
    store.numbering = other.numbering := by
  funext refid
  rw [numbering, numbering, lookup_eq_idxOf?, lookup_eq_idxOf?, ← length_refids, ← length_refids, h]

namespace Loading

variable {ν : String → EntityId}

/-! ## The image -/

/-- A definition has the members that sections stand for, and the head and the kind of the entity
that it was made from.  An entity of a kind without members of some sort has none of that sort. -/
structure IsImage (ν : String → EntityId) (blank : Entity) (sections : List Section)
    (definition : Entity) : Prop where
  head : definition.head = blank.head
  kind : definition.kind = blank.kind
  attributes : definition.attributes?.getD [] = attributesOf ν sections
  properties : definition.properties?.getD [] = propertiesOf ν sections
  /-- Of the own functions with one name the first is a method. -/
  methods : definition.methods?.getD [] =
    (ownOf blank.name (routinesOf ν sections)).eraseDupsBy fun f g => f.name == g.name

/-- The second loader is the first one with an entity that has been loaded from a document. -/
structure Imaged (l : Loader) (entry : IndexEntry) (compound : Compound) (blank : Entity)
    (l' : Loader) : Prop where
  /-- The definition stands in the slot of the reference id, behind the other definitions. -/
  definition : ∃ id definition, l'.store.lookup entry.refid = some id ∧
    l'.store.definition? id = some definition ∧
    IsImage l'.store.numbering blank compound.sections definition ∧
    l'.store.order = l.store.order ++ [id] ∧
    ∀ other, other ≠ id → l'.store.definition? other = l.store.definition? other
  functions : l'.store.functions =
    l.store.functions ++ freeOf (routinesOf l'.store.numbering compound.sections)
  pending : l'.pending =
    l.pending ++ waitingOf blank.name (routinesOf l'.store.numbering compound.sections)
  files : l'.store.files = l.store.files

/-- What an entity without methods takes are the functions without repeated names, the first of each
name being kept. -/
lemma novel_eq_eraseDupsBy (functions : List Routine) :
    novel [] functions = functions.eraseDupsBy fun f g => f.name == g.name := by
  have hloop (taken : List Routine) :
      List.eraseDupsBy.loop (fun f g => f.name == g.name) functions taken =
        taken.reverse ++ novel taken.reverse functions := by
    induction functions generalizing taken with
    | nil => rw [List.eraseDupsBy.loop, novel, List.append_nil]
    | cons f functions ih =>
        have hany : taken.any (f.name == ·.name) = taken.reverse.any (·.name == f.name) := by
          rw [List.any_reverse]
          exact congrArg taken.any (funext fun g => Bool.beq_comm)
        rw [List.eraseDupsBy.loop, hany, novel]
        cases taken.reverse.any (·.name == f.name) with
        | true => exact ih taken
        | false => simpa using ih (f :: taken)
  exact (hloop []).symm

/-- The members of an entity that had none are those that it takes from sections that fit. -/
lemma getD_of_fits {α β : Type} (f : Section → List α) {blank : Entity} {sections : List Section}
    {capability : Capability} {room : Option (List β)} {take : List β → List β}
    (hfits : sections.findSome? (misfit blank) = none)
    (hroom : room.isSome = blank.kind.hosts capability) (hempty : room.getD [] = [])
    (hf : ∀ s, s.sectionKind.capability? ≠ some capability → f s = [])
    (htake : sections.flatMap f = [] → take [] = []) : (room.map take).getD [] = take [] := by
  cases room with
  | none => exact (htake (flatMap_eq_nil_of_lacks hfits hroom.symm hf)).symm
  | some members =>
      obtain rfl : members = [] := hempty
      rfl

/-- What sections make of an entity without members is their image. -/
lemma isImage_entityFrom {entry : IndexEntry} {compound : Compound} {blank : Entity}
    (hblank : blank? entry compound = some blank)
    (hfits : compound.sections.findSome? (misfit blank) = none) :
    IsImage ν blank compound.sections (entityFrom ν blank compound.sections) where
  head := blank.head_extend
  kind := blank.kind_extend
  attributes := by
    rw [entityFrom, blank.attributes?_extend]
    exact getD_of_fits (sectionAttributes ν) hfits blank.isSome_attributes?
      (members_of_blank hblank).1 (fun s => sectionAttributes_eq_nil) id
  properties := by
    rw [entityFrom, blank.properties?_extend]
    exact getD_of_fits (sectionProperties ν) hfits blank.isSome_properties?
      (members_of_blank hblank).2.1 (fun s => sectionProperties_eq_nil) id
  methods := by
    rw [entityFrom, blank.methods?_extend, ← novel_eq_eraseDupsBy]
    refine getD_of_fits (sectionRoutines ν) hfits blank.isSome_methods?
      (members_of_blank hblank).2.2 (fun s => sectionRoutines_eq_nil) fun hnone => ?_
    rw [routinesOf, hnone]
    rfl

/-! ## What does not count -/

/-- The section with the members that count: functions only, where it is one of functions. -/
def relevantSection (s : Section) : Section :=
  match s.sectionKind with
  | .functions _ => { s with members := functionMembers s }
  | .attributes _ _ | .properties | .other => s

/-- The sections that count, with the members that count.  Nothing in them is changed or
reordered. -/
def relevant (sections : List Section) : List Section :=
  (sections.filter (·.sectionKind != .other)).map relevantSection

/-- Leaving out members does not change the kind of a section. -/
@[simp]
lemma sectionKind_relevantSection (s : Section) :
    (relevantSection s).sectionKind = s.sectionKind := by
  unfold relevantSection
  split <;> rfl

/-- All functions of a section count. -/
lemma functionMembers_relevantSection {s : Section} {isStatic : Bool}
    (h : s.sectionKind = .functions isStatic) :
    functionMembers (relevantSection s) = functionMembers s := by
  rw [relevantSection, h]
  simp [functionMembers]

/-- In a section of fields or of properties every member counts. -/
lemma relevantSection_eq_self {s : Section} (h : ∀ isStatic, s.sectionKind ≠ .functions isStatic) :
    relevantSection s = s := by
  unfold relevantSection
  cases hkind : s.sectionKind with
  | functions isStatic => exact absurd hkind (h isStatic)
  | attributes _ _ | properties | other => rfl

/-- Anything that is said of sections one by one is the same of those that count, if it is nothing
for those that do not. -/
lemma flatMap_relevant {α : Type} {f : Section → List α} (sections : List Section)
    (hother : ∀ s, s.sectionKind = .other → f s = [])
    (hfunctions : ∀ s isStatic, s.sectionKind = .functions isStatic → f (relevantSection s) = f s) :
    (relevant sections).flatMap f = sections.flatMap f := by
  have hsame : ∀ s, f (relevantSection s) = f s := by
    intro s
    cases hkind : s.sectionKind with
    | functions isStatic => exact hfunctions s isStatic hkind
    | attributes _ _ | properties | other => rw [relevantSection_eq_self (by simp [hkind])]
  rw [relevant, List.flatMap_map]
  induction sections with
  | nil => rfl
  | cons s sections ih =>
      by_cases hkind : s.sectionKind = .other
      · rw [List.filter_cons_of_neg (by simp [hkind]), List.flatMap_cons, hother s hkind, ih,
          List.nil_append]
      · rw [List.filter_cons_of_pos (by simpa using hkind), List.flatMap_cons, List.flatMap_cons,
          hsame, ih]

lemma attributesOf_relevant (sections : List Section) :
    attributesOf ν (relevant sections) = attributesOf ν sections := by
  refine flatMap_relevant sections (fun s hkind => ?_) fun s isStatic hkind => ?_
  · rw [sectionAttributes, hkind]
  · rw [sectionAttributes, sectionAttributes, sectionKind_relevantSection, hkind]

lemma propertiesOf_relevant (sections : List Section) :
    propertiesOf ν (relevant sections) = propertiesOf ν sections := by
  refine flatMap_relevant sections (fun s hkind => ?_) fun s isStatic hkind => ?_
  · rw [sectionProperties, hkind]
  · rw [sectionProperties, sectionProperties, sectionKind_relevantSection, hkind]

lemma routinesOf_relevant (sections : List Section) :
    routinesOf ν (relevant sections) = routinesOf ν sections := by
  refine flatMap_relevant sections (fun s hkind => ?_) fun s isStatic hkind => ?_
  · rw [sectionRoutines, hkind]
  · rw [sectionRoutines, sectionRoutines, sectionKind_relevantSection, hkind,
      functionMembers_relevantSection hkind]

lemma refids_relevant (sections : List Section) :
    (relevant sections).flatMap sectionRefids = sections.flatMap sectionRefids := by
  refine flatMap_relevant sections (fun s hkind => ?_) fun s isStatic hkind => ?_
  · rw [sectionRefids, hkind]
  · rw [sectionRefids, sectionRefids, functionRefids, functionRefids, sectionKind_relevantSection,
      hkind, functionMembers_relevantSection hkind]

/-- No entity complains about a section that is ignored. -/
lemma misfit_of_other {blank : Entity} {s : Section} (h : s.sectionKind = .other) :
    misfit blank s = none := by
  rw [misfit, Loader.canHold, h]
  rfl

/-- An entity complains about the sections that count, and about the first of them that it cannot
hold. -/
lemma findSome?_misfit_relevant (blank : Entity) (sections : List Section) :
    (relevant sections).findSome? (misfit blank) = sections.findSome? (misfit blank) := by
  have hsame : ∀ s, misfit blank (relevantSection s) = misfit blank s := by
    intro s
    have htag : (relevantSection s).kind = s.kind := by
      unfold relevantSection
      split <;> rfl
    rw [misfit_eq, misfit_eq, htag]
  rw [relevant, List.findSome?_map]
  induction sections with
  | nil => rfl
  | cons s sections ih =>
      by_cases hkind : s.sectionKind = .other
      · rw [List.filter_cons_of_neg (by simp [hkind]), List.findSome?_cons, misfit_of_other hkind,
          ih]
      · rw [List.filter_cons_of_pos (by simpa using hkind), List.findSome?_cons,
          List.findSome?_cons, ih, Function.comp_apply, hsame]

/-! ## Entries -/

/-- The store in which an entity is defined, once its sections have been loaded: all that they
mention has a slot, and the free functions have arrived. -/
def storeBehind (ν : String → EntityId) (store : Store) (sections : List Section) : Store :=
  { store.mention (sections.flatMap sectionRefids) with
    functions := store.functions ++ freeOf (routinesOf ν sections) }

end Loading

namespace Loader

variable {l : Loader} {entry : IndexEntry} {compound : Compound} {blank : Entity}

/-- An entity is loaded if it can hold its sections and its reference id is free. -/
lemma loadEntry_ok_iff (hblank : blank? entry compound = some blank) :
    (l.loadEntry entry compound).1 = .ok () ↔
      compound.sections.findSome? (misfit blank) = none ∧ l.store.defines entry.refid = false := by
  rw [(l.loadEntry_ends entry compound).result_eq, refusal?_of_blank hblank]
  cases compound.sections.findSome? (misfit blank) with
  | some e => simp [outcome]
  | none => cases l.store.defines entry.refid <;> simp [outcome]

/-- What is left of an entry that has been loaded: the store behind its sections with the entity
defined in it, and the waiting methods. -/
lemma loadEntry_ok (hblank : blank? entry compound = some blank)
    (hok : (l.loadEntry entry compound).1 = .ok ()) :
    let l' := (l.loadEntry entry compound).2
    ∃ id, (storeBehind l'.store.numbering l.store compound.sections).define
        (entityFrom l'.store.numbering blank compound.sections) = .ok (id, l'.store) ∧
      l'.pending =
        l.pending ++ waitingOf blank.name (routinesOf l'.store.numbering compound.sections) := by
  have hstep := l.loadEntry_step entry compound (Store.numberedBy_numbering _)
  dsimp only
  generalize (l.loadEntry entry compound).2 = l', (l.loadEntry entry compound).1 = result at *
  cases hstep with
  | misfit | refused | fileRefused => contradiction
  | filed hkind => simp [blank?, hkind] at hblank
  | ignored hkind => simp [blank?, hkind] at hblank
  | @defined entity id store l₁ _ hentity hfits htakes hdefine hstore hpending hstats =>
      obtain rfl := Option.some.inj (hblank.symm.trans hentity)
      have hbehind : l₁.store = storeBehind l'.store.numbering l.store compound.sections := by
        rw [htakes.store]
        simp [storeBehind, sectionsEffect, reading, placing, Effect.append_def]
      refine ⟨id, ?_, ?_⟩
      · rw [← hbehind, hdefine, hstore]
      · rw [hpending, htakes.pending]
        simp [sectionsEffect, reading, placing, Effect.append_def]

/-- The slots that there are in the end do not depend on the numbering. -/
lemma refids_of_ok (hblank : blank? entry compound = some blank)
    (hok : (l.loadEntry entry compound).1 = .ok ()) :
    (l.loadEntry entry compound).2.store.refids =
      (l.store.mention (compound.sections.flatMap sectionRefids ++ [entry.refid])).refids := by
  obtain ⟨id, hdefine, -⟩ := loadEntry_ok hblank hok
  have hrefid := (objectHead?_of_blank hblank).2
  rw [Store.refids_of_define hdefine, entityFrom, Entity.refid_extend, hrefid, Store.mention_append,
    Store.mention_cons, Store.mention_nil, Store.refids_intern, Store.refids_intern]
  rfl

/-- **What does not count leaves no trace.**  Two documents with the same relevant sections are
loaded into the same store and leave the same methods waiting. -/
lemma loadEntry_of_relevant (hblank : blank? entry compound = some blank)
    (hok : (l.loadEntry entry compound).1 = .ok ()) {sections : List Section}
    (h : relevant sections = relevant compound.sections) :
    let out := l.loadEntry entry { compound with sections }
    out.1 = .ok () ∧ out.2.store = (l.loadEntry entry compound).2.store ∧
      out.2.pending = (l.loadEntry entry compound).2.pending := by
  have hblank' : blank? entry { compound with sections } = some blank := hblank
  have hok' : (l.loadEntry entry { compound with sections }).1 = .ok () := by
    rw [loadEntry_ok_iff hblank']
    rw [loadEntry_ok_iff hblank, ← findSome?_misfit_relevant, ← h, findSome?_misfit_relevant] at hok
    exact hok
  have hrefids : sections.flatMap sectionRefids = compound.sections.flatMap sectionRefids := by
    rw [← refids_relevant, h, refids_relevant]
  have hnumbering : (l.loadEntry entry { compound with sections }).2.store.numbering =
      (l.loadEntry entry compound).2.store.numbering := by
    refine Store.numbering_congr ?_
    rw [refids_of_ok hblank' hok', refids_of_ok hblank hok, hrefids]
  obtain ⟨id, hdefine, hpending⟩ := loadEntry_ok hblank hok
  obtain ⟨id', hdefine', hpending'⟩ := loadEntry_ok hblank' hok'
  generalize (l.loadEntry entry compound).2.store.numbering = ν at *
  have hattributes : attributesOf ν sections = attributesOf ν compound.sections := by
    rw [← attributesOf_relevant, h, attributesOf_relevant]
  have hproperties : propertiesOf ν sections = propertiesOf ν compound.sections := by
    rw [← propertiesOf_relevant, h, propertiesOf_relevant]
  have hroutines : routinesOf ν sections = routinesOf ν compound.sections := by
    rw [← routinesOf_relevant, h, routinesOf_relevant]
  rw [hnumbering, storeBehind, entityFrom, hrefids, hattributes, hproperties, hroutines] at hdefine'
  refine ⟨hok', ?_, ?_⟩
  · exact congrArg Prod.snd (Except.ok.inj (hdefine'.symm.trans hdefine))
  · rw [hpending', hpending, hnumbering, hroutines]

/-- **A loaded entity is the image of its entry**, and what does not count leaves no trace.  The
image is that of the whole document, since an entry that is loaded has no section that its entity
cannot hold. -/
theorem loadEntry_image (hblank : blank? entry compound = some blank)
    (hok : (l.loadEntry entry compound).1 = .ok ()) :
    Imaged l entry compound blank (l.loadEntry entry compound).2 ∧
      ∀ sections, relevant sections = relevant compound.sections →
        (l.loadEntry entry { compound with sections }).1 = .ok () ∧
        (l.loadEntry entry { compound with sections }).2.store =
          (l.loadEntry entry compound).2.store ∧
        (l.loadEntry entry { compound with sections }).2.pending =
          (l.loadEntry entry compound).2.pending := by
  refine ⟨?_, fun sections h => loadEntry_of_relevant hblank hok h⟩
  obtain ⟨id, hdefine, hpending⟩ := loadEntry_ok hblank hok
  generalize (l.loadEntry entry compound).2 = l' at *
  have hfits := ((loadEntry_ok_iff hblank).1 hok).1
  refine ⟨⟨id, _, ?_, ?_, isImage_entityFrom hblank hfits, ?_, ?_⟩, ?_, hpending, ?_⟩
  · have hlookup := Store.lookup_of_define hdefine
    rwa [entityFrom, Entity.refid_extend, (objectHead?_of_blank hblank).2] at hlookup
  · rw [Store.definition?_of_define hdefine, if_pos rfl]
  · rw [Store.frame_of_define hdefine, storeBehind, Store.mention_frame]
  · intro other hother
    rw [Store.definition?_of_define hdefine, if_neg hother]
    exact l.store.definition?_mention _ other
  · rw [Store.frame_of_define hdefine]
    rfl
  · rw [Store.frame_of_define hdefine, storeBehind, Store.mention_frame]

/-- A class with a field, a property and functions of all sorts, and with two members that do not
count. -/
def gauge : Compound where
  sections := [
    { kind := "protected-static-attrib"
      members := [{ kind := "variable", name := "_shared", type := some ⟨"int", []⟩ }] },
    { kind := "user-defined", members := [{ kind := "variable", name := "_lost" }] },
    { kind := "property"
      members := [{ kind := "property", name := "window", type := some ⟨"", [⟨"w", "NSWindow"⟩]⟩,
                    readable := true }] },
    { kind := "public-func"
      members := [
        { kind := "function", name := "level", definition := "int NSGauge::level"
          type := some ⟨"int", []⟩ },
        { kind := "function", name := "close", definition := "void NSWindow::close"
          type := some ⟨"void", []⟩ },
        { kind := "typedef", name := "NSLevel", definition := "int NSGauge::NSLevel" },
        { kind := "function", name := "NSBeep", definition := "void NSBeep"
          type := some ⟨"void", []⟩ },
        { kind := "function", name := "level", definition := "float NSGauge::level"
          type := some ⟨"float", []⟩ }] }]

/-- The class is loaded, and each member is where the image says: one of the two functions of one
name, the function of no entity among the free ones, and the method of a window waiting for it. -/
theorem loadEntry_image_gauge :
    let out := ({} : Loader).loadEntry ⟨"g", "NSGauge", "class"⟩ gauge
    out.1 = .ok () ∧
      (∃ id definition, out.2.store.definition? id = some definition ∧
        (definition.attributes?.getD []).map (fun a => (a.name, a.access, a.isStatic)) =
          [("_shared", .derived, true)] ∧
        (definition.properties?.getD []).map (fun p => (p.name, p.readable, p.writable)) =
          [("window", true, false)] ∧
        (definition.methods?.getD []).map Routine.name = ["level"]) ∧
      out.2.store.functions.map Routine.name = ["NSBeep"] ∧
      out.2.pending.map Routine.name = ["close"] ∧
      (({} : Loader).loadEntry ⟨"g", "NSGauge", "class"⟩
        { gauge with sections := relevant gauge.sections }).2.store = out.2.store := by
  have hok : (({} : Loader).loadEntry ⟨"g", "NSGauge", "class"⟩ gauge).1 = .ok () := by
    decide +kernel
  obtain ⟨himaged, hrelevant⟩ := loadEntry_image rfl hok
  obtain ⟨id, definition, -, hdefinition, himage, -⟩ := himaged.definition
  refine ⟨hok, ⟨id, definition, hdefinition, ?_, ?_, ?_⟩, ?_, ?_,
    (hrelevant _ (by decide +kernel)).2.1⟩
  · rw [himage.attributes]
    rfl
  · rw [himage.properties]
    rfl
  · rw [himage.methods]
    rfl
  · rw [himaged.functions]
    rfl
  · rw [himaged.pending]
    rfl

end Loader

end FrameworkBindings
