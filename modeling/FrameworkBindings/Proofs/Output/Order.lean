import FrameworkBindings.Proofs.Loading.Renumbering

/-!
# The order of the documentation

Slots are numbered in the order in which reference ids are heard of, functions and methods queue in
the order in which they are read, and a type may name an entity long before its definition.  None of
this is seen in the generated file, in the report or in the diagnostics.

* `sorted_renumbered`, `select_renumbered`, `stubs_renumbered` — what a run goes through is the same
  under other numbers.
* `generateFrom_renumbered` — so is what it shows.
* **`generate_of_perm`** — the theorem on two orders of the same entries.

**Two steps.**  That loaders over the same entries hold the same things under other numbers is a
fact about loading, and is proved there.  Here it is shown that numbers are not seen: entities are
written in order of names, their output depends on slots by their faces only, and names are looked
up.

**Ties.**  Sorting keeps the order of loading between equal keys.  Definitions have different keys,
as their reference ids differ, so their order does not depend on loading.  Free functions may have
one name, and then their order is that of loading; entries that declare such functions are not apart
from each other, and nothing is said of them.
-/

namespace FrameworkBindings.Output

open Document Loading

/-- What is seen of a run.  The events are left out, since they name slots. -/
def Generated.shown (g : Generated) : String × RunReport × Collector :=
  (g.code, g.report, g.diagnostics)

variable {σ : EntityId → EntityId} {l l' : Loader}

/-- Types that refer to slots of the store show the same under the new numbers. -/
lemma relocatesTypes_renumbered (h : l.Renumbers σ l') {types : List NativeType}
    (hgrounds : ∀ t ∈ types, l.store.Grounds t) : RelocatesTypes σ l.store l'.store types :=
  fun t ht id hid => h.sameFace (hgrounds t ht id hid)

/-! ## Entities -/

/-- The definitions are sorted alike: by names and reference ids, which are kept. -/
lemma sorted_renumbered (h : l.Renumbers σ l') :
    l'.store.sorted = l.store.sorted.map fun p => (σ p.1, p.2.rename σ) := by
  have hkey : ∀ entity : Entity, Store.sortKey (entity.rename σ) = Store.sortKey entity := by
    intro entity
    simp [Store.sortKey, Entity.refid]
  have hmap : (l.store.ordered.mergeSort Store.entityLe).map (fun p => (σ p.1, p.2.rename σ)) =
      (l.store.ordered.map fun p => (σ p.1, p.2.rename σ)).mergeSort Store.entityLe := by
    refine List.map_mergeSort fun p _ q _ => ?_
    simp only [Store.entityLe, hkey]
  rw [Store.sorted_eq h.sound.consistent, Store.sorted_eq h.sound'.consistent, hmap]
  refine mergeSort_eq_of_perm Store.entityLe_trans Store.entityLe_total
    (fun p hp q hq hpq hqp => ?_) h.ordered
  exact Store.eq_of_refid_eq h.sound'.consistent hp hq (Store.refid_eq_of_entityLe hpq hqp)

/-- What is listed for a run has been defined, in the slot with which it is listed. -/
lemma definition?_of_mem_sorted (h : l.Sound) {p : EntityId × Entity} (hp : p ∈ l.store.sorted) :
    l.store.definition? p.1 = some p.2 := by
  rw [Store.sorted_eq h.consistent, List.mem_mergeSort] at hp
  exact (Store.mem_ordered h.consistent.toCoherent).1 hp

/-- A list of names leads to the same entities, or fails at the same name. -/
lemma wantedIds_renumbered (h : l.Renumbers σ l') (names : List String) :
    wantedIds l'.store names = (wantedIds l.store names).map (List.map σ) := by
  induction names with
  | nil => rfl
  | cons name names ih =>
      rw [wantedIds, wantedIds, h.findByName_renumbered, ih]
      cases l.store.findByName name with
      | none => rfl
      | some id => cases wantedIds l.store names <;> rfl

/-- What is found by a list of names is in slots. -/
lemma slot_lt_of_wantedIds {names : List String} {wanted : List EntityId}
    (hwanted : wantedIds l.store names = .ok wanted) : ∀ id ∈ wanted, id.slot < l.store.size := by
  induction names generalizing wanted with
  | nil =>
      cases hwanted
      simp
  | cons name names ih =>
      rw [wantedIds] at hwanted
      cases hfind : l.store.findByName name with
      | none => simp [hfind] at hwanted
      | some id =>
          rw [hfind] at hwanted
          obtain ⟨rest, hrest, rfl⟩ := map_eq_ok_iff.1 hwanted
          intro other hother
          rcases List.mem_cons.1 hother with rfl | hother
          · obtain ⟨entity, hentity, _⟩ := Store.exists_definition_of_findByName hfind
            exact Store.slot_lt_of_definition? hentity
          · exact ih hrest other hother

/-- The same entities are selected, in the same order. -/
lemma select_renumbered (h : l.Renumbers σ l') (config : Config) :
    config.select l'.store = (config.select l.store).map fun selected =>
      selected.map fun p => (σ p.1, p.2.rename σ) := by
  rw [Config.select, Config.select, sorted_renumbered h]
  split
  · rfl
  · rw [wantedIds_renumbered h]
    cases hwanted : wantedIds l.store config.classes with
    | error e => rfl
    | ok wanted =>
        simp only [Except.map, List.filter_map]
        refine congrArg (fun found => Except.ok (List.map _ found))
          (List.filter_congr fun p hp => ?_)
        have hp := Store.slot_lt_of_definition? (definition?_of_mem_sorted h.sound hp)
        rw [Function.comp_apply, Bool.eq_iff_iff, List.contains_iff_mem, List.contains_iff_mem,
          List.mem_map]
        constructor
        · rintro ⟨id, hid, hsame⟩
          have hlt := slot_lt_of_wantedIds hwanted id hid
          rwa [← h.slot_injective hlt hp hsame]
        · intro hid
          exact ⟨p.1, hid, rfl⟩

/-- What is selected is one of the sorted definitions. -/
lemma mem_sorted_of_mem_select {config : Config} {store : Store}
    {selected : List (EntityId × Entity)} (h : config.select store = .ok selected) :
    ∀ p ∈ selected, p ∈ store.sorted := by
  rw [Config.select] at h
  split at h
  · cases h
    exact fun _ hp => hp
  · obtain ⟨wanted, _, rfl⟩ := map_eq_ok_iff.1 h
    exact fun _ hp => (List.mem_filter.1 hp).1

/-! ## Free functions -/

/-- Free functions are sorted alike, as those of one name are in the same order. -/
lemma sortedFunctions_renumbered (h : l.Renumbers σ l') :
    sortedFunctions l'.store = (sortedFunctions l.store).map (·.rename σ) := by
  have hmap : (sortedFunctions l.store).map (·.rename σ) =
      (l.store.functions.map (·.rename σ)).mergeSort fun f g => Store.textLe f.name g.name :=
    List.map_mergeSort fun _ _ _ _ => rfl
  have hkey : ∀ f g : Routine, f.name = g.name ↔
      Store.textLe f.name g.name = true ∧ Store.textLe g.name f.name = true := by
    intro f g
    refine ⟨fun hname => ?_, fun hle => Store.textLe_antisymm hle.1 hle.2⟩
    rw [hname]
    exact ⟨Store.textLe_iff.2 (String.le_refl _), Store.textLe_iff.2 (String.le_refl _)⟩
  rw [hmap]
  refine mergeSort_eq_of_filter_eq (fun _ _ _ => Store.textLe_trans)
    (fun f g => Store.textLe_total f.name g.name) hkey fun name => ?_
  rw [h.functions name, List.filter_map]
  rfl

/-- Stubs are the same under other numbers, since functions are sorted alike and spelled alike. -/
lemma stubs_renumbered (h : l.Renumbers σ l') : stubs l'.store = stubs l.store := by
  rw [stubs, stubs, sortedFunctions_renumbered h]
  refine stubsFrom_rename (fun f hf => relocatesTypes_renumbered h fun t ht => ?_) []
  exact h.sound.function_types f (List.mem_mergeSort.1 hf) t ht

/-! ## Runs -/

/-- The passages of a run are written alike, though their slots have other numbers. -/
lemma passagesOf_renumbered (h : l.Renumbers σ l') {selected : List (EntityId × Entity)}
    (hselected : ∀ p ∈ selected, p ∈ l.store.sorted) :
    passagesOf l'.store (selected.map fun p => (σ p.1, p.2.rename σ)) =
      selected.map fun p => ⟨σ p.1, p.2.rename σ, emit l.store p.2⟩ := by
  rw [passagesOf, List.map_map]
  refine List.map_congr_left fun p hp => ?_
  have hdef := definition?_of_mem_sorted h.sound (hselected p hp)
  rw [Function.comp_apply,
    emit_rename (relocatesTypes_renumbered h (h.sound.entity_types p.1 p.2 hdef))]

/-- **A run shows the same under other numbers**: its file, its report and its diagnostics. -/
theorem generateFrom_renumbered (h : l.Renumbers σ l') (config : Config)
    {selected : List (EntityId × Entity)} (hselected : ∀ p ∈ selected, p ∈ l.store.sorted) :
    (generateFrom config l'.store (selected.map fun p => (σ p.1, p.2.rename σ))).shown =
      (generateFrom config l.store selected).shown := by
  have hfunctions : config.functions l'.store = config.functions l.store := by
    rw [Config.functions, Config.functions, stubs_renumbered h]
  simp only [Generated.shown, generateFrom, hfunctions, passagesOf_renumbered h hselected]
  refine Prod.ext ?_ (Prod.ext ?_ ?_)
  · simp only [Config.file, passagesOf, List.map_map]
    rfl
  · simp only [runReport, passagesOf, List.map_map]
    rfl
  · simp only [runDiagnostics, passagesOf, List.foldl_map, collectPassage, Entity.name_rename]

/-- **The order of the entries does not show.**  If the entries of an index stay out of each other's
way, and they can be loaded in one order, then they can be loaded in every order, the counters are
the same, and every run writes the same file with the same report and the same diagnostics. -/
theorem generate_of_perm {decode : IndexEntry → Except LoadError Compound}
    {es es' : List IndexEntry} (hperm : es.Perm es') (hapart : es.Pairwise (Apart decode))
    (hload : Loader.loadIndex (m := Id) decode {} es = (.ok (), l)) :
    ∃ l', Loader.loadIndex (m := Id) decode {} es' = (.ok (), l') ∧
      l'.finish.stats = l.finish.stats ∧
      ∀ config : Config, (generate config l'.finish.store).map Generated.shown =
        (generate config l.finish.store).map Generated.shown := by
  have hloadable := Loader.loadIndex_ok_iff.1 ⟨l, hload⟩
  obtain ⟨l', hload'⟩ := Loader.loadIndex_ok_iff.2 (hloadable.of_perm hperm)
  have hempty : ({} : Loader).Sound := .fresh #[]
  have hsound : l.Sound := by
    have hrun := hempty.loadIndex decode es
    rwa [hload] at hrun
  have hsound' : l'.Sound := by
    have hrun := hempty.loadIndex decode es'
    rwa [hload'] at hrun
  obtain ⟨σ, hrenumbers⟩ := renumbers_of_perm hperm hapart hloadable
    (Loader.describes_of_loadIndex hload) (Loader.describes_of_loadIndex hload') hsound hsound'
  have hfinish := hrenumbers.finish
  refine ⟨l', hload', hfinish.stats, fun config => ?_⟩
  rw [generate, generate, select_renumbered hfinish]
  cases hselect : config.select l.finish.store with
  | error e => simp only [Except.map]
  | ok selected =>
      simp only [Except.map]
      rw [generateFrom_renumbered hfinish config (mem_sorted_of_mem_select hselect)]

/-- A class with a property of the class of windows, and the class of windows, listed with a method
of the first. -/
def crossedDocuments (entry : IndexEntry) : Except LoadError Compound :=
  .ok { sections :=
    if entry.refid = "v" then [
      { kind := "property"
        members := [
          { id := "p", kind := "property", name := "window", readable := true, writable := true
            type := some ⟨"NSWindow", [⟨"w", "NSWindow"⟩]⟩ }] }]
    else [
      { kind := "public-func"
        members := [
          { id := "m", kind := "function", name := "opaqueAncestor"
            definition := "NSView * NSView::opaqueAncestor"
            type := some ⟨"NSView", [⟨"v", "NSView"⟩]⟩ }] }] }

/-- Each class mentions the other, so in each order the slots are numbered differently; the file,
the report, the diagnostics and the counters are the same. -/
theorem generate_of_perm_crossed :
    let view : IndexEntry := ⟨"v", "NSView", "class"⟩
    let window : IndexEntry := ⟨"w", "NSWindow", "class"⟩
    ∃ l l', Loader.loadIndex (m := Id) crossedDocuments {} [view, window] = (.ok (), l) ∧
      Loader.loadIndex (m := Id) crossedDocuments {} [window, view] = (.ok (), l') ∧
      l.store.refids = ["w", "v"] ∧ l'.store.refids = ["v", "w"] ∧
      l'.finish.stats = l.finish.stats ∧
      (generate {} l'.finish.store).map Generated.shown =
        (generate {} l.finish.store).map Generated.shown := by
  intro view window
  have hapart : [view, window].Pairwise (Apart crossedDocuments) := by
    refine List.pairwise_pair.2 ⟨?_, ?_, ?_⟩
    · rintro _ ⟨⟩
      decide
    · decide +kernel
    · decide +kernel
  have hload : Loader.loadIndex (m := Id) crossedDocuments {} [view, window] =
      (.ok (), (Loader.loadIndex (m := Id) crossedDocuments {} [view, window]).2) :=
    Prod.ext (by decide +kernel) rfl
  obtain ⟨l', hload', hstats, hshown⟩ := generate_of_perm (List.Perm.swap _ _ _) hapart hload
  refine ⟨_, l', hload, hload', ?_, ?_, hstats, hshown {}⟩
  · decide +kernel
  · have hsecond := congrArg (fun out => out.2.store.refids) hload'
    rw [← hsecond]
    decide +kernel

end FrameworkBindings.Output
