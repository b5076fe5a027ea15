import FrameworkBindings.Loading.Loader
import FrameworkBindings.Output.Generate
import FrameworkBindings.Proofs.Store.Definitions

/-!
# Runs for certain classes

A run that was asked for certain classes is a cut of the run that was asked for none: each entity is
written by itself, so that leaving out the others changes nothing in its text, its report or its
diagnostics.

* `Store.Knows` — a name that some definition goes by.
* `Config.wants` — the slots that a list of names leads to; `select_eq` and `select_error` say what
  is selected, and when nothing is.
* `Passage.located` — the diagnostics on a passage; those of a run are put together from them
  (`runDiagnostics_eq`), whatever the passages before.
* **`run_filtered`** — the cut, whatever the generator has done before.

**Names and slots.**  A name leads to the first definition that goes by it.  So of two entities with
one name at most one is wanted, and the cut is one by slots and not by names.  Asking for a name
twice, or in another order, leads to the same slots (`wants_congr`).

**The collector is the only thing that is carried along.**  Passages are written independently, but
their diagnostics go to one collector, which is told each time which entity is at hand.  That it
does not matter what was there before is `entries_foldl_collectPassage`.
-/

namespace FrameworkBindings

/-! ## Names -/

/-- Some definition goes by the name.  A definition without a name goes by none. -/
def Store.Knows (store : Store) (name : String) : Prop :=
  name ≠ "" ∧ ∃ id ∈ store.order, store.nameOf id = some name

instance (store : Store) (name : String) : Decidable (store.Knows name) :=
  inferInstanceAs (Decidable (name ≠ "" ∧ ∃ id ∈ store.order, store.nameOf id = some name))

/-- What is known is found, by whichever definition goes by the name first. -/
lemma Store.knows_iff {store : Store} {name : String} :
    store.Knows name ↔ ∃ id, store.findByName name = some id := by
  rw [Knows, findByName]
  split
  · rename_i hname
    exact iff_of_false (fun h => h.1 hname) (by simp)
  · rename_i hname
    rw [← Option.isSome_iff_exists, List.find?_isSome]
    simp [hname]

namespace Output

/-- The configuration that asks for everything and is the same otherwise. -/
def Config.unfiltered (config : Config) : Config := { config with classes := [] }

/-- Whether one of the names that are asked for leads to the slot, as the first definition of its
name. -/
def Config.wants (config : Config) (store : Store) (id : EntityId) : Bool :=
  config.classes.any fun name => store.findByName name == some id

/-- The passages of a run that writes everything. -/
def allPassages (store : Store) : List Passage := passagesOf store store.sorted

/-- The diagnostics on a passage, with the entity it is about. -/
def Passage.located (p : Passage) : List Diagnostic :=
  p.output.diagnostics.map (·.within (some p.entity.name))

variable {store : Store} {config : Config}

/-! ## Selection -/

/-- If all names are known, slots are wanted that are found under one of them. -/
lemma wantedIds_of_known {names : List String} (h : ∀ name ∈ names, store.Knows name) :
    ∃ wanted, wantedIds store names = .ok wanted ∧
      ∀ id, wanted.contains id = names.any fun name => store.findByName name == some id := by
  induction names with
  | nil => exact ⟨[], rfl, fun id => rfl⟩
  | cons name names ih =>
      obtain ⟨id, hid⟩ := Store.knows_iff.1 (h name (by simp))
      obtain ⟨wanted, hwanted, hcontains⟩ := ih fun other hother => h other (by simp [hother])
      refine ⟨id :: wanted, ?_, fun other => ?_⟩
      · simp [wantedIds, hid, hwanted, Except.map]
      · rw [List.contains_cons, List.any_cons, hcontains, hid, Bool.beq_comm]
        rfl

/-- The first name that is not known is told. -/
lemma wantedIds_of_unknown {names : List String} {name : String}
    (h : names.find? (fun other => ¬ store.Knows other) = some name) :
    wantedIds store names = .error ⟨name⟩ := by
  induction names with
  | nil => simp at h
  | cons other names ih =>
      rw [List.find?_cons] at h
      by_cases hother : store.Knows other
      · obtain ⟨id, hid⟩ := Store.knows_iff.1 hother
        rw [wantedIds, hid, ih (by simpa [hother] using h)]
        rfl
      · obtain rfl : other = name := by simpa [hother] using h
        have hnone : store.findByName other = none := by
          rw [← Option.not_isSome_iff_eq_none, Option.isSome_iff_exists, ← Store.knows_iff]
          exact hother
        rw [wantedIds, hnone]

/-- If nothing is asked for, all definitions are selected. -/
lemma select_unfiltered (config : Config) (store : Store) :
    config.unfiltered.select store = .ok store.sorted := rfl

/-- Entities are selected where they stand, so their order is that of the whole run. -/
lemma select_eq (hclasses : config.classes ≠ [])
    (hknown : ∀ name ∈ config.classes, store.Knows name) :
    config.select store = .ok (store.sorted.filter fun found => config.wants store found.1) := by
  obtain ⟨wanted, hwanted, hcontains⟩ := wantedIds_of_known hknown
  rw [Config.select, if_neg (by simpa using hclasses), hwanted]
  refine congrArg Except.ok (List.filter_congr fun found _ => ?_)
  exact hcontains found.1

/-- If a name is not known, nothing is selected, and the first such name is told. -/
lemma select_error {name : String}
    (h : config.classes.find? (fun other => ¬ store.Knows other) = some name) :
    config.select store = .error ⟨name⟩ := by
  have hclasses : config.classes ≠ [] := fun hnil => by simp [hnil] at h
  rw [Config.select, if_neg (by simpa using hclasses), wantedIds_of_unknown h]
  rfl

/-- What is written for an entity does not depend on what else is written. -/
lemma passagesOf_filter (store : Store) (wants : EntityId → Bool) :
    passagesOf store (store.sorted.filter fun found => wants found.1) =
      (allPassages store).filter fun p => wants p.id := by
  rw [allPassages, passagesOf, passagesOf, List.filter_map]
  rfl

/-- Free functions are written only if everything is, so a cut has none. -/
lemma functions_eq_nil (hclasses : config.classes ≠ []) : config.functions store = [] := by
  have hempty : config.classes.isEmpty = false := by simpa using hclasses
  rw [Config.functions, hempty]
  rfl

/-- Neither order nor repetition of names matters to what is wanted. -/
lemma wants_congr {classes : List String} (h : ∀ name, name ∈ classes ↔ name ∈ config.classes) :
    Config.wants { config with classes } store = config.wants store := by
  funext id
  rw [Bool.eq_iff_iff, Config.wants, Config.wants, List.any_eq_true, List.any_eq_true]
  exact exists_congr fun name => and_congr_left fun _ => h name

/-! ## Diagnostics -/

/-- The diagnostics on passages come one behind the other, whatever entity the collector was in. -/
lemma entries_foldl_collectPassage (c : Collector) (passages : List Passage) :
    (passages.foldl collectPassage c).entries =
      c.entries ++ passages.flatMap Passage.located := by
  induction passages generalizing c with
  | nil => exact (List.append_nil _).symm
  | cons p passages ih =>
      rw [List.foldl_cons, ih, List.flatMap_cons, ← List.append_assoc]
      rfl

/-- The diagnostics of a run are those on its passages, in order, and those on free functions, which
are in no entity. -/
lemma runDiagnostics_eq (passages : List Passage) (functions : List Handled) :
    runDiagnostics passages functions =
      ⟨passages.flatMap Passage.located ++ (diagnostics functions).map (·.within none), none⟩ := by
  have hentries := entries_foldl_collectPassage {} passages
  rw [List.nil_append] at hentries
  rw [← hentries]
  rfl

/-! ## Runs -/

namespace Generator

/-- **A run depends on what it selects only**, not on the runs before. -/
lemma run_of_select (g : Generator) {selected : List (EntityId × Entity)}
    (h : config.select store = .ok selected) :
    g.run config store =
      (.ok ⟨config.file (passagesOf store selected) (config.functions store),
        runEvents (passagesOf store selected) (config.functions store)
          (runReport (passagesOf store selected) (config.functions store)).totals⟩,
        ⟨runReport (passagesOf store selected) (config.functions store),
          runDiagnostics (passagesOf store selected) (config.functions store)⟩) := by
  rw [run, h]
  dsimp only
  rw [foldl_addPassage]
  rfl

/-- A run that cannot select anything leaves an empty report. -/
lemma run_of_error (g : Generator) {e : UnknownEntity} (h : config.select store = .error e) :
    g.run config store = (.error e, {}) := by
  rw [run, h]
  rfl

/-- The run goes through the passages that are wanted. -/
lemma run_of_known (g : Generator) (hclasses : config.classes ≠ [])
    (hknown : ∀ name ∈ config.classes, store.Knows name) :
    let cut := (allPassages store).filter fun p => config.wants store p.id
    g.run config store =
      (.ok ⟨config.file cut [], runEvents cut [] (runReport cut []).totals⟩,
        ⟨runReport cut [], runDiagnostics cut []⟩) := by
  intro cut
  have hcut : passagesOf store (store.sorted.filter fun found => config.wants store found.1) =
      cut := passagesOf_filter store (config.wants store)
  rw [g.run_of_select (select_eq hclasses hknown), hcut, functions_eq_nil hclasses]

/-- **A run for certain classes is a cut of the whole run.**  If one of the names is not known, the
first of these is told and nothing is noted.  Otherwise the passages are those of the whole run
whose slots are found under the names, with the texts, the reports and the diagnostics that they
have there, in the same order, and without free functions.  Names in another order or more than once
make no difference. -/
theorem run_filtered (g : Generator) (config : Config) (store : Store)
    (hclasses : config.classes ≠ []) :
    (∀ name, config.classes.find? (fun other => ¬ store.Knows other) = some name →
      g.run config store = (.error ⟨name⟩, {})) ∧
    ((∀ name ∈ config.classes, store.Knows name) →
      let full := allPassages store
      let cut := full.filter fun p => config.wants store p.id
      ((g.run config.unfiltered store).1.map Delivery.code =
          .ok (config.header ++ String.join (full.map (·.output.text))
            ++ String.join ((stubs store).map (·.text))) ∧
        (g.run config.unfiltered store).2 =
          ⟨⟨full.map (·.output.report), reports (stubs store)⟩,
            ⟨full.flatMap Passage.located ++ (Output.diagnostics (stubs store)).map (·.within none),
              none⟩⟩) ∧
      ((g.run config store).1.map Delivery.code =
          .ok (config.header ++ String.join (cut.map (·.output.text))) ∧
        (g.run config store).2 =
          ⟨⟨cut.map (·.output.report), []⟩, ⟨cut.flatMap Passage.located, none⟩⟩) ∧
      ∀ classes : List String, (∀ name, name ∈ classes ↔ name ∈ config.classes) →
        g.run { config with classes } store = g.run config store) := by
  refine ⟨fun name hfirst => g.run_of_error (select_error hfirst), fun hknown => ?_⟩
  intro full cut
  have hrun := g.run_of_known hclasses hknown
  refine ⟨?_, ?_, fun classes hsame => ?_⟩
  · rw [g.run_of_select (select_unfiltered config store), runDiagnostics_eq]
    exact ⟨rfl, rfl⟩
  · rw [hrun, runDiagnostics_eq]
    refine ⟨?_, ?_⟩
    · simp [Except.map, Config.file, full, cut]
    · simp [runReport, reports, Output.diagnostics, full, cut]
  · have hclasses' : classes ≠ [] := by
      rintro rfl
      refine hclasses (List.eq_nil_iff_forall_not_mem.2 fun name hname => ?_)
      exact List.not_mem_nil ((hsame name).2 hname)
    have hknown' : ∀ name ∈ classes, store.Knows name := fun name hname =>
      hknown name ((hsame name).1 hname)
    have hrun' : g.run { config with classes } store = _ := g.run_of_known hclasses' hknown'
    rw [wants_congr hsame] at hrun'
    rw [hrun, hrun']
    rfl

/-- A store with two classes of one name, a protocol without a name, a union and a free function. -/
def namesakes : Store :=
  ([(⟨"p", " -p", "protocol"⟩, {}), (⟨"u", "NSBits", "union"⟩, {}), (⟨"v", "NSView", "class"⟩, {}),
    (⟨"x", "NSView", "class"⟩, {}), (⟨"w", "NSWindow", "class"⟩, {}),
    (⟨"f", "NSView.h", "file"⟩, { sections := [{ kind := "func", members := [
      { id := "b", kind := "function", name := "NSBeep", definition := "void NSBeep" }] }] })].foldl
    (fun (l : Loader) (d : Document.IndexEntry × Document.Compound) => (l.loadEntry d.1 d.2).2)
    {}).store

/-- Of the two classes of one name the first is written, together with the others that were asked
for; a name that nobody has is told before the empty one. -/
theorem run_filtered_namesakes :
    let config : Config := { classes := ["NSWindow", "NSBits", "NSView", "NSWindow"] }
    let strangers : Config := { classes := ["NSView", "NSMenu", ""] }
    let last : Generator := { report := ⟨[], [⟨"NSBeep", .emitted⟩]⟩ }
    config.classes ≠ [] ∧ strangers.classes ≠ [] ∧ (stubs namesakes).length = 1 ∧
      ((allPassages namesakes).filter fun p => config.wants namesakes p.id).map (·.entity.refid) =
        ["u", "v", "w"] ∧
      (last.run config namesakes).1.map Delivery.code =
        .ok (config.header ++ String.join
          (((allPassages namesakes).filter fun p => config.wants namesakes p.id).map
            (·.output.text))) ∧
      last.run { classes := ["NSView", "NSWindow", "NSBits"] } namesakes =
        last.run config namesakes ∧
      last.run strangers namesakes = (.error ⟨"NSMenu"⟩, {}) := by
  intro config strangers last
  have hknown : ∀ name ∈ config.classes, namesakes.Knows name := by decide +kernel
  have hfirst : strangers.classes.find? (fun other => ¬ namesakes.Knows other) = some "NSMenu" := by
    decide +kernel
  obtain ⟨_, hcut⟩ := last.run_filtered config namesakes (by decide)
  obtain ⟨herror, _⟩ := last.run_filtered strangers namesakes (by decide)
  obtain ⟨_, ⟨hcode, _⟩, hsame⟩ := hcut hknown
  have hsorted : namesakes.sorted = namesakes.definitions :=
    List.mergeSort_of_pairwise (by decide +kernel)
  refine ⟨by decide, by decide, by decide +kernel, ?_, hcode, ?_, herror "NSMenu" hfirst⟩
  · rw [allPassages, hsorted]
    decide +kernel
  · exact hsame ["NSView", "NSWindow", "NSBits"] (by simp [config, or_comm, or_left_comm])

end Generator

end Output

end FrameworkBindings
