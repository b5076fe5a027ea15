import FrameworkBindings.Proofs.Output.Filter
import FrameworkBindings.Proofs.Report.Collecting

/-!
# Generators that are used again

A generator keeps the report and the diagnostics of its last run, and every part of a run works on
them.  A run starts with forgetting them, so that nothing of the runs before gets into it: neither
their reports nor an entity that the collector was left in.

**The collector.**  `Config.operations` is what a run does to the collector, from the clearing on.
`diagnostics_run` says so of every generator, and `diagnostics_recorded` what is left in the end.

**Runs.**  `noted` is what a run hands over and leaves, if `generate` makes this or that of the
store (`run_eq_noted`).

**Sequences of runs.**  `Generator.after` goes through calls that succeed or fail, and
`Generator.answers` lists what comes of them.  **`run_reused`**: each is answered as by a new
generator.

**Why the state matters.**  A run is not defined by what it hands over: it changes its generator
step by step, as it reports and collects.  That the steps begin with a clearing, also in a run that
fails, is what makes the generator a thing that can be kept.  A failing run leaves an empty report,
not the one of the run before.
-/

namespace FrameworkBindings.Output

/-! ## The collector -/

/-- What is done to the collector for a passage: it enters the entity, and what is said goes
there. -/
def Passage.operations (p : Passage) : List Collector.Operation :=
  .enter p.entity.name :: p.output.diagnostics.map .add

/-- What a run does to the collector: it goes through the passages and then to the free functions,
which are in no entity, or nowhere if nothing can be selected. -/
def Config.operations (config : Config) (store : Store) : List Collector.Operation :=
  .clear ::
    match config.select store with
    | .error _ => []
    | .ok selected =>
      (passagesOf store selected).flatMap Passage.operations
        ++ .leave :: (diagnostics (config.functions store)).map .add

variable {config : Config} {store : Store}

/-- Adding one after the other is adding all. -/
lemma after_map_add (c : Collector) (ds : List Diagnostic) :
    c.after (ds.map .add) = c.addAll ds := by
  induction ds generalizing c with
  | nil => exact congrArg (Collector.mk · c.context) (List.append_nil _).symm
  | cons d ds ih =>
      rw [Collector.addAll_cons, ← ih]
      rfl

lemma after_operations (c : Collector) (p : Passage) :
    c.after p.operations = collectPassage c p :=
  after_map_add (c.enter p.entity.name) p.output.diagnostics

lemma after_flatMap_operations (c : Collector) (passages : List Passage) :
    c.after (passages.flatMap Passage.operations) = passages.foldl collectPassage c := by
  induction passages generalizing c with
  | nil => rfl
  | cons p passages ih =>
      rw [List.flatMap_cons, Collector.after_append, after_operations, ih, List.foldl_cons]

namespace Generator

/-- **A run works on the collector as it finds it.** -/
lemma diagnostics_run (g : Generator) (config : Config) (store : Store) :
    (g.run config store).2.diagnostics = g.diagnostics.after (config.operations store) := by
  cases hselect : config.select store with
  | error e =>
      rw [g.run_of_error hselect, Config.operations, hselect]
      rfl
  | ok selected =>
      calc (g.run config store).2.diagnostics
          = ((passagesOf store selected).foldl collectPassage g.diagnostics.clear).leave.addAll
              (Output.diagnostics (config.functions store)) := by
            rw [run, hselect]
            dsimp only
            rw [foldl_addPassage]
            rfl
        _ = g.diagnostics.after (config.operations store) := by
            rw [Config.operations, hselect, ← after_flatMap_operations, ← after_map_add]
            exact (Collector.after_append g.diagnostics.clear _ (.leave :: _)).symm

/-- A run leaves what its own operations record, and no entity, since the clearing comes first. -/
lemma diagnostics_recorded (g : Generator) (config : Config) (store : Store) :
    (g.run config store).2.diagnostics = ⟨Collector.recorded (config.operations store), none⟩ := by
  have hcontext : (g.run config store).2.diagnostics.context = none := by
    cases hselect : config.select store with
    | error e => rw [g.run_of_error hselect]
    | ok selected => rw [g.run_of_select hselect, runDiagnostics_eq]
  -- the clearing comes first, so the collector could as well have been empty
  have hcleared : (g.run config store).2.diagnostics =
      ({} : Collector).after (config.operations store) := g.diagnostics_run config store
  rw [Collector.after_eq] at hcleared
  rw [hcleared] at hcontext ⊢
  exact congrArg (Collector.mk _) hcontext

/-! ## Runs -/

/-- What a run hands over and leaves. -/
def noted : Except UnknownEntity Generated → Except UnknownEntity Delivery × Generator
  | .error e => (.error e, {})
  | .ok made => (.ok ⟨made.code, made.events⟩, ⟨made.report, made.diagnostics⟩)

/-- A run makes of any generator what it makes of the store. -/
lemma run_eq_noted (g : Generator) (config : Config) (store : Store) :
    g.run config store = noted (generate config store) := by
  rw [generate]
  cases hselect : config.select store with
  | error e => exact g.run_of_error hselect
  | ok selected => exact g.run_of_select hselect

/-! ## Sequences of runs -/

/-- The generator after calls, of which some may fail. -/
def after (g : Generator) (calls : List (Config × Store)) : Generator :=
  calls.foldl (fun g call => (g.run call.1 call.2).2) g

/-- What comes of calls, one after the other: what each hands over and what it leaves. -/
def answers (g : Generator) :
    List (Config × Store) → List (Except UnknownEntity Delivery × Generator)
  | [] => []
  | call :: calls =>
    let answer := g.run call.1 call.2
    answer :: answer.2.answers calls

/-- It does not matter which generator makes a run, as none of what it held is looked at. -/
lemma run_eq_run (g h : Generator) (config : Config) (store : Store) :
    g.run config store = h.run config store :=
  (g.run_eq_noted config store).trans (h.run_eq_noted config store).symm

/-- Each call finds another generator, and none makes a difference. -/
lemma answers_eq (g : Generator) (calls : List (Config × Store)) :
    g.answers calls = calls.map fun call => ({} : Generator).run call.1 call.2 := by
  induction calls generalizing g with
  | nil => rfl
  | cons call calls ih => rw [answers, List.map_cons, ih, g.run_eq_run {}]

/-- **A generator can be used again.**  Whatever it holds at first, and whatever calls it went
through, it answers each of them and one more as a new generator does: with the same file and events
or the same complaint, and it is left with the same report and the same diagnostics.  These are what
the call itself recorded, each in the entity that the call was at.  A call that fails leaves
nothing. -/
theorem run_reused (g : Generator) (calls : List (Config × Store)) (config : Config)
    (store : Store) :
    let new : Generator := {}
    let answer := (g.after calls).run config store
    answer = new.run config store
      ∧ g.answers calls = calls.map (fun call => new.run call.1 call.2)
      ∧ answer.2.diagnostics = ⟨Collector.recorded (config.operations store), none⟩
      ∧ ∀ e, answer.1 = .error e → answer.2 = new := by
  intro new answer
  refine ⟨run_eq_run _ _ config store, g.answers_eq calls,
    diagnostics_recorded _ config store, fun e he => ?_⟩
  have hnoted : answer = noted (generate config store) := run_eq_noted _ config store
  rw [hnoted] at he ⊢
  cases hmade : generate config store with
  | error e => rfl
  | ok made =>
      rw [hmade] at he
      cases he

/-- A store with a union, of which a run has one thing to say. -/
def bits : Store where
  slots := #[.defined (.union { head := { refid := "u", name := "NSBits" } })]
  order := [⟨0⟩]

/-- A call that succeeds leaves a report and a diagnostic, and the failing one after it nothing. -/
theorem run_reused_bits :
    let strangers : Config := { classes := ["NSMenu"] }
    let used := ({} : Generator).after [(strangers, bits), ({}, bits)]
    used.report.entities.length = 1 ∧ used.diagnostics.entries.length = 1 ∧
      (used.run strangers bits).1 = .error ⟨"NSMenu"⟩ ∧ (used.run strangers bits).2 = {} := by
  intro strangers used
  have hsorted : bits.sorted = bits.definitions := List.mergeSort_of_pairwise (by decide +kernel)
  have hused : used = ((({} : Generator).run strangers bits).2.run {} bits).2 := rfl
  have hfunctions : sortedFunctions bits = [] := List.mergeSort_nil
  have hselect : Config.select {} bits = .ok bits.definitions := congrArg Except.ok hsorted
  have herror : (used.run strangers bits).1 = .error ⟨"NSMenu"⟩ := rfl
  refine ⟨?_, ?_, herror, (run_reused {} _ strangers bits).2.2.2 _ herror⟩
  · rw [hused, run_of_select _ hselect]
    rfl
  · rw [hused, run_of_select _ hselect, Config.functions, stubs, hfunctions]
    rfl

end Generator

end FrameworkBindings.Output
