import FrameworkBindings.Output.Interface
import FrameworkBindings.Output.Stub
import FrameworkBindings.Output.Wrapper

/-!
# The generated file

A run writes a header, then the entities in order of Go names, then the free functions.  With a list
of classes in the configuration it writes those entities only, and no free functions.

## Groups

* `Config` — what a run depends on besides the store.
* `Config.select` — the entities to write; `UnknownEntity` names one that does not exist.
* `emit` — the output for one entity; a `Passage` of the file.
* `generate` — the file for a store, with the report and the diagnostics of the run.
* `Generator` — the same for those who run several times: it keeps the report and the diagnostics of
  the last run only.

**Passages.**  An entity is written without regard to the others, so the file is a list of passages
put together, and choosing entities means choosing passages.  The order is that of the store and not
that of the configuration, in which a class may also be named twice.

**Two forms of a run.**  `generate` says what a run comes to: a file, a report, diagnostics and
events, each as a function of the passages.  `Generator.run` says how it gets there, passage by
passage, on top of what an earlier run has left behind and after forgetting it.  `foldl_addPassage`
is the step from one to the other.
-/

namespace FrameworkBindings.Output

/-- What the generated file depends on besides the store. -/
structure Config where
  /-- The package of the file. -/
  package : String := "appkit"
  /-- The import path of the bridge. -/
  runtimeImport : String := "github.com/mkrautz/objc"
  /-- The import path of the part of the bridge that knows strings. -/
  foundationImport : String := "github.com/mkrautz/objc/Foundation"
  /-- The names of the entities to write; all, if there is none. -/
  classes : List String := []
deriving DecidableEq

/-- A configured name that no entity has; the first such name ends the run. -/
structure UnknownEntity where
  name : String
deriving DecidableEq

/-- The complaint about a name that no entity has. -/
def UnknownEntity.message (e : UnknownEntity) : String :=
  "Unknown class: " ++ Text.quoted e.name

/-- The slots of the named entities, found by the names of the documentation. -/
def wantedIds (store : Store) : List String → Except UnknownEntity (List EntityId)
  | [] => .ok []
  | name :: names =>
    match store.findByName name with
    | none => .error ⟨name⟩
    | some id => (wantedIds store names).map (id :: ·)

/-- The entities to write, in order: all of them, or those that are named, in the order of all. -/
def Config.select (config : Config) (store : Store) :
    Except UnknownEntity (List (EntityId × Entity)) :=
  if config.classes.isEmpty then .ok store.sorted
  else
    (wantedIds store config.classes).map fun wanted =>
      store.sorted.filter fun found => wanted.contains found.1

/-- The beginning of the file, as far as no entity has a part in it. -/
def Config.header (config : Config) : String :=
  unlines [
    "package " ++ config.package,
    "",
    "import (",
    "\t" ++ goLiteral config.runtimeImport,
    "\t" ++ goLiteral config.foundationImport,
    ")",
    "",
    "var _ objc.Object",
    "var _ = foundation.NSStringFromString"]

/-- Why unions are left out: their members share memory, as those of no Go type do. -/
def noLayout : String := "union has no Go layout"

/-- The output for an entity, by its kind.  A union is reported and not written. -/
def emit (store : Store) : Entity → EntityOutput
  | .record d => wrap store d
  | .protocol d => bind store d
  | .union d => {
      text := ""
      report := { name := d.head.name, kind := EntityKind.union.word, skipped := some noLayout }
      diagnostics := [{ category := .noHostLayout, message := noLayout }] }

/-- The counts of an entity in words. -/
def countsEvent (id : EntityId) (r : EntityReport) : Event where
  level := .debug
  message :=
    r.kind ++ " " ++ Text.quoted r.name ++ " (" ++ id.label ++ "): " ++ toString r.emitted
      ++ " emitted, " ++ toString r.advisory ++ " advisory, " ++ toString r.skippedMembers
      ++ " skipped"

/-- The totals of a run in words. -/
def totalsEvent (totals : Totals) : Event where
  level := .info
  message :=
    "generated " ++ toString totals.entities ++ " entities (" ++ toString totals.skippedEntities
      ++ " skipped): " ++ toString totals.emitted ++ " members emitted, "
      ++ toString totals.advisory ++ " advisory, " ++ toString totals.skipped ++ " skipped"

/-- An entity to write, with the slot it has and the output for it, which is all that a report
needs. -/
structure Passage where
  id : EntityId
  entity : Entity
  output : EntityOutput

/-- The passages of the file, for entities in order. -/
def passagesOf (store : Store) (selected : List (EntityId × Entity)) : List Passage :=
  selected.map fun found => ⟨found.1, found.2, emit store found.2⟩

/-- The free functions a run writes: all, unless it was asked for certain entities. -/
def Config.functions (config : Config) (store : Store) : List Handled :=
  if config.classes.isEmpty then stubs store else []

/-- The whole file: header, passages, free functions. -/
def Config.file (config : Config) (passages : List Passage) (functions : List Handled) : String :=
  config.header ++ String.join (passages.map (·.output.text))
    ++ String.join (functions.map (·.text))

/-- The events of a run, of which the last says the totals. -/
def runEvents (passages : List Passage) (functions : List Handled) (totals : Totals) :
    List Event :=
  (passages.flatMap fun p => p.output.events ++ [countsEvent p.id p.output.report])
    ++ events "function " functions
    ++ [totalsEvent totals]

/-- The report of a run, in the order of the file. -/
def runReport (passages : List Passage) (functions : List Handled) : RunReport where
  entities := passages.map (·.output.report)
  functions := reports functions

/-- The diagnostics on a passage, in the context of its entity, which stays entered afterwards. -/
def collectPassage (c : Collector) (p : Passage) : Collector :=
  (c.enter p.entity.name).addAll p.output.diagnostics

/-- The diagnostics of a run: those on entities, then those on free functions, which are in no
context. -/
def runDiagnostics (passages : List Passage) (functions : List Handled) : Collector :=
  (passages.foldl collectPassage {}).leave.addAll (diagnostics functions)

/-- What a run has made: the file, and three accounts of how it was made. -/
structure Generated where
  code : String
  report : RunReport
  diagnostics : Collector
  events : List Event

/-- Writes the selected entities of a store; this cannot fail any more. -/
def generateFrom (config : Config) (store : Store) (selected : List (EntityId × Entity)) :
    Generated :=
  let passages := passagesOf store selected
  let functions := config.functions store
  let report := runReport passages functions
  { code := config.file passages functions
    report
    diagnostics := runDiagnostics passages functions
    events := runEvents passages functions report.totals }

/-- **Writes the Go file for a store.**  It fails only if the configuration names an entity that
there is not; what cannot be written of an entity never makes a run fail. -/
def generate (config : Config) (store : Store) : Except UnknownEntity Generated :=
  (config.select store).map (generateFrom config store)

/-! ## Several runs -/

/-- A generator, which keeps the report and the diagnostics of its last run. -/
structure Generator where
  report : RunReport := {}
  diagnostics : Collector := {}

namespace Generator

/-- Forgets the last run, its diagnostics and their context included. -/
def reset (g : Generator) : Generator where
  report := {}
  diagnostics := g.diagnostics.clear

/-- Takes note of a passage, at the end of the report and of the diagnostics. -/
def addPassage (g : Generator) (p : Passage) : Generator where
  report := { g.report with entities := g.report.entities ++ [p.output.report] }
  diagnostics := collectPassage g.diagnostics p

/-- Takes note of the free functions, which belong to no entity. -/
def addFunctions (g : Generator) (functions : List Handled) : Generator where
  report := { g.report with functions := g.report.functions ++ reports functions }
  diagnostics := g.diagnostics.leave.addAll (Output.diagnostics functions)

/-- What a run hands over: the file and the events. -/
structure Delivery where
  code : String
  events : List Event

/-- Runs once more: forgets the run before, and takes note of each passage as it is written. -/
def run (g : Generator) (config : Config) (store : Store) :
    Except UnknownEntity Delivery × Generator :=
  let g := g.reset
  match config.select store with
  | .error e => (.error e, g)
  | .ok selected =>
    let passages := passagesOf store selected
    let functions := config.functions store
    let g := (passages.foldl addPassage g).addFunctions functions
    (.ok ⟨config.file passages functions, runEvents passages functions g.report.totals⟩, g)

/-- Passages are noted in order, so a run comes to the lists that `generate` gives at once. -/
theorem foldl_addPassage (g : Generator) (passages : List Passage) :
    passages.foldl addPassage g =
      ⟨{ g.report with entities := g.report.entities ++ passages.map (·.output.report) },
        passages.foldl collectPassage g.diagnostics⟩ := by
  induction passages generalizing g with
  | nil => simp
  | cons p passages ih => simp [ih, addPassage]

end Generator

end FrameworkBindings.Output
