import FrameworkBindings.Document.Index
import FrameworkBindings.Json.Writer
import FrameworkBindings.Report.Table
import FrameworkBindings.Settings.Basic

/-!
# Runs

A run loads all indexes into one store, gives the waiting methods to their receivers, and only then
writes the output from the completed store.

## Groups

* `RunError` — why a run fails, with its causes in words.
* `loadIndexes`, `Settings.run` — loading, and loading with writing.
* `writeOutput` — the code into its file.
* `Run.reportText`, `Run.reportJson` — what a run reports.

**One store for all indexes.**  Frameworks refer to one another, so an entity may be mentioned in
one index and defined in another, and a receiver may be in a later index than its method.  For this
reason the second pass comes after the last index, and what is still awaited then is noted once.

**Failures.**  The first failure ends a run, and what the journal holds up to there is handed over
with it.  An error is told by its chain of causes, from what was attempted to what the machine said;
there are two ways of telling it, which differ in whether a cause is repeated that the text above it
has given already (`message`, `fullMessage`).
-/

namespace FrameworkBindings

/-- Why a run fails: one case for each stage, with the error of that stage and what it was working
on. -/
inductive RunError where
  | settings (error : SettingsError)
  | opening (directory : String) (error : LoadError)
  | loading (directory : String) (error : LoadError)
  | generating (error : Output.UnknownEntity)
  | writing (path : String) (error : FileError)
deriving DecidableEq

namespace RunError

/-- What the failure comes down to: the texts of its causes, outermost first, up to the first that
says all. -/
def causes : RunError → List String
  | settings error => error.causes
  | opening directory error =>
    ["Failed to open documentation index: " ++ directory, error.message]
  | loading directory error =>
    ["Failed to load documentation index: " ++ directory, error.message]
  | generating error => ["Failed to generate Go code", error.message]
  | writing path error => ["Failed to write output: " ++ path, error.message]

/-- The cause under an error of loading that has one of its own, namely that of the machine. -/
def rootCause : RunError → List String
  | opening _ (.unreadable _ error) | loading _ (.unreadable _ error) => [error.message]
  | _ => []

/-- The failure in words, the causes separated by colons. -/
def message (e : RunError) : String :=
  ": ".intercalate e.causes

/-- The failure in words with every cause, even one whose words have been said. -/
def fullMessage (e : RunError) : String :=
  ": ".intercalate (e.causes ++ e.rootCause)

end RunError

/-- What a run has made: the code, and three accounts of how it came about. -/
structure Run where
  code : String
  stats : LoadStats
  report : RunReport
  diagnostics : Collector

variable {m : Type → Type} [Monad m]

/-! ## Loading and writing -/

/-- Loads the index in a directory: finds its entries, then loads them in order.  The loader is what
it has become in either case. -/
def loadDirectory (files : Files m) (l : Loader) (directory : String) :
    m (Except RunError Unit × Loader) := do
  let l := l.note .info ("loading documentation index " ++ directory)
  match ← Document.openIndex files directory with
  | .error e => return (.error (.opening directory e), l)
  | .ok entries =>
    let l := l.note .debug
      ("opened index " ++ directory ++ " with " ++ toString entries.length ++ " compounds")
    match ← l.loadIndex (Document.readCompound files directory) entries with
    | (.error e, l) => return (.error (.loading directory e), l)
    | (.ok (), l) => return (.ok (), l)

/-- Loads the indexes in directories, in order, until one of them fails. -/
def loadDirectories (files : Files m) (l : Loader) :
    List String → m (Except RunError Unit × Loader)
  | [] => return (.ok (), l)
  | directory :: rest => do
    match ← loadDirectory files l directory with
    | (.error e, l) => return (.error e, l)
    | (.ok (), l) => loadDirectories files l rest

/-- Notes what was referred to and never defined; that is worth a warning and no failure. -/
def noteUnresolved (l : Loader) : Loader :=
  let unresolved := l.store.unresolved
  if unresolved.isEmpty then l
  else
    (l.note .warn (toString unresolved.length ++ " referenced entities were never defined")).note
      .debug ("unresolved references: " ++ quotedList unresolved)

/-- Loads all indexes, then gives the waiting methods to their receivers, which all are there by
then. -/
def loadIndexes (files : Files m) (directories : List String) :
    m (Except RunError Unit × Loader) := do
  match ← loadDirectories files {} directories with
  | (.error e, l) => return (.error e, l)
  | (.ok (), l) => return (.ok (), noteUnresolved l.finish)

/-- Loads what the settings name and generates the code, in the monad of the files. -/
def Settings.run (settings : Settings) (files : Files m) : m (Except RunError Run × Journal) := do
  match ← loadIndexes files settings.indexes with
  | (.error e, l) => return (.error e, l.journal)
  | (.ok (), l) =>
    match Output.generate settings.config l.store with
    | .error e => return (.error (.generating e), l.journal)
    | .ok generated =>
      return (
        .ok {
          code := generated.code, stats := l.stats, report := generated.report
          diagnostics := generated.diagnostics },
        l.journal ++ generated.events.toArray)

/-- Writes the code to a file, and has an event to tell if that went well. -/
def writeOutput (files : Files m) (code path : String) : m (Except RunError Event) := do
  match ← files.write path code with
  | .error e => return .error (.writing path e)
  | .ok () => return .ok ⟨.info, "Generated Go code written to " ++ path⟩

/-! ## Reports -/

namespace Run

/-- The table and, if there are any, the diagnostics by category below it. -/
def reportText (run : Run) : String :=
  run.report.table
    ++ if run.diagnostics.isEmpty then "" else "\n" ++ run.diagnostics.summary

/-- The counters and the outcomes in JSON, for programs that read the report. -/
def reportJson (run : Run) : String :=
  Json.writePretty (.record [
    ("load", .record (run.stats.counters.map fun c => (c.1, .integer c.2))),
    ("summary", run.report.encode)])

end Run

end FrameworkBindings
