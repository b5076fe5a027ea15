import FrameworkBindings.Document.Decode
import FrameworkBindings.Loading.Loader

/-!
# Indexes

Where entries and their compounds come from.

* `MemoryIndex` — an index whose compounds are at hand; of two compounds with one reference id the
  later counts.
* `openIndex`, `readCompound` — an index in a directory: `index.json` lists the entries, and each
  compound has a file of its own that is read when its turn comes.

A loader does not know which of the two it is given: it asks for the compound of an entry when it
gets to that entry (`Loader.loadIndex`), and the answer may be an error.  So a damaged file is only
noticed when its turn comes, and all entries before it are loaded by then.
-/

namespace FrameworkBindings.Document

/-- An index in memory, entries and compounds apart, as in a directory. -/
structure MemoryIndex where
  entries : List IndexEntry := []
  /-- The compounds by reference id, the latest first. -/
  compounds : List (String × Compound) := []

namespace MemoryIndex

/-- Adds an entry at the end.  Its compound hides an earlier one of the same reference id, also for
the entry that this came with. -/
def push (index : MemoryIndex) (entry : IndexEntry) (compound : Compound) : MemoryIndex where
  entries := index.entries ++ [entry]
  compounds := (entry.refid, compound) :: index.compounds

/-- The index of a list of entries with their compounds, in the order of the list. -/
def ofList (entries : List (IndexEntry × Compound)) : MemoryIndex :=
  entries.foldl (fun index entry => index.push entry.1 entry.2) {}

/-- The compound of an entry; an error if there is none of its reference id. -/
def decode (index : MemoryIndex) (entry : IndexEntry) : Except LoadError Compound :=
  match index.compounds.lookup entry.refid with
  | some compound => .ok compound
  | none => .error (.unknownCompound entry.refid)

end MemoryIndex

/-- The file of an index directory that lists the entries. -/
def indexFile : String := "index.json"

variable {m : Type → Type} [Monad m]

/-- Reads and decodes a file of an index directory; both steps can fail, for reasons of their
own. -/
def readDecoded {α : Type} (files : Files m) (path : String) (decode : String → Option α) :
    m (Except LoadError α) := do
  match ← files.read path with
  | .error e => return .error (.unreadable path e)
  | .ok text =>
    match decode text with
    | some value => return .ok value
    | none => return .error (.undecodable path)

/-- The entries of the index in a directory. -/
def openIndex (files : Files m) (directory : String) : m (Except LoadError (List IndexEntry)) :=
  readDecoded files (joinPath directory indexFile) indexOfText?

/-- The compound of an entry of the index in a directory, from the file that is called after the
reference id. -/
def readCompound (files : Files m) (directory : String) (entry : IndexEntry) :
    m (Except LoadError Compound) :=
  readDecoded files (joinPath directory (entry.refid ++ ".json")) Compound.ofText?

end FrameworkBindings.Document

namespace FrameworkBindings.Loader

/-- Loads an index in memory, with the documents that are kept beside its entries. -/
def loadMemory (l : Loader) (index : Document.MemoryIndex) : Except LoadError Unit × Loader :=
  Id.run (l.loadIndex (fun entry => pure (index.decode entry)) index.entries)

end FrameworkBindings.Loader
