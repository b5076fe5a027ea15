import FrameworkBindings.Files.Basic
import FrameworkBindings.Output.Generate
import FrameworkBindings.Settings.Toml

/-!
# Settings

What a run is asked to do: the indexes to load, the file to write and the configuration of the
output.  Settings come from a file and from the caller; what the caller gives counts.

* `FileConfig` — the contents of a settings file; keys that are not known are refused.
* `Overrides` — what the caller gives.
* `Settings.merge`, `Settings.resolve` — both together.  Paths in a settings file are seen from its
  directory.

**Lists are not merged.**  If the caller names any index, those of the file do not count, and the
same goes for classes.  Someone who asks for one index on the command line wants that one; adding
to a list would leave no way to leave an entry out.

**Paths.**  A settings file can be used from anywhere, so its paths are joined to its directory.  A
path of the caller is left as it is, since it is seen from where the caller is.
-/

namespace FrameworkBindings

/-- The contents of a settings file.  All keys are optional, and a list that is not there is
empty. -/
structure FileConfig where
  indexes : List String := []
  package : Option String := none
  classes : List String := []
  output : Option String := none
  runtimeImport : Option String := none
  foundationImport : Option String := none

namespace FileConfig

/-- Takes one more entry; an unknown key or a value of the wrong kind makes the file unusable. -/
def set (config : FileConfig) : String × Toml.Value → Option FileConfig
  | ("indexes", .texts values) => some { config with indexes := values }
  | ("package", .text value) => some { config with package := some value }
  | ("classes", .texts values) => some { config with classes := values }
  | ("output", .text value) => some { config with output := some value }
  | ("runtime_import", .text value) => some { config with runtimeImport := some value }
  | ("foundation_import", .text value) => some { config with foundationImport := some value }
  | _ => none

/-- The contents meant by entries, of which no two have the same key. -/
def ofEntries (entries : List (String × Toml.Value)) : Option FileConfig :=
  if (entries.map (·.1)).Nodup then entries.foldlM set {} else none

/-- The contents of a settings file, from its text.  Why a text is no settings file is not told. -/
def ofText? (text : String) : Option FileConfig :=
  (Toml.read text).bind ofEntries

end FileConfig

/-- What the caller gives, each of it in place of what the file says. -/
structure Overrides where
  indexes : List String := []
  package : Option String := none
  classes : List String := []
  output : Option String := none

/-- What a run is asked to do, with nothing left open but where the code goes. -/
structure Settings where
  indexes : List String
  output : Option String
  config : Output.Config

/-- Why there are no settings: the file, its text, or nothing to load. -/
inductive SettingsError where
  | unreadable (path : String) (error : FileError)
  | unparsable (path : String)
  | noIndexes
deriving DecidableEq

/-- The reason in words, outermost cause first. -/
def SettingsError.causes : SettingsError → List String
  | unreadable path error => ["Failed to read config file: " ++ path, error.message]
  | unparsable path => ["Failed to parse config file: " ++ path]
  | noIndexes => [
      "No documentation index given; pass --index or set `indexes` in the config file"]

namespace Settings

/-- A path in a settings file, as it is seen from outside, that is, from the directory of the
file. -/
def placed (directory : Option String) (path : String) : String :=
  match directory with
  | some directory => joinPath directory path
  | none => path

/-- The items given by the caller, or else those of the file. -/
def preferred (given : List String) (other : List String) : List String :=
  if given.isEmpty then other else given

/-- The contents of a file in `directory` under what the caller gives. -/
def merge (file : FileConfig) (directory : Option String) (given : Overrides) :
    Except SettingsError Settings :=
  let indexes := preferred given.indexes (file.indexes.map (placed directory))
  let default : Output.Config := {}
  if indexes.isEmpty then .error .noIndexes
  else
    .ok {
      indexes
      output := given.output.or (file.output.map (placed directory))
      config := {
        package := (given.package.or file.package).getD default.package
        runtimeImport := file.runtimeImport.getD default.runtimeImport
        foundationImport := file.foundationImport.getD default.foundationImport
        classes := preferred given.classes file.classes } }

/-- The settings from an optional file and from the caller.  Without a file there are the
defaults. -/
def resolve {m : Type → Type} [Monad m] (files : Files m) (path : Option String)
    (given : Overrides) : m (Except SettingsError Settings) :=
  match path with
  | none => return merge {} none given
  | some path => do
    match ← files.read path with
    | .error e => return .error (.unreadable path e)
    | .ok text =>
      match FileConfig.ofText? text with
      | none => return .error (.unparsable path)
      | some file => return merge file (parentPath path) given

end Settings

end FrameworkBindings
