import FrameworkBindings.Run

/-!
# The command line

Two commands share the options that say what to load: `generate` writes the code, `summary` reports
what would be written.

## Groups

* Options: `OptionSpec` says what an option is called and takes; `scan` cuts arguments into
  occurrences of options.  Values may stand apart, behind `=`, or right behind a short name.
* Requests: `Request`, and `parse` from arguments; `UsageError` if they make no sense.
* `execute`, `runArguments` — carry a request out; `Finished` is what the caller sees of it.

**Options as data.**  The two commands differ in their tables of options and not in how these are
read, so there is one scanner, which is given a table.  Reading goes in steps: cut the arguments
into occurrences, check that nothing is given too often, and look up what was given by name.  Only
the last step knows what an option means.

**Streams.**  Code goes to the standard output and to nothing else, so that it can be piped on;
complaints and reports go beside it.  The report of `summary` is what was asked for, and goes to the
standard output as well.
-/

namespace FrameworkBindings.CommandLine

/-! ## Options -/

/-- What an option takes, and how often it may be given. -/
inductive Arity where
  | flag
  /-- A value, which may be empty only if it is no path; `repeatable` if it may be given again. -/
  | value (isPath repeatable : Bool)
deriving DecidableEq

/-- An option: its long name, its short name if it has one, and what it takes. -/
structure OptionSpec where
  long : String
  short : Option Char
  arity : Arity

/-- Why arguments make no sense, with the option or the argument in question. -/
inductive UsageError where
  | unknownOption (name : String)
  | missingValue (name : String)
  | emptyValue (name : String)
  | unexpectedValue (name : String)
  | repeated (name : String)
  | unexpectedArgument (argument : String)
  | missingCommand
deriving DecidableEq

/-- The complaint about arguments, as it is shown behind `error: `. -/
def UsageError.message : UsageError → String
  | unknownOption name => "unknown option " ++ Text.quoted name
  | missingValue name => "a value is required for --" ++ name
  | emptyValue name => "a value is required for --" ++ name
  | unexpectedValue name => "unexpected value for --" ++ name
  | repeated name => "--" ++ name ++ " cannot be used multiple times"
  | unexpectedArgument argument => "unexpected argument " ++ Text.quoted argument
  | missingCommand => "a command is required: generate or summary"

/-- An option as it was given, by its long name; a flag has an empty value. -/
structure Occurrence where
  name : String
  value : String

/-- The options of both commands, which may also stand in front of the command. -/
def globalOptions : List OptionSpec :=
  [⟨"verbose", some 'v', .flag⟩, ⟨"debug", some 'd', .flag⟩]

/-- The options that say what to load. -/
def inputOptions : List OptionSpec :=
  [⟨"index", some 'i', .value true true⟩, ⟨"config", none, .value true false⟩]

/-- The options of `generate`, which decide what is read, what is written and where it goes. -/
def generateOptions : List OptionSpec :=
  globalOptions ++ inputOptions ++ [
    ⟨"pkg", some 'p', .value false false⟩,
    ⟨"class", some 'c', .value false true⟩,
    ⟨"output", some 'o', .value true false⟩,
    ⟨"summary", none, .flag⟩]

/-- The options of `summary`, which writes no file and takes none of those of the output. -/
def summaryOptions : List OptionSpec :=
  globalOptions ++ inputOptions ++ [⟨"json", none, .flag⟩]

/-- A value for an option; an empty one is refused where a path is wanted. -/
def OptionSpec.accept (spec : OptionSpec) (isPath : Bool) (value : String) :
    Except UsageError Occurrence :=
  if isPath && value.isEmpty then .error (.emptyValue spec.long) else .ok ⟨spec.long, value⟩

/-- Whether an argument is an option and no value.  A hyphen alone is a value. -/
def looksLikeOption (argument : String) : Bool :=
  match argument.toList with
  | '-' :: _ :: _ => true
  | _ => false

/-- What an option needs after what has been given with it. -/
inductive Need where
  | nothing (occurrences : List Occurrence)
  /-- A value from the next argument. -/
  | value (before : List Occurrence) (spec : OptionSpec) (isPath : Bool)

/-- Reads an option by its long name, with the value behind `=` if there is one.  A flag takes none,
and an option without one wants the next argument. -/
def readLong (specs : List OptionSpec) (name : String) (attached : Option String) :
    Except UsageError Need :=
  match specs.find? (·.long == name) with
  | none => .error (.unknownOption name)
  | some spec =>
    match spec.arity, attached with
    | .flag, none => .ok (.nothing [⟨name, ""⟩])
    | .flag, some _ => .error (.unexpectedValue name)
    | .value isPath _, some value => (spec.accept isPath value).map fun o => .nothing [o]
    | .value isPath _, none => .ok (.value [] spec isPath)

/-- Reads options by their short names, of which the last may have a value right behind it. -/
def readShort (specs : List OptionSpec) (before : List Occurrence) :
    List Char → Except UsageError Need
  | [] => .ok (.nothing before)
  | c :: rest =>
    match specs.find? (·.short == some c) with
    | none => .error (.unknownOption (String.singleton c))
    | some spec =>
      match spec.arity, rest with
      | .flag, _ => readShort specs (before ++ [⟨spec.long, ""⟩]) rest
      | .value isPath _, [] => .ok (.value before spec isPath)
      | .value isPath _, '=' :: value =>
        (spec.accept isPath (String.ofList value)).map fun o => .nothing (before ++ [o])
      | .value isPath _, value =>
        (spec.accept isPath (String.ofList value)).map fun o => .nothing (before ++ [o])

/-- Reads an argument that looks like an option. -/
def readOption (specs : List OptionSpec) (argument : String) : Except UsageError Need :=
  match argument.toList with
  | '-' :: '-' :: text =>
    match Text.splitOnce ['='] text with
    | some (name, value) => readLong specs (String.ofList name) (some (String.ofList value))
    | none => readLong specs (String.ofList text) none
  | '-' :: text => readShort specs [] text
  | _ => .error (.unexpectedArgument argument)

/-- Cuts arguments into occurrences of options, up to the first that is none; that one and what
follows is left to the caller. -/
def scan (specs : List OptionSpec) : List String → Except UsageError (List Occurrence × List String)
  | [] => .ok ([], [])
  | "--" :: [] => .ok ([], [])
  | "--" :: argument :: _ => .error (.unexpectedArgument argument)
  | argument :: rest =>
    if looksLikeOption argument then
      match readOption specs argument with
      | .error e => .error e
      | .ok (.nothing found) => (scan specs rest).map fun s => (found ++ s.1, s.2)
      | .ok (.value before spec isPath) =>
        match rest with
        | [] => .error (.missingValue spec.long)
        | value :: rest =>
          if looksLikeOption value then .error (.missingValue spec.long)
          else
            match spec.accept isPath value with
            | .error e => .error e
            | .ok o => (scan specs rest).map fun s => (before ++ [o] ++ s.1, s.2)
    else .ok ([], argument :: rest)

/-- Whether an option may be given more than once. -/
def OptionSpec.isRepeatable (spec : OptionSpec) : Bool :=
  match spec.arity with
  | .value _ true => true
  | _ => false

/-- Checks that no option is given too often. -/
def checkRepetition (specs : List OptionSpec) (given : List Occurrence) : Except UsageError Unit :=
  match specs.find? fun spec => !spec.isRepeatable && 1 < given.countP (·.name == spec.long) with
  | some spec => .error (.repeated spec.long)
  | none => .ok ()

/-- The options at the beginning of arguments, each given as often as it may be. -/
def readOptions (specs : List OptionSpec) (arguments : List String) :
    Except UsageError (List Occurrence × List String) := do
  let (given, rest) ← scan specs arguments
  checkRepetition specs given
  return (given, rest)

/-! ## Requests -/

/-- What to do, and in which form to report. -/
inductive Command where
  | generate (withSummary : Bool)
  | summary (asJson : Bool)

/-- What the caller asks for, before any file has been looked at. -/
structure Request where
  command : Command
  config : Option String
  overrides : Overrides
  /-- The least severe events to show. -/
  level : Level

/-- The values given for an option, in order, before and after the name of the command. -/
def valuesOf (given : List Occurrence) (name : String) : List String :=
  (given.filter (·.name == name)).map (·.value)

/-- The value given for an option; of several the first. -/
def valueOf (given : List Occurrence) (name : String) : Option String :=
  (valuesOf given name).head?

/-- Whether a flag is given. -/
def hasFlag (given : List Occurrence) (name : String) : Bool :=
  given.any (·.name == name)

/-- The events to show with the flags given; the more talkative flag wins. -/
def levelOf (given : List Occurrence) : Level :=
  if hasFlag given "debug" then .trace
  else if hasFlag given "verbose" then .debug
  else .info

/-- The request made by a command with its options. -/
def requestOf (command : Command) (given : List Occurrence) : Request where
  command
  config := valueOf given "config"
  overrides := {
    indexes := valuesOf given "index"
    package := valueOf given "pkg"
    classes := valuesOf given "class"
    output := valueOf given "output" }
  level := levelOf given

/-- Reads the options of a command, after which nothing may follow. -/
def readCommand (specs : List OptionSpec) (arguments : List String) :
    Except UsageError (List Occurrence) := do
  let (given, rest) ← readOptions specs arguments
  match rest with
  | [] => return given
  | argument :: _ => .error (.unexpectedArgument argument)

/-- The request made by arguments.  The global options may stand before the command and behind
it. -/
def parse (arguments : List String) : Except UsageError Request := do
  let (before, rest) ← readOptions globalOptions arguments
  match rest with
  | "generate" :: rest =>
    let given ← readCommand generateOptions rest
    return requestOf (.generate (hasFlag given "summary")) (before ++ given)
  | "summary" :: rest =>
    let given ← readCommand summaryOptions rest
    return requestOf (.summary (hasFlag given "json")) (before ++ given)
  | [] => .error .missingCommand
  | argument :: _ => .error (.unexpectedArgument argument)

/-! ## Carrying out -/

/-- What the caller sees of a request: a status, two streams and the events. -/
structure Finished where
  status : Nat := 0
  stdout : String := ""
  stderr : String := ""
  journal : Journal := #[]

/-- A failed run, told with every cause on the standard error. -/
def Finished.failure (e : RunError) (journal : Journal) : Finished where
  status := 1
  stderr := "error: " ++ e.fullMessage ++ "\n"
  journal

/-- Arguments that make no sense; nothing was attempted. -/
def Finished.misuse (e : UsageError) : Finished where
  status := 2
  stderr := "error: " ++ e.message ++ "\n"

variable {m : Type → Type} [Monad m]

/-- What is told at the end of a run that generates. -/
def closingEvent (run : Run) : Event where
  level := .info
  message :=
    toString run.diagnostics.entries.length ++ " diagnostics; run `objgen summary` for details"

/-- Puts the code where the settings want it, and reports.  Without a file it goes to the standard
output, and reports never do. -/
def deliver (files : Files m) (settings : Settings) (withSummary : Bool) (run : Run)
    (journal : Journal) : m Finished := do
  let stderr := if withSummary then run.reportText else ""
  match settings.output with
  | none => return { stdout := run.code, stderr, journal := journal.push (closingEvent run) }
  | some path =>
    match ← writeOutput files run.code path with
    | .error e => return .failure e journal
    | .ok event => return { stderr, journal := (journal.push event).push (closingEvent run) }

/-- Carries out a request: settings, run, delivery, each only if what comes before it went well. -/
def execute (files : Files m) (request : Request) : m Finished := do
  match ← Settings.resolve files request.config request.overrides with
  | .error e => return .failure (.settings e) #[]
  | .ok settings =>
    match ← settings.run files with
    | (.error e, journal) => return .failure e journal
    | (.ok run, journal) =>
      match request.command with
      | .generate withSummary => deliver files settings withSummary run journal
      | .summary true => return { stdout := run.reportJson ++ "\n", journal }
      | .summary false => return { stdout := run.reportText, journal }

/-- Carries out what arguments ask for, and says with which code the program ends. -/
def runArguments (files : Files m) (arguments : List String) : m Finished :=
  match parse arguments with
  | .error e => return .misuse e
  | .ok request => execute files request

end FrameworkBindings.CommandLine
