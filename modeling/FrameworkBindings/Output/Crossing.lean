import FrameworkBindings.Bridge
import FrameworkBindings.Journal
import FrameworkBindings.Report.Diagnostic
import FrameworkBindings.Report.Outcome

/-!
# Crossing the bridge

How the arguments and the result of a function get across, and what is said of it in the reports.

## Groups

* `Direction` — whether Go calls into the runtime or the runtime calls into Go.
* `Crossing` — the parameters with their Go types and the expressions that are passed on, and the
  result; `Prototype.cross` finds it, or refuses because of an argument.
* `Verdict` — what became of a member, from which its report, its diagnostic and its event in the
  journal follow; `Result.verdict` judges a result.

**Which casts are needed.**  An argument needs a cast to the native side in either direction, so the
two agree on which arguments get across; on the way in it is handed through as it is if it has no
cast back.  A result needs the cast that its direction uses.

**Arguments and results.**  Without an argument a message cannot be sent, so the first that does not
get across refuses the member, and the reason names it.  A result can be left out, so it only makes
a remark.

**Verdicts.**  Everything that is said of a member follows from its verdict, so the report, the
diagnostics and the journal of a run are three views of the same list and cannot disagree.
-/

namespace FrameworkBindings.Output

/-- Which way a call goes, and with it which cast is used for what. -/
inductive Direction where
  /-- Go calls into the runtime: arguments go native, the result comes back. -/
  | call
  /-- The runtime calls into Go: arguments come in, the result goes native. -/
  | callback
deriving DecidableEq

/-- Why a member is left out, or what is remarked on it. -/
structure Refusal where
  category : Category
  reason : String

/-- An argument on its way: a name, a type on the Go side, and what the other side gets. -/
structure Argument where
  name : String
  goType : String
  /-- The expression that is passed on. -/
  passed : String

/-- A result on its way, by what is known of its type. -/
inductive Result where
  | void
  | typed (goType : String) (type : NativeType)
  /-- The type has a Go name, but nothing carries its values. -/
  | untyped (goType : String)
  /-- The type has no Go name; the text is as much of it as there is. -/
  | unspelled (text : String)

/-- A function on its way: what is known of its arguments and of its result once all arguments get
across. -/
structure Crossing where
  arguments : List Argument
  result : Result

/-- The name of a parameter: that of its declaration, but not `o`, which is the receiver; or one by
its place. -/
def argumentName (name : String) (place : Nat) : String :=
  if name = "" then "arg" ++ toString place
  else
    let name := Identifier.unexported name
    if name = "o" then name ++ "_" else name

/-- How an argument gets across: its type needs a complete name and a cast to the native side. -/
def crossArgument (store : Store) (direction : Direction) (place : Nat) (p : Param NativeType) :
    Except Refusal Argument :=
  let name := argumentName p.name place
  let spelling := p.type.spelling store
  if spelling.complete then
    match p.type.toNative store name with
    | some native =>
      .ok {
        name, goType := spelling.text
        passed :=
          match direction with
          | .call => native
          -- what cannot be converted is handed through as it is
          | .callback => (p.type.toHost store name).getD name }
    | none =>
      .error ⟨.missingCast,
        "argument " ++ name ++ " of type " ++ spelling.text ++ " has no bridge cast"⟩
  else
    .error ⟨.unrepresentableType, "argument " ++ name ++ " has no Go spelling: " ++ spelling.text⟩

/-- How arguments get across, counted from `place`; the first that does not is the reason. -/
def crossArguments (store : Store) (direction : Direction) (place : Nat) :
    List (Param NativeType) → Except Refusal (List Argument)
  | [] => .ok []
  | p :: params =>
    match crossArgument store direction place p with
    | .error refusal => .error refusal
    | .ok argument =>
      (crossArguments store direction (place + 1) params).map (argument :: ·)

/-- Whether a result of the type gets across, in the one direction that is asked for. -/
def resultCrosses (store : Store) (direction : Direction) (type : NativeType) : Bool :=
  match direction with
  | .call => (type.toHost store "v").isSome
  | .callback => (type.toNative store "v").isSome

/-- How a result gets across: typed, or without a type that Go could use, for whichever reason. -/
def crossResult (store : Store) (direction : Direction) : Option NativeType → Result
  | none => .void
  | some type =>
    let spelling := type.spelling store
    if spelling.complete then
      if resultCrosses store direction type then .typed spelling.text type
      else .untyped spelling.text
    else .unspelled spelling.text

end FrameworkBindings.Output

namespace FrameworkBindings

/-- How a function gets across the bridge: all of its arguments, then its result. -/
def Prototype.cross (prototype : Prototype) (store : Store) (direction : Output.Direction) :
    Except Output.Refusal Output.Crossing :=
  (Output.crossArguments store direction 0 prototype.params).map fun arguments =>
    { arguments, result := Output.crossResult store direction prototype.result }

end FrameworkBindings

namespace FrameworkBindings.Output

/-- The parameters as Go declares them, each with its name and its type. -/
def Crossing.parameters (crossing : Crossing) : String :=
  ", ".intercalate (crossing.arguments.map fun a => a.name ++ " " ++ a.goType)

/-! ## Verdicts -/

/-- What became of a member, and why, if it was not just written. -/
inductive Verdict where
  | written
  | remarked (refusal : Refusal)
  | refused (refusal : Refusal)

namespace Verdict

/-- The outcome in the report, with the reason in words. -/
def outcome : Verdict → Outcome
  | written => .emitted
  | remarked refusal => .advisory refusal.reason
  | refused refusal => .skipped refusal.reason

/-- The diagnostic on a member; there is none on one that was just written. -/
def diagnostic? (name : String) : Verdict → Option Diagnostic
  | written => none
  | remarked refusal | refused refusal =>
    some { category := refusal.category, message := refusal.reason, member := some name }

/-- The event in the journal; `sort` says what is left out.  There is none on what was just
written. -/
def event? (sort name : String) : Verdict → Option Event
  | written => none
  | remarked refusal => some ⟨.trace, "advisory for " ++ Text.quoted name ++ ": " ++ refusal.reason⟩
  | refused refusal =>
    some ⟨.trace, "skipping " ++ sort ++ Text.quoted name ++ ": " ++ refusal.reason⟩

end Verdict

/-- What is said of a member that is written with such a result. -/
def Result.verdict : Result → Verdict
  | .void | .typed _ _ => .written
  | .untyped goType =>
    .remarked ⟨.missingCast, "return type " ++ goType ++ " has no bridge cast"⟩
  | .unspelled text =>
    .remarked ⟨.unrepresentableType, "return type " ++ text ++ " has no Go spelling"⟩

/-- A member with what became of it and its text in the output; the text of one that was refused is
empty. -/
structure Handled where
  name : String
  verdict : Verdict
  text : String

namespace Handled

/-- The member in the report, which says of it the outcome and not the text. -/
def report (h : Handled) : MemberReport := ⟨h.name, h.verdict.outcome⟩

/-- A member that is left out: it has no text, and the reason is kept for the report. -/
def refuse (name : String) (refusal : Refusal) : Handled := ⟨name, .refused refusal, ""⟩

end Handled

/-- The reports of members, in their order and one for each. -/
def reports (members : List Handled) : List MemberReport :=
  members.map Handled.report

/-- The diagnostics on members, in their order. -/
def diagnostics (members : List Handled) : List Diagnostic :=
  members.filterMap fun h => h.verdict.diagnostic? h.name

/-- The events in the journal about members. -/
def events (sort : String) (members : List Handled) : List Event :=
  members.filterMap fun h => h.verdict.event? sort h.name

/-- Text made of lines, each of which is ended. -/
def unlines (lines : List String) : String :=
  String.join (lines.map (· ++ "\n"))

/-- The comment over a declaration: its name and its place. -/
def comment (head : Declaration) : String :=
  match head.location with
  | some place => "// " ++ head.name ++ " (" ++ place.text ++ ")"
  | none => "// " ++ head.name

/-- What was written for an entity, with what the reports say of it. -/
structure EntityOutput where
  text : String
  report : EntityReport
  diagnostics : List Diagnostic := []
  events : List Event := []

/-- The output for an entity that has no name and so nothing to be called by: no text, and a report
that says so under its reference id. -/
def EntityOutput.nameless (entity : Entity) : EntityOutput where
  text := ""
  report := {
    name := entity.refid, kind := entity.kind.word
    skipped := some "referenced but never defined" }

/-- The output for an entity from its text and its members, whose reports and diagnostics keep their
order. -/
def EntityOutput.ofMembers (entity : Entity) (text : String) (members : List Handled) :
    EntityOutput where
  text
  report := { name := entity.name, kind := entity.kind.word, members := reports members }
  diagnostics := Output.diagnostics members
  events := Output.events "" members

end FrameworkBindings.Output
