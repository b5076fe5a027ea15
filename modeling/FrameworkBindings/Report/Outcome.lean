import FrameworkBindings.Json.Value

/-!
# Reports of a run

What became of each member, entity and free function.

* `Outcome` — written, written with a remark on its result, or left out.
* `MemberReport`, `EntityReport`, `RunReport` — the outcomes by name, in the order of the output.
* `Totals` — the outcomes counted; `RunReport.totals`.

**Nothing without an outcome.**  A run does its best: what cannot be written is left out, and the
rest of the entity is written all the same.  The report is what makes this acceptable, because it
names each member that was looked at, and each outcome but the plain one comes with its reason.  An
entity may be left out as a whole; its members were not looked at then, and it has no outcomes for
them.

**Counts.**  The three kinds of outcome exclude each other and leave nothing over, so the counts of
a report add up to the members in it.  Totals are sums over entities and free functions, worked out
from the report when they are asked for and kept nowhere.
-/

namespace FrameworkBindings

/-- What became of a member, with the reason if there is anything to explain. -/
inductive Outcome where
  | emitted
  /-- Written, but its result is only a comment. -/
  | advisory (reason : String)
  /-- Left out, and why. -/
  | skipped (reason : String)
deriving DecidableEq

namespace Outcome

/-- The word for an outcome, as reports spell it. -/
def word : Outcome → String
  | emitted => "emitted"
  | advisory _ => "advisory"
  | skipped _ => "skipped"

/-- The reason for an outcome that needs one. -/
def reason? : Outcome → Option String
  | emitted => none
  | advisory reason => some reason
  | skipped reason => some reason

/-- Whether the member is in the output without a remark. -/
def isEmitted : Outcome → Bool
  | emitted => true
  | _ => false

/-- Whether the member is in the output with a remark. -/
def isAdvisory : Outcome → Bool
  | advisory _ => true
  | _ => false

/-- Whether the member was left out, so that the file says nothing of it. -/
def isSkipped : Outcome → Bool
  | skipped _ => true
  | _ => false

/-- Whether the member is in the output at all, with a remark or without. -/
def isWritten (outcome : Outcome) : Bool := !outcome.isSkipped

end Outcome

/-- A member and its outcome, under the name that the documentation gives it. -/
structure MemberReport where
  name : String
  outcome : Outcome
deriving DecidableEq

/-- How many members have an outcome of a sort; all columns of a table are counts of this form. -/
def countOutcomes (sort : Outcome → Bool) (members : List MemberReport) : Nat :=
  members.countP fun m => sort m.outcome

/-- An entity and what became of its members; `skipped` says why the whole entity was left out. -/
structure EntityReport where
  name : String
  kind : String
  skipped : Option String := none
  members : List MemberReport := []
deriving DecidableEq

namespace EntityReport

/-- How many members were written as they should be, without a remark. -/
def emitted (e : EntityReport) : Nat := countOutcomes Outcome.isEmitted e.members

/-- How many members were written with a remark. -/
def advisory (e : EntityReport) : Nat := countOutcomes Outcome.isAdvisory e.members

/-- How many members were left out while their entity was written. -/
def skippedMembers (e : EntityReport) : Nat := countOutcomes Outcome.isSkipped e.members

end EntityReport

/-- The outcomes of a run: entities in the order of the output, then the free functions. -/
structure RunReport where
  entities : List EntityReport := []
  functions : List MemberReport := []
deriving DecidableEq

/-- The outcomes of a run, counted.  Free functions count as members here, but not as entities. -/
structure Totals where
  entities : Nat
  skippedEntities : Nat
  emitted : Nat
  advisory : Nat
  skipped : Nat
deriving DecidableEq

namespace RunReport

/-- The first entity of a name; there may be more, as names are not unique. -/
def entity? (r : RunReport) (name : String) : Option EntityReport :=
  r.entities.find? (·.name == name)

/-- A count of members, added up over the entities. -/
def overEntities (r : RunReport) (count : EntityReport → Nat) : Nat :=
  r.entities.foldr (fun e total => count e + total) 0

/-- The outcomes, counted over entities and free functions. -/
def totals (r : RunReport) : Totals where
  entities := r.entities.length
  skippedEntities := r.entities.countP (·.skipped.isSome)
  emitted := r.overEntities EntityReport.emitted + countOutcomes Outcome.isEmitted r.functions
  advisory := r.overEntities EntityReport.advisory + countOutcomes Outcome.isAdvisory r.functions
  skipped :=
    r.overEntities EntityReport.skippedMembers + countOutcomes Outcome.isSkipped r.functions

end RunReport

/-! ## Reports in JSON -/

open Json

/-- A member report in JSON; there is a reason in it only if there is one. -/
def MemberReport.encode (m : MemberReport) : Value :=
  .record ([("name", .text m.name), ("outcome", .text m.outcome.word)]
    ++ (m.outcome.reason?.map fun reason => ("reason", .text reason)).toList)

/-- An entity report in JSON, with the reason if the whole entity was left out. -/
def EntityReport.encode (e : EntityReport) : Value :=
  .record ([("name", .text e.name), ("kind", .text e.kind)]
    ++ (e.skipped.map fun reason => ("skipped", .text reason)).toList
    ++ [("members", .array (e.members.map MemberReport.encode))])

/-- The report of a run in JSON. -/
def RunReport.encode (r : RunReport) : Value :=
  .record [
    ("entities", .array (r.entities.map EntityReport.encode)),
    ("functions", .array (r.functions.map MemberReport.encode))]

end FrameworkBindings
