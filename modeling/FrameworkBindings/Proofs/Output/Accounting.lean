import FrameworkBindings.Proofs.Output.Remarks
import FrameworkBindings.Proofs.Report.Columns

/-!
# The books of a run

A run reports on entities and members while it writes them, in five places, and two functions count
what was reported: the totals and the table.  The books are closed: all that was selected was
reported on once, and all ways to count agree.

* `isLeftOut`, `accountable` — whether an entity is left out as a whole, and how many members a run
  has to account for otherwise.
* `closed_run` — the reports of a run are such that the columns of their table add up.
* **`run_accounted`** — the books of a run, whatever the generator has done before.

**What is to be accounted for.**  This is said of the entities and not of the reports: the
properties that can be written and the methods of classes and structs, the methods of protocols, and
the free functions.  A property that is only read has no setter and is in no book.

**Three ways to count.**  The reports of members are lists, the totals are numbers in the report,
and the table is text, from which numbers are read again (`rowCounts?`).  The theorem compares all
three, so a column that is printed wrong would show.

**Entities that are left out.**  Their rows say why and have no numbers, and their members are not
accounted for; the totals count them apart.
-/

namespace FrameworkBindings.Output

/-- The entity is left out as a whole: it is a union, or it has no name. -/
def isLeftOut (entity : Entity) : Bool := entity.kind = .union ∨ entity.name = ""

/-- The properties that can be written and the methods of a class or struct, and the methods of a
protocol. -/
def memberCount : Entity → Nat
  | .record d => d.properties.countP (·.writable) + d.methods.length
  | .protocol d => d.methods.length
  | .union _ => 0

/-- How many members of an entity there are to account for; none, if it is left out as a whole. -/
def accountable (entity : Entity) : Nat := if isLeftOut entity then 0 else memberCount entity

variable {store : Store} {config : Config}

/-! ## Entities -/

/-- The members that are reported on are just as many. -/
lemma length_reportedMembers (entity : Entity) :
    (reportedMembers entity).length = memberCount entity := by
  cases entity with
  | record d =>
      rw [reportedMembers, List.length_append, List.length_map, List.length_map,
        ← List.countP_eq_length_filter, memberCount]
  | protocol d => exact List.length_map _
  | union d => rfl

/-- The members of an entity are reported on, each once. -/
lemma length_members_emit (store : Store) (entity : Entity) :
    (emit store entity).report.members.length = accountable entity := by
  rcases emit_cases store entity with ⟨d, rfl⟩ | ⟨hkind, hname, hemit⟩ | ⟨hkind, hname, text, hemit⟩
  · rfl
  · have hleft : isLeftOut entity = true := decide_eq_true (.inr hname)
    rw [hemit, accountable, hleft]
    rfl
  · have hleft : isLeftOut entity = false := decide_eq_false fun h => h.elim hkind hname
    rw [hemit, accountable, hleft, if_neg Bool.false_ne_true, ← length_reportedMembers]
    exact (List.length_map _).trans (List.length_map _)

/-- The report on an entity says that it was skipped just if it is left out. -/
lemma isSome_skipped_emit (store : Store) (entity : Entity) :
    (emit store entity).report.skipped.isSome = isLeftOut entity := by
  rw [Bool.eq_iff_iff, (introduces_emit store entity).skipped]
  exact decide_eq_true_iff.symm

/-- The row of an entity that was left out has no numbers. -/
lemma rowCounts?_emit {entity : Entity} (h : (emit store entity).report.skipped.isSome = true)
    (width : Nat) : rowCounts? ((emit store entity).report.row width) = none := by
  rcases emit_cases store entity with ⟨d, rfl⟩ | ⟨hkind, hname, hemit⟩ | ⟨hkind, hname, text, hemit⟩
  · have hreason : Text.words (" skipped: " ++ noLayout ++ "\n").toList =
        ["skipped:", "union", "has"].map String.toList
          ++ ["no".toList, "Go".toList, "layout".toList] := by decide +kernel
    exact rowCounts?_of_skipped rfl hreason (by decide +kernel) width
  · rw [hemit]
    have hreason : Text.words (" skipped: " ++ "referenced but never defined" ++ "\n").toList =
        ["skipped:", "referenced"].map String.toList
          ++ ["but".toList, "never".toList, "defined".toList] := by decide +kernel
    exact rowCounts?_of_skipped rfl hreason (by decide +kernel) width
  · rw [hemit] at h
    cases h

/-! ## Free functions -/

/-- Every free function is reported on, whatever becomes of it. -/
lemma length_stubsFrom (taken : List String) (functions : List Routine) :
    (stubsFrom store taken functions).length = functions.length := by
  induction functions generalizing taken with
  | nil => rfl
  | cons f functions ih => rw [stubsFrom, List.length_cons, ih, List.length_cons]

/-- A stub is written or left out, as its result is part of its signature. -/
lemma isAdvisory_stub (taken : List String) (f : Routine) :
    (stub store taken f).report.outcome.isAdvisory = false := by
  unfold stub
  dsimp only
  split
  · rfl
  · split <;> rfl

lemma advisory_stubsFrom (taken : List String) (functions : List Routine) :
    countOutcomes Outcome.isAdvisory (reports (stubsFrom store taken functions)) = 0 := by
  induction functions generalizing taken with
  | nil => rfl
  | cons f functions ih =>
      rw [stubsFrom, reports, List.map_cons, countOutcomes, List.countP_cons_of_neg]
      · exact ih _
      · rw [isAdvisory_stub]
        exact Bool.false_ne_true

/-- A run writes all free functions, unless it was asked for certain entities. -/
lemma length_functions (config : Config) (store : Store) :
    (config.functions store).length =
      if config.classes = [] then store.functions.length else 0 := by
  rw [Config.functions]
  cases hclasses : config.classes with
  | nil =>
      rw [List.isEmpty_nil, if_pos rfl, if_pos rfl, stubs, length_stubsFrom, sortedFunctions,
        List.length_mergeSort]
  | cons name names => rfl

lemma advisory_functions (config : Config) (store : Store) :
    countOutcomes Outcome.isAdvisory (reports (config.functions store)) = 0 := by
  rw [Config.functions]
  split
  · exact advisory_stubsFrom _ _
  · rfl

/-! ## Runs -/

/-- The reports of a run are such that the columns of their table add up. -/
lemma closed_run (config : Config) (store : Store) (selected : List (EntityId × Entity)) :
    (runReport (passagesOf store selected) (config.functions store)).Closed where
  members e he hskipped := by
    rw [runReport, reports_passagesOf] at he
    obtain ⟨found, -, rfl⟩ := List.mem_map.1 he
    exact (introduces_emit store found.2).members hskipped
  unread e he hskipped width := by
    rw [runReport, reports_passagesOf] at he
    obtain ⟨found, -, rfl⟩ := List.mem_map.1 he
    exact rowCounts?_emit hskipped width
  functions := advisory_functions config store

/-- Every member that is reported on is counted once in the totals, those of entities and free
functions together. -/
lemma totals_add (r : RunReport) :
    r.totals.emitted + r.totals.advisory + r.totals.skipped =
      (r.entities.map fun e => e.members.length).sum + r.functions.length := by
  have hentities : ∀ entities : List EntityReport,
      (entities.map EntityReport.emitted).sum + (entities.map EntityReport.advisory).sum
        + (entities.map EntityReport.skippedMembers).sum =
      (entities.map fun e => e.members.length).sum := by
    intro entities
    induction entities with
    | nil => rfl
    | cons e entities ih =>
        have hmembers : e.emitted + e.advisory + e.skippedMembers = e.members.length :=
          countOutcomes_add e.members
        simp only [List.map_cons, List.sum_cons]
        omega
  have hfunctions := countOutcomes_add r.functions
  have hall := hentities r.entities
  simp only [RunReport.totals, RunReport.overEntities_eq]
  omega

namespace Generator

/-- **The books of a run are closed.**  After a run that succeeds, whatever the generator has done
before, there is one report for each selected entity.  Left out as a whole are the selected unions
and the selected classes, structs and protocols without a name.  What was written, written with a
remark and left out are together the properties that can be written and the methods of the selected
classes and structs that have names, the methods of the selected protocols that have names, and, if
nothing was asked for in particular, the free functions.  The table consists of a heading, a row for
each entity, one for the free functions if there are any, and the row of the totals, and the numbers
that can be read in each column add up to that in the last row. -/
theorem run_accounted (g : Generator) (config : Config) (store : Store) {delivery : Delivery}
    (h : (g.run config store).1 = .ok delivery) :
    let report := (g.run config store).2.report
    let totals := report.totals
    let numbers := report.rows.filterMap rowCounts?
    ∃ selected, config.select store = .ok selected ∧
      (report.entities.length = selected.length ∧ totals.entities = selected.length) ∧
      totals.skippedEntities =
        selected.countP (fun found => isLeftOut found.2) ∧
      totals.emitted + totals.advisory + totals.skipped =
        (selected.map fun found => accountable found.2).sum
          + (if config.classes = [] then store.functions.length else 0) ∧
      report.table = report.heading ++ String.join report.rows ++ report.lastRow ∧
      rowCounts? report.lastRow = some ⟨totals.emitted, totals.advisory, totals.skipped⟩ ∧
      (numbers.map Counts.emitted).sum = totals.emitted ∧
      (numbers.map Counts.advisory).sum = totals.advisory ∧
      (numbers.map Counts.skipped).sum = totals.skipped := by
  cases hselect : config.select store with
  | error e =>
      rw [g.run_of_error hselect] at h
      contradiction
  | ok selected =>
      rw [g.run_of_select hselect]
      intro report totals numbers
      have hentities : report.entities = selected.map fun found => (emit store found.2).report :=
        reports_passagesOf store selected
      have hlength : report.entities.length = selected.length := by
        rw [hentities, List.length_map]
      refine ⟨selected, rfl, ⟨hlength, hlength⟩, ?_, ?_, report.table_eq,
        RunReport.columns_add_up (closed_run config store selected)⟩
      · calc totals.skippedEntities
            = report.entities.countP (·.skipped.isSome) := rfl
          _ = selected.countP fun found => isLeftOut found.2 := by
            rw [hentities, List.countP_map]
            refine List.countP_congr fun found _ => ?_
            rw [Function.comp_apply, isSome_skipped_emit]
      · have hmembers : (report.entities.map fun e => e.members.length) =
            selected.map fun found => accountable found.2 := by
          rw [hentities, List.map_map]
          exact List.map_congr_left fun found _ => length_members_emit store found.2
        rw [totals_add, hmembers, ← length_functions]
        exact congrArg _ (List.length_map _)

/-- A protocol without a name, a union, a class with two properties of which one can be written and
a method, and two free functions of one Go name. -/
def assorted : Store where
  slots := #[
    .defined (.protocol { head := { refid := "p", name := "" } }),
    .defined (.union { head := { refid := "u", name := "NSBits" } }),
    .defined (.record {
      head := { refid := "v", name := "NSView" }, isClass := true
      properties := [
        { name := "tag", type := .primitive "int", readable := true, writable := true },
        { name := "hidden", type := .primitive "BOOL", readable := true, writable := false }]
      methods := [
        { head := { refid := "v3", name := "draw:" }
          prototype := { result := none, params := [⟨"block", .function none []⟩] } }] })]
  order := [⟨0⟩, ⟨1⟩, ⟨2⟩]
  functions := [
    { head := { refid := "f1", name := "NSBeep" }, prototype := { result := none, params := [] } },
    { head := { refid := "f2", name := "nSBeep" }, prototype := { result := none, params := [] } }]

/-- Two entities are left out, and four members are accounted for, after a generator that has run
before: a setter, a method and two functions. -/
theorem run_accounted_assorted :
    let last : Generator := { report := ⟨[], [⟨"NSBeep", .emitted⟩]⟩ }
    let report := (last.run {} assorted).2.report
    (∃ delivery, (last.run {} assorted).1 = .ok delivery) ∧
      report.entities.length = 3 ∧ report.totals.skippedEntities = 2 ∧
      report.totals.emitted + report.totals.advisory + report.totals.skipped = 4 ∧
      ((report.rows.filterMap rowCounts?).map Counts.emitted).sum = report.totals.emitted := by
  intro last report
  have hsorted : assorted.sorted = assorted.definitions :=
    List.mergeSort_of_pairwise (by decide +kernel)
  have hselect : Config.select {} assorted = .ok assorted.definitions := congrArg Except.ok hsorted
  have hok := congrArg Prod.fst (last.run_of_select hselect)
  obtain ⟨selected, hselected, ⟨hlength, -⟩, hskipped, hmembers, -, -, hcolumn, -⟩ :=
    last.run_accounted {} assorted hok
  obtain rfl : assorted.definitions = selected := Except.ok.inj (hselect.symm.trans hselected)
  exact ⟨⟨_, hok⟩, hlength.trans (by decide +kernel), hskipped.trans (by decide +kernel),
    hmembers.trans (by decide +kernel), hcolumn⟩

end Generator

end FrameworkBindings.Output
