import FrameworkBindings.Proofs.Output.BestEffort
import FrameworkBindings.Proofs.Output.Filter

/-!
# What the diagnostics of a run say

The report of a run and its diagnostics are collected side by side, the one entity by entity, the
others one by one in the context of the entity that is being written.  They tell the same story.

**The story.**  A `Remark` is a diagnostic without its category.  `RunReport.remarks` reads the
remarks off a report: one for each union, one for each member that was left out or written without
its result, one for each free function that was left out.

**Reports.**  `Introduces` says how the report on an entity names the entity, and when it leaves the
entity out as a whole.

**Diagnostics.**  Those on an entity are the remarks in its report (`remarks_located`), and only a
union is said to have no layout (`category_emit`).  **`run_retold`** joins these for whole runs,
whatever the generator has done before.

**An equality of lists.**  The remarks of the diagnostics are the remarks of the report, in the same
order and as often.  So nothing is told twice, nothing is missing, and no diagnostic is attributed
to another entity, which a comparison of sets or numbers would not show.

**Entities without a name.**  They are left out as a whole and nothing is said of them in the
diagnostics; the report has them.  Unions are left out and spoken of.
-/

namespace FrameworkBindings

/-! ## The story -/

/-- What a diagnostic says, and of what: the entity, the member and the reason. -/
structure Remark where
  entity : Option String
  member : Option String
  message : String
deriving DecidableEq

/-- A diagnostic without its category, which the report does not have. -/
def Diagnostic.remark (d : Diagnostic) : Remark := ⟨d.entity, d.member, d.message⟩

/-- What there is to say of a member: nothing, if it was written as it should be. -/
def MemberReport.remark? (entity : Option String) (m : MemberReport) : Option Remark :=
  m.outcome.reason?.map fun reason => ⟨entity, some m.name, reason⟩

/-- What there is to say of an entity.  A union is left out as a whole; of all others the members
are spoken of, in order. -/
def EntityReport.remarks (e : EntityReport) : List Remark :=
  if e.kind = EntityKind.union.word then
    e.skipped.toList.map fun reason => ⟨some e.name, none, reason⟩
  else e.members.filterMap (·.remark? (some e.name))

/-- What there is to say of a run: of its entities, then of the free functions, which belong to no
entity. -/
def RunReport.remarks (r : RunReport) : List Remark :=
  r.entities.flatMap EntityReport.remarks ++ r.functions.filterMap (·.remark? none)

namespace Output

/-- The report is on the entity: it has its kind and its name, and the entity is left out as a whole
just if it is a union or has no name. -/
structure Introduces (entity : Entity) (r : EntityReport) : Prop where
  kind : r.kind = entity.kind.word
  name : entity.kind = .union ∨ entity.name ≠ "" → r.name = entity.name
  skipped : r.skipped.isSome = true ↔ entity.kind = .union ∨ entity.name = ""
  members : r.skipped.isSome = true → r.members = []

variable {store : Store}

/-! ## Reports -/

/-- Only unions are called unions, so the word in a report tells them. -/
lemma word_ne_union {kind : EntityKind} (h : kind ≠ .union) :
    kind.word ≠ EntityKind.union.word := by
  cases kind <;> simp_all [EntityKind.word]

lemma introduces_nameless {entity : Entity} (hkind : entity.kind ≠ .union)
    (hname : entity.name = "") : Introduces entity (EntityOutput.nameless entity).report where
  kind := rfl
  name := fun h => absurd hname (h.resolve_left hkind)
  skipped := iff_of_true rfl (.inr hname)
  members := fun _ => rfl

lemma introduces_ofMembers {entity : Entity} {text : String} {members : List Handled}
    (hkind : entity.kind ≠ .union) (hname : entity.name ≠ "") :
    Introduces entity (EntityOutput.ofMembers entity text members).report where
  kind := rfl
  name := fun _ => rfl
  skipped := iff_of_false Bool.false_ne_true fun h => h.elim hkind hname
  members := fun h => absurd h Bool.false_ne_true

/-- Classes and structs are no unions, so they are told by their members. -/
lemma kind_record_ne (d : RecordDef) : (Entity.record d).kind ≠ .union := by
  cases hclass : d.isClass <;> simp [Entity.kind, hclass]

/-- The output for an entity is that of a union, or of an entity without a name, or made of its
members. -/
lemma emit_cases (store : Store) (entity : Entity) :
    (∃ d, entity = .union d) ∨
      (entity.kind ≠ .union ∧ entity.name = "" ∧ emit store entity = .nameless entity) ∨
      (entity.kind ≠ .union ∧ entity.name ≠ "" ∧ ∃ text,
        emit store entity =
          .ofMembers entity text ((reportedMembers entity).map (handledBy store entity))) := by
  by_cases hname : entity.name = ""
  · have hhost : entity.head.hostName = none := Declaration.hostName_eq_none_iff.2 hname
    cases entity with
    | record d =>
        refine .inr (.inl ⟨kind_record_ne d, hname, ?_⟩)
        have hhost : d.head.hostName = none := hhost
        simp only [emit, wrap, hhost]
    | protocol d =>
        refine .inr (.inl ⟨by simp [Entity.kind], hname, ?_⟩)
        have hhost : d.head.hostName = none := hhost
        simp only [emit, bind, hhost]
    | union d => exact .inl ⟨d, rfl⟩
  · obtain ⟨name, hhost⟩ := exists_hostName hname
    cases entity with
    | record d =>
        have hhost : d.head.hostName = some name := hhost
        refine .inr (.inr ⟨kind_record_ne d, hname, (emit store (.record d)).text, ?_⟩)
        simp only [emit, wrap, hhost, classMembers_eq hhost]
        rfl
    | protocol d =>
        have hhost : d.head.hostName = some name := hhost
        refine .inr (.inr ⟨by simp [Entity.kind], hname, (emit store (.protocol d)).text, ?_⟩)
        simp only [emit, bind, hhost, reportedMembers, List.map_map]
        rfl
    | union d => exact .inl ⟨d, rfl⟩

/-- Every report introduces its entity, whatever its kind and its name. -/
lemma introduces_emit (store : Store) (entity : Entity) :
    Introduces entity (emit store entity).report := by
  rcases emit_cases store entity with ⟨d, rfl⟩ | ⟨hkind, hname, hemit⟩ | ⟨hkind, hname, text, hemit⟩
  · exact ⟨rfl, fun _ => rfl, iff_of_true rfl (.inl rfl), fun _ => rfl⟩
  · rw [hemit]
    exact introduces_nameless hkind hname
  · rw [hemit]
    exact introduces_ofMembers hkind hname

/-! ## Diagnostics -/

/-- The diagnostics on members are the remarks in their reports. -/
lemma remarks_members (context : Option String) (members : List Handled) :
    ((diagnostics members).map (·.within context)).map Diagnostic.remark =
      (reports members).filterMap (·.remark? context) := by
  rw [diagnostics, reports, List.map_filterMap, List.map_filterMap, List.filterMap_map]
  refine List.filterMap_congr fun h _ => ?_
  cases hverdict : h.verdict <;>
    simp [Verdict.diagnostic?, Handled.report, MemberReport.remark?, Verdict.outcome,
      Outcome.reason?, Diagnostic.within, Diagnostic.remark, hverdict]

/-- The diagnostics on an entity are the remarks in its report. -/
lemma remarks_emit (store : Store) (entity : Entity) :
    ((emit store entity).diagnostics.map (·.within (some entity.name))).map Diagnostic.remark =
      (emit store entity).report.remarks := by
  rcases emit_cases store entity with ⟨d, rfl⟩ | ⟨hkind, hname, hemit⟩ | ⟨hkind, hname, text, hemit⟩
  · rfl
  · have hword : (EntityOutput.nameless entity).report.kind ≠ EntityKind.union.word :=
      word_ne_union hkind
    rw [hemit, EntityReport.remarks, if_neg hword]
    rfl
  · have hword : entity.kind.word ≠ EntityKind.union.word := word_ne_union hkind
    rw [hemit, EntityReport.remarks, EntityOutput.ofMembers]
    dsimp only
    rw [if_neg hword]
    exact remarks_members (some entity.name) _

/-- The diagnostics on a passage, each in the context of its entity, are the remarks in its
report. -/
lemma remarks_located {p : Passage} (h : p.output = emit store p.entity) :
    p.located.map Diagnostic.remark = p.output.report.remarks := by
  rw [Passage.located, h]
  exact remarks_emit store p.entity

/-! ### Categories -/

/-- What is said of the member is not that it has no layout, which is said of unions. -/
def HasLayout (h : Handled) : Prop :=
  ∀ d ∈ h.verdict.diagnostic? h.name, d.category ≠ .noHostLayout

lemma hasLayout_refuse {name : String} {refusal : Refusal}
    (h : refusal.category ≠ .noHostLayout) : HasLayout (.refuse name refusal) := by
  rintro d ⟨⟩
  exact h

lemma hasLayout_verdict (name text : String) (result : Result) :
    HasLayout ⟨name, result.verdict, text⟩ := by
  intro d hd
  cases result <;> simp [Result.verdict, Verdict.diagnostic?] at hd <;> simp [← hd]

lemma category_crossArgument {direction : Direction} {place : Nat} {p : Param NativeType}
    {refusal : Refusal} (h : crossArgument store direction place p = .error refusal) :
    refusal.category ≠ .noHostLayout := by
  unfold crossArgument at h
  dsimp only at h
  split at h
  · split at h <;> cases h
    simp
  · cases h
    simp

lemma category_crossArguments {direction : Direction} {place : Nat}
    {params : List (Param NativeType)} {refusal : Refusal}
    (h : crossArguments store direction place params = .error refusal) :
    refusal.category ≠ .noHostLayout := by
  induction params generalizing place with
  | nil => simp [crossArguments] at h
  | cons p params ih =>
      rw [crossArguments] at h
      cases hp : crossArgument store direction place p with
      | error first =>
          rw [hp] at h
          cases h
          exact category_crossArgument hp
      | ok argument =>
          rw [hp] at h
          exact ih (map_eq_error_iff.1 h)

lemma category_cross {prototype : Prototype} {direction : Direction} {refusal : Refusal}
    (h : prototype.cross store direction = .error refusal) : refusal.category ≠ .noHostLayout :=
  category_crossArguments (map_eq_error_iff.1 h)

/-- Where nothing is said of layouts, all that is said is said of members. -/
lemma category_of_mem_diagnostics {members : List Handled} {d : Diagnostic}
    (hmembers : ∀ m ∈ members, HasLayout m) (h : d ∈ diagnostics members) :
    d.category = .noHostLayout ↔ d.member = none := by
  obtain ⟨m, hm, hd⟩ := List.mem_filterMap.1 h
  refine iff_of_false (hmembers m hm d hd) ?_
  cases hverdict : m.verdict <;> simp [Verdict.diagnostic?, hverdict] at hd <;> simp [← hd]

lemma hasLayout_setter (name : String) (p : Property) : HasLayout (setter store name p) := by
  unfold setter
  dsimp only
  split
  · split
    · exact fun d hd => by simp [Verdict.diagnostic?] at hd
    · exact hasLayout_refuse (by simp)
  · exact hasLayout_refuse (by simp)

lemma hasLayout_handledBy (entity : Entity) (m : Reported) :
    HasLayout (handledBy store entity m) := by
  cases m with
  | property p => exact hasLayout_setter _ p
  | method f =>
      rw [handledBy]
      cases directionOf entity with
      | call =>
          simp only [method]
          cases hcross : f.prototype.cross store .call with
          | error refusal => exact hasLayout_refuse (category_cross hcross)
          | ok crossing => exact hasLayout_verdict _ _ _
      | callback =>
          simp only [handle, accept]
          split
          · rename_i refusal haccept
            split at haccept
            · cases haccept
              exact hasLayout_refuse (by simp)
            · exact hasLayout_refuse (category_cross (map_eq_error_iff.1 haccept))
          · exact hasLayout_verdict _ _ _

lemma hasLayout_of_mem_stubsFrom {taken : List String} {functions : List Routine} {h : Handled}
    (hh : h ∈ stubsFrom store taken functions) : HasLayout h := by
  induction functions generalizing taken with
  | nil => simp [stubsFrom] at hh
  | cons f functions ih =>
      rcases List.mem_cons.1 hh with rfl | hh
      · unfold stub
        dsimp only
        split
        · exact hasLayout_refuse (by simp)
        · split
          · exact fun d hd => by simp [Verdict.diagnostic?] at hd
          · exact hasLayout_refuse (by simp)
      · exact ih hh

/-- Of all that is said of an entity, only that it is a union is said of no member. -/
lemma category_emit {entity : Entity} {d : Diagnostic} (h : d ∈ (emit store entity).diagnostics) :
    d.category = .noHostLayout ↔ d.member = none := by
  rcases emit_cases store entity with ⟨u, rfl⟩ | ⟨_, _, hemit⟩ | ⟨_, _, text, hemit⟩
  · obtain rfl : d = _ := List.mem_singleton.1 h
    exact iff_of_true rfl rfl
  · simp [hemit, EntityOutput.nameless] at h
  · rw [hemit] at h
    refine category_of_mem_diagnostics (fun m hm => ?_) h
    obtain ⟨reported, _, rfl⟩ := List.mem_map.1 hm
    exact hasLayout_handledBy entity reported

/-! ## Runs -/

lemma mem_functions {config : Config} {h : Handled} (hh : h ∈ config.functions store) :
    HasLayout h := by
  unfold Config.functions at hh
  split at hh
  · exact hasLayout_of_mem_stubsFrom hh
  · simp at hh

/-- The reports of the passages are those on the entities that were selected. -/
lemma reports_passagesOf (store : Store) (selected : List (EntityId × Entity)) :
    (passagesOf store selected).map (·.output.report) =
      selected.map fun found => (emit store found.2).report := by
  rw [passagesOf, List.map_map]
  rfl

/-- The diagnostics of a run are the remarks in its report. -/
lemma remarks_run (config : Config) (store : Store) (selected : List (EntityId × Entity)) :
    (runDiagnostics (passagesOf store selected) (config.functions store)).entries.map
        Diagnostic.remark =
      (runReport (passagesOf store selected) (config.functions store)).remarks := by
  have hpassages : ∀ p ∈ passagesOf store selected,
      p.located.map Diagnostic.remark = p.output.report.remarks := by
    intro p hp
    obtain ⟨found, _, rfl⟩ := List.mem_map.1 hp
    exact remarks_located rfl
  rw [runDiagnostics_eq, List.map_append, remarks_members, List.map_flatMap,
    List.flatMap_congr hpassages, RunReport.remarks, runReport, List.flatMap_map]

/-- Of all that is said in a run, unions are said to have no layout, and this is all that is said of
no member. -/
lemma category_run {config : Config} {selected : List (EntityId × Entity)} {d : Diagnostic}
    (h : d ∈ (runDiagnostics (passagesOf store selected) (config.functions store)).entries) :
    d.category = .noHostLayout ↔ d.member = none := by
  rw [runDiagnostics_eq, List.mem_append] at h
  rcases h with h | h
  · obtain ⟨p, hp, hd⟩ := List.mem_flatMap.1 h
    obtain ⟨found, _, rfl⟩ := List.mem_map.1 hp
    obtain ⟨said, hsaid, rfl⟩ := List.mem_map.1 hd
    exact category_emit (d := said) hsaid
  · obtain ⟨said, hsaid, rfl⟩ := List.mem_map.1 h
    exact category_of_mem_diagnostics (d := said) (fun m hm => mem_functions hm) hsaid

namespace Generator

/-- **The diagnostics of a run retell its report.**  After a run that succeeds, whatever the
generator has done before, there is one report for each selected entity, in order, and the
diagnostics are the remarks in these reports and then those on free functions: one for each union,
with its name and the reason why it was left out, and one for each member that was left out or
written without its result, with its name, its reason and the name of its entity.  Nothing else is
said, and only unions are said to have no layout. -/
theorem run_retold (g : Generator) (config : Config) (store : Store) {delivery : Delivery}
    (h : (g.run config store).1 = .ok delivery) :
    let after := (g.run config store).2
    (∃ selected, config.select store = .ok selected ∧
      List.Forall₂ (fun found report => Introduces found.2 report) selected
        after.report.entities) ∧
      after.diagnostics.entries.map Diagnostic.remark = after.report.remarks ∧
      ∀ d ∈ after.diagnostics.entries, d.category = .noHostLayout ↔ d.member = none := by
  cases hselect : config.select store with
  | error e =>
      rw [g.run_of_error hselect] at h
      contradiction
  | ok selected =>
      rw [g.run_of_select hselect]
      refine ⟨⟨selected, rfl, ?_⟩, remarks_run config store selected, fun d hd => category_run hd⟩
      dsimp only [runReport]
      rw [reports_passagesOf, List.forall₂_map_right_iff]
      exact List.forall₂_same.2 fun found _ => introduces_emit store found.2

/-- A protocol without a name, a union, a protocol and a class of which one method each is left out
and one is written without its result, and two free functions of one Go name. -/
def motley : Store where
  slots := #[
    .defined (.protocol { head := { refid := "p", name := "" } }),
    .defined (.union { head := { refid := "u", name := "NSBits" } }),
    .defined (.protocol {
      head := { refid := "q", name := "NSCoding" }
      methods := [
        { head := { refid := "q1", name := "shared" }, isStatic := true
          prototype := { result := none, params := [] } },
        { head := { refid := "q2", name := "coder" }
          prototype := { result := some (.named "NSCoder"), params := [] } }] }),
    .defined (.record {
      head := { refid := "v", name := "NSView" }, isClass := true
      methods := [
        { head := { refid := "v1", name := "frame" }
          prototype := { result := some (.primitive "int"), params := [] } },
        { head := { refid := "v2", name := "draw:" }
          prototype := { result := none, params := [⟨"block", .function none []⟩] } }] })]
  order := [⟨0⟩, ⟨1⟩, ⟨2⟩, ⟨3⟩]
  functions := [
    { head := { refid := "f1", name := "NSBeep" }, prototype := { result := none, params := [] } },
    { head := { refid := "f2", name := "nSBeep" }, prototype := { result := none, params := [] } }]

/-- One remark for the union, two for the protocol, one for the class and one for the second
function; none for the protocol without a name, and none in the entity that the generator was left
in. -/
theorem run_retold_motley :
    let last : Generator := { diagnostics := { context := some "NSMenu" } }
    ∃ delivery, (last.run {} motley).1 = .ok delivery ∧
      (last.run {} motley).2.diagnostics.entries.map Diagnostic.remark = [
        ⟨some "NSBits", none, "union has no Go layout"⟩,
        ⟨some "NSCoding", some "shared", "class methods cannot be implemented by a Go value"⟩,
        ⟨some "NSCoding", some "coder", "return type NSCoder has no bridge cast"⟩,
        ⟨some "NSView", some "draw:", "argument block of type func() has no bridge cast"⟩,
        ⟨none, some "nSBeep", "NSBeep is already declared"⟩] := by
  intro last
  have hsorted : motley.sorted = motley.definitions :=
    List.mergeSort_of_pairwise (by decide +kernel)
  have hfunctions : sortedFunctions motley = motley.functions :=
    List.mergeSort_of_pairwise (by decide +kernel)
  have hselect : Config.select {} motley = .ok motley.sorted := rfl
  have hrun := last.run_of_select hselect
  obtain ⟨_, hremarks, _⟩ := last.run_retold {} motley (congrArg Prod.fst hrun)
  refine ⟨_, congrArg Prod.fst hrun, ?_⟩
  rw [hremarks, hrun, hsorted, Config.functions, stubs, hfunctions]
  decide +kernel

end Generator

end Output

end FrameworkBindings
