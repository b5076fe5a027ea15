import Mathlib.Data.List.Forall2
import FrameworkBindings.Proofs.Output.Relocation
import FrameworkBindings.Proofs.Store.Definitions
import FrameworkBindings.Proofs.Types.Casts

/-!
# Best-effort translation

A member that cannot be translated is left out, and nothing else changes.

**The rule.**  `Skips` and `Advises` say of a member of an entity, in terms of its types only, that
it cannot be written, or that it is written without its result.  They are the same for classes and
protocols, up to the direction of the call.

**The verdicts.**  What becomes of a member (`handledBy`) is what the rule says (`judged`), and that
is what the report on an entity consists of (`judgedMembers_emit`).

**Deletion.**  `Entity.withoutSkipped` drops the members that were skipped, and `Store.prune` does
so for all entities that a run has written.  Types show the same in the pruned store
(`sameFace_mapEntities`) and skipped members have no text, so the run writes the same file.

**Why deletion.**  That a member is left out and nothing else changes is a statement about two runs.
The second is over a store in which the member was never there, so it holds for whatever is written
by the run, the file as a whole, and not only for the texts of other members.

**Where the rule is independent of the generator.**  It speaks of Go names and casts of types.  It
does not mention texts, refusals or the order in which the questions are asked, so a refusal that is
made for another reason, or not made, would break `judged`.
-/

namespace FrameworkBindings

/-! ## The rule -/

namespace NativeType

/-- The type has a Go name, complete down to its parts. -/
def Spelled (store : Store) (t : NativeType) : Prop := (t.spelling store).complete = true

/-- Whatever the expression, it can be handed to the runtime. -/
def CastsToNative (store : Store) (t : NativeType) : Prop :=
  ∀ expression, (t.toNative store expression).isSome = true

/-- Whatever the expression, a value can be made of it. -/
def CastsToHost (store : Store) (t : NativeType) : Prop :=
  ∀ expression, (t.toHost store expression).isSome = true

end NativeType

namespace NativeType

variable {store : Store}

/-- One expression is enough to know, as a cast does not look at what it casts. -/
lemma castsToNative_iff {t : NativeType} (expression : String) :
    t.CastsToNative store ↔ (t.toNative store expression).isSome = true :=
  ⟨fun h => h expression, fun h other => (t.isContext_toNative.isSome_eq other expression).trans h⟩

lemma castsToHost_iff {t : NativeType} (expression : String) :
    t.CastsToHost store ↔ (t.toHost store expression).isSome = true :=
  ⟨fun h => h expression, fun h other => (t.isContext_toHost.isSome_eq other expression).trans h⟩

end NativeType

namespace Output

/-- A value of the type can be handed over as an argument: it has a name and a cast to native. -/
def PassesAsArgument (store : Store) (t : NativeType) : Prop :=
  t.Spelled store ∧ t.CastsToNative store

/-- A value of the type comes back from a call, or is given in answer to one. -/
def PassesAsResult (store : Store) (direction : Direction) (t : NativeType) : Prop :=
  t.Spelled store ∧
    match direction with
    | .call => t.CastsToHost store
    | .callback => t.CastsToNative store

/-- A member that a report is about. -/
inductive Reported where
  | property (p : Property)
  | method (f : Routine)

/-- The name in the report: the selector of the setter for a property, the own name for a method. -/
def Reported.name : Reported → String
  | property p => Identifier.setterSelector p.name
  | method f => f.name

/-- The members of an entity that a report is about, in order. -/
def reportedMembers : Entity → List Reported
  | .record d => (d.properties.filter (·.writable)).map .property ++ d.methods.map .method
  | .protocol d => d.methods.map .method
  | .union _ => []

/-- Which way the methods of an entity are called. -/
def directionOf : Entity → Direction
  | .protocol _ => .callback
  | _ => .call

/-- The member cannot be written: one of its arguments does not pass, or it is a class method of a
protocol. -/
def Skips (store : Store) (entity : Entity) : Reported → Prop
  | .property p => ¬ PassesAsArgument store p.type
  | .method f =>
    (directionOf entity = .callback ∧ f.isStatic = true) ∨
      ∃ p ∈ f.prototype.params, ¬ PassesAsArgument store p.type

/-- The result of the member cannot be had, so it is written without one. -/
def Advises (store : Store) (entity : Entity) : Reported → Prop
  | .property _ => False
  | .method f => ∃ r ∈ f.prototype.result, ¬ PassesAsResult store (directionOf entity) r

/-- The report on a member says what the rule says: its name, and which of the three outcomes. -/
structure Judged (store : Store) (entity : Entity) (m : Reported) (r : MemberReport) : Prop where
  name : r.name = m.name
  isSkipped : r.outcome.isSkipped = true ↔ Skips store entity m
  isAdvisory : r.outcome.isAdvisory = true ↔ ¬ Skips store entity m ∧ Advises store entity m
  isEmitted : r.outcome.isEmitted = true ↔ ¬ Skips store entity m ∧ ¬ Advises store entity m

/-- The report on an entity judges its members one by one.  An entity without a name is left out as
a whole, and nothing is said about its members. -/
structure JudgedMembers (store : Store) (entity : Entity) (r : EntityReport) : Prop where
  named : entity.name ≠ "" →
    List.Forall₂ (Judged store entity) (reportedMembers entity) r.members
  nameless : entity.name = "" → r.members = [] ∧ r.skipped.isSome = true

/-! ## The verdicts -/

variable {store : Store}

lemma passesAsArgument_iff {t : NativeType} (expression : String) :
    PassesAsArgument store t ↔
      (t.spelling store).complete = true ∧ (t.toNative store expression).isSome = true :=
  and_congr_right fun _ => NativeType.castsToNative_iff expression

lemma passesAsResult_iff {t : NativeType} {direction : Direction} :
    PassesAsResult store direction t ↔
      (t.spelling store).complete = true ∧ resultCrosses store direction t = true := by
  cases direction with
  | call => exact and_congr_right fun _ => NativeType.castsToHost_iff "v"
  | callback => exact and_congr_right fun _ => NativeType.castsToNative_iff "v"

/-- An argument is refused just if its type does not pass. -/
lemma crossArgument_eq_error_iff (direction : Direction) (place : Nat) (p : Param NativeType) :
    (∃ refusal, crossArgument store direction place p = .error refusal) ↔
      ¬ PassesAsArgument store p.type := by
  rw [passesAsArgument_iff (argumentName p.name place), crossArgument]
  by_cases hspelled : (p.type.spelling store).complete = true
  · cases hnative : p.type.toNative store (argumentName p.name place) with
    | none => simp [hspelled]
    | some native => simp [hspelled]
  · simp [hspelled]

/-- Arguments are refused just if one of their types does not pass. -/
lemma crossArguments_eq_error_iff (direction : Direction) (place : Nat)
    (params : List (Param NativeType)) :
    (∃ refusal, crossArguments store direction place params = .error refusal) ↔
      ∃ p ∈ params, ¬ PassesAsArgument store p.type := by
  induction params generalizing place with
  | nil => simp [crossArguments]
  | cons p params ih =>
      rw [crossArguments, List.exists_mem_cons_iff, ← crossArgument_eq_error_iff direction place,
        ← ih (place + 1)]
      cases crossArgument store direction place p with
      | error refusal => simp
      | ok argument => cases crossArguments store direction (place + 1) params <;> simp [Except.map]

/-- A function is refused just if one of its arguments is; its result is no reason. -/
lemma cross_eq_error_iff {prototype : Prototype} (direction : Direction) :
    (∃ refusal, prototype.cross store direction = .error refusal) ↔
      ∃ p ∈ prototype.params, ¬ PassesAsArgument store p.type := by
  rw [← crossArguments_eq_error_iff direction 0, Prototype.cross]
  cases crossArguments store direction 0 prototype.params <;> simp [Except.map]

/-- A result is remarked upon just if its type does not pass. -/
lemma verdict_crossResult {direction : Direction} (result : Option NativeType) :
    ((∃ r ∈ result, ¬ PassesAsResult store direction r) ∧
        (crossResult store direction result).verdict.outcome.isAdvisory = true) ∨
      (¬ (∃ r ∈ result, ¬ PassesAsResult store direction r) ∧
        (crossResult store direction result).verdict.outcome = .emitted) := by
  cases result with
  | none => exact .inr ⟨by simp, rfl⟩
  | some r =>
      have hresult : (∃ s ∈ some r, ¬ PassesAsResult store direction s) ↔
          ¬ PassesAsResult store direction r := by simp
      rw [hresult, passesAsResult_iff, crossResult]
      by_cases hspelled : (r.spelling store).complete = true
      · by_cases hcrosses : resultCrosses store direction r = true
        · exact .inr (by simp [hspelled, hcrosses, Result.verdict, Verdict.outcome])
        · exact .inl (by
            simp [hspelled, hcrosses, Result.verdict, Verdict.outcome, Outcome.isAdvisory])
      · exact .inl (by simp [hspelled, Result.verdict, Verdict.outcome, Outcome.isAdvisory])

/-- A result is typed just if it has a name and gets across. -/
lemma crossResult_typed_iff {direction : Direction} {result : Option NativeType} {goType : String}
    {r : NativeType} :
    crossResult store direction result = .typed goType r ↔
      result = some r ∧ goType = (r.spelling store).text ∧ PassesAsResult store direction r := by
  cases result with
  | none => simp [crossResult]
  | some s =>
      rw [crossResult, Option.some_inj]
      constructor
      · intro h
        split_ifs at h with hspelled hcrosses
        cases h
        exact ⟨rfl, rfl, passesAsResult_iff.2 ⟨hspelled, hcrosses⟩⟩
      · rintro ⟨rfl, rfl, hpasses⟩
        obtain ⟨hspelled, hcrosses⟩ := passesAsResult_iff.1 hpasses
        simp [hspelled, hcrosses]

/-- What becomes of a member of an entity, by the function that writes members of its kind. -/
def handledBy (store : Store) (entity : Entity) : Reported → Handled
  | .property p => setter store (entity.head.hostName.getD "") p
  | .method f =>
    match directionOf entity with
    | .callback => handle store f
    | .call => method store (entity.head.hostName.getD "") entity.name f

/-- A member that has to be judged only by whether it is refused and what its result is. -/
lemma Judged.of_refused {entity : Entity} {m : Reported} {refusal : Refusal}
    (h : Skips store entity m) : Judged store entity m (Handled.refuse m.name refusal).report where
  name := rfl
  isSkipped := iff_of_true rfl h
  isAdvisory := by simp [Handled.report, Handled.refuse, Verdict.outcome, Outcome.isAdvisory, h]
  isEmitted := by simp [Handled.report, Handled.refuse, Verdict.outcome, Outcome.isEmitted, h]

/-- A member that is not skipped is judged by its result. -/
lemma Judged.of_crossResult {entity : Entity} {f : Routine} {text : String}
    (h : ¬ Skips store entity (.method f)) :
    Judged store entity (.method f)
      (Handled.report ⟨f.name,
        (crossResult store (directionOf entity) f.prototype.result).verdict, text⟩) := by
  have hresult : (∃ r ∈ f.prototype.result, ¬ PassesAsResult store (directionOf entity) r) ∧
        (crossResult store (directionOf entity) f.prototype.result).verdict.outcome.isAdvisory =
          true ∨
      ¬ (∃ r ∈ f.prototype.result, ¬ PassesAsResult store (directionOf entity) r) ∧
        (crossResult store (directionOf entity) f.prototype.result).verdict.outcome = .emitted :=
    verdict_crossResult f.prototype.result
  rcases hresult with ⟨hadvises, hverdict⟩ | ⟨hadvises, hverdict⟩
  · have hadvises : Advises store entity (.method f) := hadvises
    generalize (crossResult store (directionOf entity) f.prototype.result).verdict = v at hverdict ⊢
    cases v with
    | remarked refusal =>
        refine ⟨rfl, ?_, ?_, ?_⟩
        · simp [Handled.report, Verdict.outcome, Outcome.isSkipped, h]
        · simp [Handled.report, Verdict.outcome, Outcome.isAdvisory, h, hadvises]
        · simp [Handled.report, Verdict.outcome, Outcome.isEmitted, hadvises]
    | written | refused _ => contradiction
  · have hadvises : ¬ Advises store entity (.method f) := hadvises
    refine ⟨rfl, ?_, ?_, ?_⟩
    · simp [Handled.report, hverdict, Outcome.isSkipped, h]
    · simp [Handled.report, hverdict, Outcome.isAdvisory, hadvises]
    · simp [Handled.report, hverdict, Outcome.isEmitted, h, hadvises]

/-- What crosses has the result that was declared, whatever becomes of it. -/
lemma result_cross {prototype : Prototype} {direction : Direction} {crossing : Crossing}
    (h : prototype.cross store direction = .ok crossing) :
    crossing.result = crossResult store direction prototype.result := by
  obtain ⟨arguments, _, rfl⟩ := map_eq_ok_iff.1 h
  rfl

lemma judged_setter (entity : Entity) (name : String) (p : Property) :
    Judged store entity (.property p) (setter store name p).report := by
  have hskips : PassesAsArgument store p.type ↔ (p.type.spelling store).complete = true ∧
      (p.type.toNative store "v").isSome = true := passesAsArgument_iff "v"
  by_cases hspelled : (p.type.spelling store).complete = true
  · cases hnative : p.type.toNative store "v" with
    | none =>
        rw [setter, if_pos hspelled, hnative]
        exact .of_refused fun hpasses => by simp [hskips, hnative] at hpasses
    | some passed =>
        have hpasses : PassesAsArgument store p.type := hskips.2 ⟨hspelled, by simp [hnative]⟩
        rw [setter, if_pos hspelled, hnative]
        refine ⟨rfl, ?_, ?_, ?_⟩
        · exact iff_of_false Bool.false_ne_true (not_not_intro hpasses)
        · exact iff_of_false Bool.false_ne_true fun h => h.2
        · exact iff_of_true rfl ⟨not_not_intro hpasses, id⟩
  · rw [setter, if_neg hspelled]
    exact .of_refused fun hpasses => hspelled (hskips.1 hpasses).1

lemma judged_method {entity : Entity} (hdirection : directionOf entity = .call)
    (hostName name : String) (f : Routine) :
    Judged store entity (.method f) (method store hostName name f).report := by
  have hcross : (∃ refusal, f.prototype.cross store .call = .error refusal) ↔
      ∃ p ∈ f.prototype.params, ¬ PassesAsArgument store p.type := cross_eq_error_iff .call
  cases hcrossing : f.prototype.cross store .call with
  | error refusal =>
      simp only [method, hcrossing]
      exact .of_refused (.inr (hcross.1 ⟨refusal, hcrossing⟩))
  | ok crossing =>
      have hskips : ¬ Skips store entity (.method f) := by
        rintro (⟨hcallback, _⟩ | hparams)
        · simp [hdirection] at hcallback
        · obtain ⟨refusal, herror⟩ := hcross.2 hparams
          simp [hcrossing] at herror
      simp only [method, hcrossing, result_cross hcrossing]
      rw [← hdirection]
      exact .of_crossResult hskips

lemma judged_handle {entity : Entity} (hdirection : directionOf entity = .callback)
    (f : Routine) : Judged store entity (.method f) (handle store f).report := by
  have hcross : (∃ refusal, f.prototype.cross store .callback = .error refusal) ↔
      ∃ p ∈ f.prototype.params, ¬ PassesAsArgument store p.type := cross_eq_error_iff .callback
  cases haccept : accept store f with
  | error refusal =>
      have hskips : Skips store entity (.method f) := by
        by_cases hstatic : f.isStatic = true
        · exact .inl ⟨hdirection, hstatic⟩
        · refine .inr (hcross.1 ?_)
          rw [accept, if_neg hstatic] at haccept
          cases hcrossing : f.prototype.cross store .callback with
          | error refusal => exact ⟨refusal, rfl⟩
          | ok crossing => simp [hcrossing, Except.map] at haccept
      simp only [handle, haccept]
      exact .of_refused hskips
  | ok a =>
      obtain ⟨hstatic, _, hcrossing⟩ := of_accept haccept
      have hskips : ¬ Skips store entity (.method f) := by
        rintro (⟨_, hf⟩ | hparams)
        · simp [hstatic] at hf
        · obtain ⟨refusal, herror⟩ := hcross.2 hparams
          simp [hcrossing] at herror
      simp only [handle, haccept, result_cross hcrossing, ← hdirection]
      exact .of_crossResult hskips

/-- **A member is judged by its own types.**  Whether it is skipped, remarked upon or written is
decided by the rule, for classes and protocols alike. -/
theorem judged (store : Store) (entity : Entity) (m : Reported) :
    Judged store entity m (handledBy store entity m).report := by
  cases m with
  | property p => exact judged_setter entity _ p
  | method f =>
      rw [handledBy]
      cases hdirection : directionOf entity with
      | call => exact judged_method hdirection _ _ f
      | callback => exact judged_handle hdirection f

/-- What has a name has a Go name, as sanitizing leaves something of it. -/
lemma exists_hostName {entity : Entity} (h : entity.name ≠ "") :
    ∃ name, entity.head.hostName = some name := by
  rw [← Option.ne_none_iff_exists']
  exact fun hnone => h (Declaration.hostName_eq_none_iff.1 hnone)

/-- The members of a class with what becomes of them. -/
lemma classMembers_eq {d : RecordDef} {name : String} (h : d.head.hostName = some name) :
    classMembers store name d =
      (reportedMembers (.record d)).map (handledBy store (.record d)) := by
  simp only [classMembers, reportedMembers, List.map_append, List.map_map, handledBy, directionOf,
    Entity.head, Entity.name, h, Function.comp_def, Option.getD_some]

/-- The text of a class is its wrapper and the texts of its members. -/
lemma text_wrap {d : RecordDef} {name : String} (h : d.head.hostName = some name) :
    (emit store (.record d)).text = wrapperText d.head name ++
      String.join (((reportedMembers (.record d)).map (handledBy store (.record d))).map
        (·.text)) := by
  simp only [emit, wrap, h, EntityOutput.ofMembers, classMembers_eq h]

/-- The report on an entity that has a name consists of the reports on its members. -/
theorem members_emit {entity : Entity} (h : entity.name ≠ "") :
    (emit store entity).report.members =
      (reportedMembers entity).map fun m => (handledBy store entity m).report := by
  obtain ⟨name, hname⟩ := exists_hostName h
  cases entity with
  | record d =>
      have hname : d.head.hostName = some name := hname
      simp only [emit, wrap, hname, EntityOutput.ofMembers, reports, classMembers_eq hname,
        List.map_map]
      rfl
  | protocol d =>
      have hname : d.head.hostName = some name := hname
      simp only [emit, bind, hname, EntityOutput.ofMembers, reports, reportedMembers,
        List.map_map]
      rfl
  | union d => rfl

/-- An entity without a name is left out, with a reason and without a report on its members. -/
lemma report_emit_of_nameless {entity : Entity} (h : entity.name = "") :
    (emit store entity).report.members = [] ∧
      (emit store entity).report.skipped.isSome = true := by
  have hname : entity.head.hostName = none := Declaration.hostName_eq_none_iff.2 h
  cases entity with
  | record d =>
      have hname : d.head.hostName = none := hname
      simp [emit, wrap, hname, EntityOutput.nameless]
  | protocol d =>
      have hname : d.head.hostName = none := hname
      simp [emit, bind, hname, EntityOutput.nameless]
  | union d => exact ⟨rfl, rfl⟩

/-- **The report on an entity judges its members**, each by its own types and in their order. -/
lemma judgedMembers_emit (entity : Entity) :
    JudgedMembers store entity (emit store entity).report := by
  refine ⟨fun hname => ?_, report_emit_of_nameless⟩
  rw [members_emit hname, List.forall₂_map_right_iff]
  exact List.forall₂_same.2 fun m _ => judged store entity m

/-! ## Deletion -/

/-- Whether the member is in the output, with a remark or without. -/
def isKept (store : Store) (entity : Entity) (m : Reported) : Bool :=
  !(handledBy store entity m).report.outcome.isSkipped

/-- What is left out has no text, so the file does not change when it goes. -/
lemma text_of_not_isKept {entity : Entity} {m : Reported} (h : isKept store entity m = false) :
    (handledBy store entity m).text = "" := by
  have hverdict : ∀ result : Result, result.verdict.outcome.isSkipped = false := by
    intro result
    cases result <;> rfl
  rw [isKept, Bool.not_eq_false'] at h
  cases m with
  | property p =>
      simp only [handledBy, setter] at h ⊢
      split at h
      · split at h
        · contradiction
        · simp_all [Handled.refuse]
      · simp_all [Handled.refuse]
  | method f =>
      simp only [handledBy] at h ⊢
      split at h
      · simp only [handle] at h ⊢
        split at h <;> rfl
      · simp only [method] at h ⊢
        split at h
        · rfl
        · rw [Handled.report, hverdict] at h
          contradiction

/-- Dropping what has no text leaves the joined text as it is. -/
lemma join_text_filter {members : List Reported} {keep : Reported → Bool}
    {handled : Reported → Handled} (h : ∀ m ∈ members, keep m = false → (handled m).text = "") :
    String.join (((members.filter keep).map handled).map (·.text)) =
      String.join ((members.map handled).map (·.text)) := by
  induction members with
  | nil => rfl
  | cons m members ih =>
      have hrest := ih fun n hn => h n (List.mem_cons_of_mem _ hn)
      cases hkeep : keep m with
      | true =>
          rw [List.filter_cons_of_pos hkeep]
          simp only [List.map_cons, String.join_cons, hrest]
      | false =>
          rw [List.filter_cons_of_neg (by simp [hkeep]), hrest]
          simp only [List.map_cons, String.join_cons, h m (List.mem_cons_self ..) hkeep,
            String.empty_append]

end Output

open Output

/-- The entity with those of its reported members that are to be kept. -/
def Entity.keeping (keep : Reported → Bool) : Entity → Entity
  | .record d => .record { d with
      properties := d.properties.filter fun p => !p.writable || keep (.property p)
      methods := d.methods.filter fun f => keep (.method f) }
  | .protocol d => .protocol { d with methods := d.methods.filter fun f => keep (.method f) }
  | .union d => .union d

/-- The entity without the members that were skipped.  Of an entity without a name, no member is
reported and none is dropped. -/
def Entity.withoutSkipped (store : Store) (entity : Entity) : Entity :=
  if entity.name = "" then entity else entity.keeping (isKept store entity)

/-- The entity without the members that were skipped, if its slot is one of those given. -/
def Store.pruned (store : Store) (ids : List EntityId) (id : EntityId) (entity : Entity) : Entity :=
  if id ∈ ids then entity.withoutSkipped store else entity

/-- The store without the skipped members of the entities in the given slots.  Slots and all other
entities are as they were. -/
def Store.prune (store : Store) (ids : List EntityId) : Store :=
  store.mapEntities (store.pruned ids)

namespace Output

variable {store : Store}

@[simp]
lemma head_keeping (keep : Reported → Bool) (entity : Entity) :
    (entity.keeping keep).head = entity.head := by
  cases entity <;> rfl

@[simp]
lemma kind_keeping (keep : Reported → Bool) (entity : Entity) :
    (entity.keeping keep).kind = entity.kind := by
  cases entity <;> rfl

@[simp]
lemma head_withoutSkipped (store : Store) (entity : Entity) :
    (entity.withoutSkipped store).head = entity.head := by
  unfold Entity.withoutSkipped
  split
  · rfl
  · exact head_keeping _ entity

@[simp]
lemma kind_withoutSkipped (store : Store) (entity : Entity) :
    (entity.withoutSkipped store).kind = entity.kind := by
  unfold Entity.withoutSkipped
  split
  · rfl
  · exact kind_keeping _ entity

@[simp]
lemma head_pruned (store : Store) (ids : List EntityId) (id : EntityId) (entity : Entity) :
    (store.pruned ids id entity).head = entity.head := by
  unfold Store.pruned
  split
  · exact head_withoutSkipped store entity
  · rfl

@[simp]
lemma kind_pruned (store : Store) (ids : List EntityId) (id : EntityId) (entity : Entity) :
    (store.pruned ids id entity).kind = entity.kind := by
  unfold Store.pruned
  split
  · exact kind_withoutSkipped store entity
  · rfl

/-- Of the members that are reported those that are kept are left, in order. -/
lemma reportedMembers_keeping (keep : Reported → Bool) (entity : Entity) :
    reportedMembers (entity.keeping keep) = (reportedMembers entity).filter keep := by
  cases entity with
  | record d =>
      have hwritable : ∀ p : Property, (p.writable && (!p.writable || keep (.property p))) =
          (keep (.property p) && p.writable) := by
        intro p
        cases p.writable <;> simp
      simp only [Entity.keeping, reportedMembers, List.filter_append, List.filter_map,
        List.filter_filter, hwritable]
      rfl
  | protocol d =>
      simp only [Entity.keeping, reportedMembers, List.filter_map]
      rfl
  | union d => rfl

/-- What becomes of a member does not depend on the others. -/
lemma handledBy_keeping (store : Store) (keep : Reported → Bool) (entity : Entity) :
    handledBy store (entity.keeping keep) = handledBy store entity := by
  cases entity <;> rfl

/-- What is accepted of the methods that are kept is what is accepted. -/
lemma acceptedMethods_filter {d : ProtocolDef} :
    acceptedMethods store (d.methods.filter fun f => isKept store (.protocol d) (.method f)) =
      acceptedMethods store d.methods := by
  rw [acceptedMethods, acceptedMethods, List.filterMap_filter]
  refine List.filterMap_congr fun f _ => ?_
  split
  · rfl
  · rename_i hdropped
    have hskipped : (handle store f).report.outcome.isSkipped = true := by
      simpa [isKept, handledBy, directionOf] using hdropped
    unfold handle at hskipped
    split at hskipped
    · rename_i haccept
      rw [haccept]
      rfl
    · rename_i a haccept
      have hwritten : a.crossing.result.verdict.outcome.isSkipped = false := by
        cases a.crossing.result <;> rfl
      rw [Handled.report, hwritten] at hskipped
      contradiction

/-- **An entity is written the same without its skipped members.** -/
theorem text_emit_withoutSkipped (store : Store) (entity : Entity) :
    (emit store (entity.withoutSkipped store)).text = (emit store entity).text := by
  by_cases hname : entity.name = ""
  · rw [Entity.withoutSkipped, if_pos hname]
  · obtain ⟨name, hhost⟩ := exists_hostName hname
    rw [Entity.withoutSkipped, if_neg hname]
    cases entity with
    | record d =>
        have hhost : d.head.hostName = some name := hhost
        have hreported := reportedMembers_keeping (isKept store (.record d)) (.record d)
        have hhandled := handledBy_keeping store (isKept store (.record d)) (.record d)
        rw [Entity.keeping] at hreported hhandled ⊢
        rw [text_wrap hhost, text_wrap (by exact hhost), hreported, hhandled,
          join_text_filter fun m _ => text_of_not_isKept]
    | protocol d =>
        have hhost : d.head.hostName = some name := hhost
        simp only [Entity.keeping, emit, bind, hhost, EntityOutput.ofMembers,
          acceptedMethods_filter]
    | union d => rfl

/-! ## Whole runs -/

/-- Rewriting members in place does not show from outside. -/
lemma sameFace_mapEntities {f : EntityId → Entity → Entity}
    (hhead : ∀ id entity, (f id entity).head = entity.head)
    (hkind : ∀ id entity, (f id entity).kind = entity.kind) (id : EntityId) :
    SameFace store (store.mapEntities f) id id := by
  have hentity := store.entity?_mapEntities f id
  by_cases hdefined : store.isDefined id = true
  · rw [if_pos hdefined] at hentity
    cases hid : store.entity? id with
    | none => exact .of_entity?_eq (by rw [hentity, hid, Option.map_none])
    | some entity =>
        exact .of_entity? hid (by rw [hentity, hid, Option.map_some]) (hhead id entity)
          (hkind id entity)
  · rw [if_neg hdefined] at hentity
    exact .of_entity?_eq hentity

/-- So all types show the same, whatever members of entities were rewritten. -/
lemma relocates_mapEntities {f : EntityId → Entity → Entity}
    (hhead : ∀ id entity, (f id entity).head = entity.head)
    (hkind : ∀ id entity, (f id entity).kind = entity.kind) (types : List NativeType) :
    RelocatesTypes id store (store.mapEntities f) types :=
  fun _ _ id _ => sameFace_mapEntities hhead hkind id

/-- The output for an entity does not depend on the members of others. -/
lemma emit_mapEntities {f : EntityId → Entity → Entity}
    (hhead : ∀ id entity, (f id entity).head = entity.head)
    (hkind : ∀ id entity, (f id entity).kind = entity.kind) (entity : Entity) :
    emit (store.mapEntities f) entity = emit store entity := by
  have hrelocates : RelocatesTypes id store (store.mapEntities f) entity.types :=
    relocates_mapEntities hhead hkind entity.types
  have hemit := emit_rename hrelocates
  rwa [Entity.rename_id] at hemit

lemma stubs_mapEntities {f : EntityId → Entity → Entity}
    (hhead : ∀ id entity, (f id entity).head = entity.head)
    (hkind : ∀ id entity, (f id entity).kind = entity.kind) :
    stubs (store.mapEntities f) = stubs store := by
  have hrelocates : ∀ g ∈ sortedFunctions store,
      RelocatesTypes id store (store.mapEntities f) g.types :=
    fun g _ => relocates_mapEntities hhead hkind g.types
  have hstubs := stubsFrom_rename hrelocates []
  have hsame : (sortedFunctions store).map (·.rename id) = sortedFunctions store := by
    simp
  rw [hsame] at hstubs
  exact hstubs

/-- The same entities are selected, in the same order, each as it was rewritten. -/
lemma select_mapEntities {f : EntityId → Entity → Entity}
    (hhead : ∀ id entity, (f id entity).head = entity.head) (config : Config) :
    config.select (store.mapEntities f) =
      (config.select store).map fun selected => selected.map fun p => (p.1, f p.1 p.2) := by
  have hwanted : ∀ names, wantedIds (store.mapEntities f) names = wantedIds store names := by
    intro names
    induction names with
    | nil => rfl
    | cons name names ih => rw [wantedIds, wantedIds, Store.findByName_mapEntities hhead, ih]
  rw [Config.select, Config.select, hwanted, Store.sorted_mapEntities hhead]
  split
  · rfl
  · cases wantedIds store config.classes with
    | error e => rfl
    | ok wanted =>
        simp only [Except.map, List.filter_map]
        rfl

/-- **A run without the skipped members writes the same file.** -/
lemma code_prune {config : Config} {selected : List (EntityId × Entity)}
    (h : config.select store = .ok selected) :
    ∃ g', generate config (store.prune (selected.map Prod.fst)) = .ok g' ∧
      g'.code = (generateFrom config store selected).code := by
  have hhead := head_pruned store (selected.map Prod.fst)
  have hkind := kind_pruned store (selected.map Prod.fst)
  have hselect : config.select (store.prune (selected.map Prod.fst)) = _ :=
    select_mapEntities hhead config
  rw [h] at hselect
  refine ⟨_, by rw [generate, hselect, Except.map, Except.map], ?_⟩
  have hfunctions : config.functions (store.prune (selected.map Prod.fst)) =
      config.functions store := by
    rw [Config.functions, Config.functions, Store.prune, stubs_mapEntities hhead hkind]
  have htexts : ∀ found ∈ selected, (emit (store.prune (selected.map Prod.fst))
      (store.pruned (selected.map Prod.fst) found.1 found.2)).text =
        (emit store found.2).text := by
    intro found hfound
    rw [Store.prune, emit_mapEntities hhead hkind, Store.pruned,
      if_pos (List.mem_map_of_mem hfound), text_emit_withoutSkipped]
  simp only [generateFrom, Config.file, passagesOf, List.map_map, hfunctions]
  congr 3
  exact List.map_congr_left fun found hfound => htexts found hfound

/-- **Translation is best effort, member by member.**  In every run, each reported member of each
entity is judged by the rule, and without the members that were skipped the run writes the same
file.  The rule looks at the types of one member only, so one that fails never takes another with
it. -/
theorem generate_bestEffort {config : Config} {g : Generated}
    (h : generate config store = .ok g) :
    ∃ selected, config.select store = .ok selected ∧
      List.Forall₂ (fun found report => JudgedMembers store found.2 report)
        selected g.report.entities ∧
      ∃ g', generate config (store.prune (selected.map Prod.fst)) = .ok g' ∧ g'.code = g.code := by
  obtain ⟨selected, hselected, rfl⟩ := map_eq_ok_iff.1 h
  refine ⟨selected, hselected, ?_, code_prune hselected⟩
  have hentities : (generateFrom config store selected).report.entities =
      selected.map fun found => (emit store found.2).report := by
    simp only [generateFrom, runReport, passagesOf, List.map_map]
    rfl
  rw [hentities, List.forall₂_map_right_iff]
  exact List.forall₂_same.2 fun found _ => judgedMembers_emit found.2

/-- A class of which one method is written, one is remarked upon and one is skipped. -/
def mixedStore : Store where
  slots := #[.defined (.record {
    head := { refid := "v", name := "NSView" }, isClass := true
    methods := [
      { head := { refid := "m1", name := "frame" }
        prototype := { result := some (.primitive "int"), params := [] } },
      { head := { refid := "m2", name := "layer" }
        prototype := { result := some (.named "CALayer"), params := [⟨"i", .primitive "int"⟩] } },
      { head := { refid := "m3", name := "draw:" }
        prototype := { result := none, params := [⟨"block", .function none []⟩] } }] })]
  order := [⟨0⟩]

/-- One method is skipped and one remarked upon, and the class without the skipped one is written
the same. -/
theorem generate_bestEffort_mixed :
    ∃ g g', generate {} mixedStore = .ok g ∧
      g.report.totals.skipped = 1 ∧ g.report.totals.advisory = 1 ∧
      generate {} (mixedStore.prune [⟨0⟩]) = .ok g' ∧ g'.code = g.code := by
  have hrun : generate {} mixedStore = .ok (generateFrom {} mixedStore mixedStore.sorted) := rfl
  have hsorted : mixedStore.sorted = mixedStore.definitions := by
    simp [Store.sorted, Store.definitions, mixedStore]
  obtain ⟨selected, hselected, _, g', hpruned, hcode⟩ := generate_bestEffort hrun
  have hids : selected.map Prod.fst = [⟨0⟩] := by
    obtain rfl : mixedStore.sorted = selected := Except.ok.inj hselected
    rw [hsorted]
    rfl
  rw [hids] at hpruned
  refine ⟨_, g', hrun, ?_, ?_, hpruned, hcode⟩
  · rw [hsorted]
    decide +kernel
  · rw [hsorted]
    decide +kernel

end Output

end FrameworkBindings
