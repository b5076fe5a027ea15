import FrameworkBindings.Proofs.Loading.Growth
import FrameworkBindings.Proofs.Output.Order
import FrameworkBindings.Proofs.Output.Pieces
import FrameworkBindings.Proofs.Types.Casts

/-!
# What further loading improves

What a store can represent, every store that it grows to can represent, and in the same way.  A type
that has a Go name, or a cast, refers to definitions only, and these stay as they are up to methods;
types that refer to awaited slots have neither, so nothing is lost when the slots are filled.

**Types.**  `Store.Defines` says that a type refers to definitions; it follows from a complete
spelling and from either cast (`defines_of_spelled`, `defines_of_toNative`, `defines_of_toHost`).

**Members.**  A member that is written without a remark has spelled types only, so it is treated
alike (`handledBy_grows`, `declaration_grows`), and keeps its place among the members of its entity
(`reportedMembers_extend`).

**Runs.**  What was selected is selected (`select_grows`), and `generate_onward` puts all together.

**Why only what was written.**  A member that was skipped, or written with a remark, may do better
in the grown store, where a slot of one of its types has been filled.  So nothing is said of it, and
the text of an entity as a whole may change.  What stays is every declaration that was complete.

**Further methods.**  An entity may have got methods in the second pass.  They come behind those it
had, so places in the report are kept, and the other members do not depend on them.
-/

namespace FrameworkBindings

/-! ## Types -/

/-- Every slot in the type is defined, none of them only awaited. -/
def Store.Defines (store : Store) (t : NativeType) : Prop :=
  ∀ id ∈ t.ids, ∃ entity, store.definition? id = some entity

variable {store store' : Store}

/-- What has a name has been defined, as an awaited slot shows its reference id only. -/
lemma Store.definition?_of_named {id : EntityId} {entity : Entity}
    (h : store.entity? id = some entity) (hname : entity.head.hostName ≠ none) :
    store.definition? id = some entity := by
  unfold Store.entity? at h
  unfold Store.definition?
  cases hslot : store.slots[id.slot]? with
  | none => simp [hslot] at h
  | some slot =>
      rw [hslot] at h
      cases slot with
      | undefined refid methods =>
          obtain rfl : (Entity.placeholder refid).withMethods methods = entity := Option.some.inj h
          exact absurd rfl hname
      | defined found refid => exact h

/-- Definitions show the same when the store has grown: they may have got methods, which are not
seen from outside. -/
lemma Store.GrowsTo.relocates (h : store.GrowsTo store') {t : NativeType}
    (ht : store.Defines t) : Relocates id store store' t.ids := by
  intro i hi
  obtain ⟨entity, hentity⟩ := ht i hi
  obtain ⟨functions, hgrown⟩ := h.definition i entity hentity
  exact .of_entity? (Store.entity?_of_definition? hentity) (Store.entity?_of_definition? hgrown)
    entity.head_extend entity.kind_extend

namespace NativeType

/-- A prototype is spelled only if all its types are. -/
lemma spelled_of_prototype {prototype : Prototype}
    (h : (prototype.spelling store).complete = true) : ∀ t ∈ prototype.types, t.Spelled store := by
  obtain ⟨hresult, hparams⟩ := Prototype.complete_spelling_iff.1 h
  intro t ht
  rcases List.mem_append.1 ht with ht | ht
  · exact hresult t (Option.mem_toList.1 ht)
  · obtain ⟨p, hp, rfl⟩ := List.mem_map.1 ht
    exact hparams p hp

/-- **A type with a Go name refers to definitions.** -/
lemma defines_of_spelled {t : NativeType} (h : t.Spelled store) : store.Defines t := by
  induction t using NativeType.recursion with
  | function result params ihr ihp =>
      have hspelled : ∀ t ∈ (Prototype.mk result params).types, t.Spelled store := by
        refine spelled_of_prototype ?_
        rw [Spelled, spelling_function] at h
        exact h
      intro id hid
      rcases mem_ids_function.1 hid with ⟨r, hr, hmem⟩ | ⟨p, hp, hmem⟩
      · exact ihr r hr (hspelled r (List.mem_append_left _ (Option.mem_toList.2 hr))) id hmem
      · refine ihp p hp (hspelled p.type ?_) id hmem
        exact List.mem_append_right _ (List.mem_map_of_mem hp)
  | entity id =>
      intro other hother
      obtain rfl := List.mem_singleton.1 hother
      rw [Spelled, spelling, Store.spelling] at h
      cases hentity : store.entity? other with
      | none => simp [hentity, Spelling.missing] at h
      | some entity =>
          refine ⟨entity, Store.definition?_of_named hentity fun hname => ?_⟩
          simp [hentity, Declaration.spelling, hname, Spelling.missing] at h
  | primitive _ | named _ | string | unknown _ _ => simp [Store.Defines, ids]
  | pointer _ ih | array _ _ ih | const _ ih | strong _ ih | nullable _ _ ih | external _ ih =>
      exact ih h

/-- What can be handed to the bridge has a complete name, so it refers to definitions too. -/
lemma defines_of_toNative {t : NativeType} {expression native : String}
    (h : t.toNative store expression = some native) : store.Defines t :=
  defines_of_spelled (complete_of_toNative (Option.isSome_of_eq_some h))

/-- What can be made of an object of the bridge can be handed to it. -/
lemma defines_of_toHost {t : NativeType} {expression host : String}
    (h : t.toHost store expression = some host) : store.Defines t := by
  obtain ⟨native, hnative⟩ := Option.isSome_iff_exists.1
    (isSome_toNative_of_toHost (Option.isSome_of_eq_some h) expression)
  exact defines_of_toNative hnative

variable {t : NativeType}

/-- **A Go name stays**, once a type has one. -/
theorem name?_grows (h : store.GrowsTo store') {name : String}
    (hname : (t.spelling store).name? = some name) : (t.spelling store').name? = some name := by
  have hspelled : t.Spelled store := by
    unfold Spelling.name? at hname
    split at hname
    · assumption
    · contradiction
  have hsame := spelling_rename (h.relocates (defines_of_spelled hspelled))
  rw [rename_id] at hsame
  rw [hsame, hname]

/-- **A cast to native stays**, with the same text for every expression. -/
theorem toNative_grows (h : store.GrowsTo store') {expression native : String}
    (hnative : t.toNative store expression = some native) :
    t.toNative store' expression = some native := by
  have hsame := toNative_rename (h.relocates (defines_of_toNative hnative)) expression
  rw [rename_id] at hsame
  rw [hsame, hnative]

/-- **A cast to the host stays**, with the same text for every expression. -/
theorem toHost_grows (h : store.GrowsTo store') {expression host : String}
    (hhost : t.toHost store expression = some host) :
    t.toHost store' expression = some host := by
  have hsame := toHost_rename (h.relocates (defines_of_toHost hhost)) expression
  rw [rename_id] at hsame
  rw [hsame, hhost]

end NativeType

namespace Output

/-! ## Members -/

variable {entity : Entity}

/-- The types of a member: those that decide what becomes of it. -/
def Reported.types : Reported → List NativeType
  | .property p => [p.type]
  | .method f => f.types

/-- All types of a member that is written without a remark have Go names. -/
lemma spelled_of_emitted {m : Reported} (hskips : ¬ Skips store entity m)
    (hadvises : ¬ Advises store entity m) : ∀ t ∈ m.types, t.Spelled store := by
  cases m with
  | property p =>
      intro t ht
      obtain rfl := List.mem_singleton.1 ht
      exact (not_not.1 hskips).1
  | method f =>
      intro t ht
      rcases List.mem_append.1 ht with ht | ht
      · have hpasses : PassesAsResult store (directionOf entity) t :=
          not_not.1 fun hfails => hadvises ⟨t, Option.mem_toList.1 ht, hfails⟩
        exact hpasses.1
      · obtain ⟨p, hp, rfl⟩ := List.mem_map.1 ht
        have hpasses : PassesAsArgument store p.type :=
          not_not.1 fun hfails => hskips (.inr ⟨p, hp, hfails⟩)
        exact hpasses.1

/-- The types of a member that is written refer to definitions, which show the same in the grown
store. -/
lemma relocatesTypes_of_emitted (h : store.GrowsTo store') {m : Reported}
    (hemitted : (handledBy store entity m).report.outcome = .emitted) :
    RelocatesTypes id store store' m.types := by
  obtain ⟨hskips, hadvises⟩ := (judged store entity m).isEmitted.1 (by rw [hemitted]; rfl)
  intro t ht
  exact h.relocates (NativeType.defines_of_spelled (spelled_of_emitted hskips hadvises t ht))

/-- How methods are called depends on the kind only. -/
lemma directionOf_extend (entity : Entity) (functions : List Routine) :
    directionOf (entity.extend [] [] functions) = directionOf entity := by
  cases entity <;> rfl

/-- **A member that was written without a remark is treated alike.** -/
lemma handledBy_grows (h : store.GrowsTo store') {m : Reported}
    (hemitted : (handledBy store entity m).report.outcome = .emitted) (functions : List Routine) :
    handledBy store' (entity.extend [] [] functions) m = handledBy store entity m := by
  have htypes := relocatesTypes_of_emitted h hemitted
  cases m with
  | property p =>
      have hsame := setter_rename (htypes p.type (List.mem_singleton_self _))
        (entity.head.hostName.getD "")
      rw [Property.rename_id] at hsame
      rw [handledBy, handledBy, Entity.head_extend, hsame]
  | method f =>
      rw [handledBy, handledBy, directionOf_extend, Entity.head_extend, Entity.name_extend]
      cases directionOf entity with
      | call =>
          have hsame := method_rename htypes (entity.head.hostName.getD "") entity.name
          rwa [Routine.rename_id] at hsame
      | callback =>
          have hsame := handle_rename htypes
          rwa [Routine.rename_id] at hsame

/-- **And it is declared by the same texts**, in all the places where it is declared. -/
lemma declaration_grows (h : store.GrowsTo store') {m : Reported}
    (hemitted : (handledBy store entity m).report.outcome = .emitted) (functions : List Routine) :
    declaration store' (entity.extend [] [] functions) m = declaration store entity m := by
  have hsame := handledBy_grows h hemitted functions
  cases m with
  | property p => rw [declaration, declaration, hsame]
  | method f =>
      have htypes : RelocatesTypes id store store' f.types := relocatesTypes_of_emitted h hemitted
      have haccept := accept_rename htypes
      rw [Routine.rename_id] at haccept
      rw [declaration, declaration, hsame, directionOf_extend, Entity.head_extend, haccept]
      cases directionOf entity with
      | call => rfl
      | callback =>
          cases ha : accept store f with
          | error refusal => rfl
          | ok a =>
              simp only [Except.map, interfaceLines_rename, forwarder_rename htypes ha]
              rfl

/-- A member that is written is declared, by one text at least. -/
lemma declaration_ne_nil {m : Reported}
    (hemitted : (handledBy store entity m).report.outcome = .emitted) :
    declaration store entity m ≠ [] := by
  cases m with
  | property p => simp [declaration]
  | method f =>
      rw [handledBy] at hemitted
      rw [declaration]
      cases hdirection : directionOf entity with
      | call => simp
      | callback =>
          simp only [hdirection, handle] at hemitted
          cases haccept : accept store f with
          | error refusal => simp [haccept, Handled.refuse, Handled.report, Verdict.outcome]
              at hemitted
          | ok a => simp

/-- Further methods come behind the members, so every member keeps its place. -/
lemma reportedMembers_extend (entity : Entity) (functions : List Routine) :
    reportedMembers entity <+: reportedMembers (entity.extend [] [] functions) := by
  cases entity with
  | record d =>
      simp only [reportedMembers, Entity.extend, List.append_nil, List.map_append]
      rw [← List.append_assoc]
      exact List.prefix_append _ _
  | protocol d =>
      simp only [reportedMembers, Entity.extend, List.map_append]
      exact List.prefix_append _ _
  | union d => exact List.prefix_rfl

/-! ## Passages -/

/-- The member at a place of the report is reported like this, and declared by these texts, which
are part of the passage. -/
structure Passage.Declares (store : Store) (p : Passage) (place : ℕ) (r : MemberReport)
    (pieces : List String) : Prop where
  reported : p.output.report.members[place]? = some r
  declared : (reportedMembers p.entity)[place]?.map (declaration store p.entity) = some pieces
  stands : ∀ piece ∈ pieces, Stands piece p.output.text

/-- Every member of an entity that has a name is declared as its handling says. -/
lemma declares_emit {id : EntityId} {place : ℕ} {m : Reported} (hname : entity.name ≠ "")
    (hm : (reportedMembers entity)[place]? = some m) :
    Passage.Declares store ⟨id, entity, emit store entity⟩ place
      (handledBy store entity m).report (declaration store entity m) where
  reported := by rw [members_emit hname, List.getElem?_map, hm, Option.map_some]
  declared := by rw [hm, Option.map_some]
  stands := fun _ hpiece => stands_declaration hname (List.mem_of_getElem? hm) hpiece

/-- **What was declared without a remark is declared alike when the store has grown.** -/
lemma declares_grows (h : store.GrowsTo store') {id : EntityId} {place : ℕ} {r : MemberReport}
    (functions : List Routine) (hr : (emit store entity).report.members[place]? = some r)
    (hemitted : r.outcome = .emitted) :
    ∃ pieces, pieces ≠ [] ∧
      Passage.Declares store ⟨id, entity, emit store entity⟩ place r pieces ∧
      Passage.Declares store' ⟨id, entity.extend [] [] functions,
        emit store' (entity.extend [] [] functions)⟩ place r pieces := by
  have hname : entity.name ≠ "" := by
    intro hname
    rw [(report_emit_of_nameless hname).1] at hr
    contradiction
  rw [members_emit hname, List.getElem?_map, Option.map_eq_some_iff] at hr
  obtain ⟨m, hm, rfl⟩ := hr
  have hm' : (reportedMembers (entity.extend [] [] functions))[place]? = some m := by
    obtain ⟨rest, hrest⟩ := reportedMembers_extend entity functions
    rw [← hrest, List.getElem?_append_left (List.getElem?_eq_some_iff.1 hm).1, hm]
  have hname' : (entity.extend [] [] functions).name ≠ "" := by rwa [Entity.name_extend]
  have hlater : Passage.Declares store' ⟨id, entity.extend [] [] functions,
      emit store' (entity.extend [] [] functions)⟩ place
      (handledBy store' (entity.extend [] [] functions) m).report
      (declaration store' (entity.extend [] [] functions) m) := declares_emit hname' hm'
  rw [handledBy_grows h hemitted, declaration_grows h hemitted] at hlater
  exact ⟨declaration store entity m, declaration_ne_nil hemitted, declares_emit hname hm, hlater⟩

/-! ## Runs -/

/-- A list of names leads to the same slots, as the first definition of a name stays the first. -/
lemma wantedIds_grows (h : store.GrowsTo store') (hconsistent : store.Consistent)
    {names : List String} {wanted : List EntityId} (hwanted : wantedIds store names = .ok wanted) :
    wantedIds store' names = .ok wanted := by
  induction names generalizing wanted with
  | nil => exact hwanted
  | cons name names ih =>
      rw [wantedIds] at hwanted
      cases hfind : store.findByName name with
      | none => simp [hfind] at hwanted
      | some id =>
          rw [hfind] at hwanted
          obtain ⟨rest, hrest, rfl⟩ := map_eq_ok_iff.1 hwanted
          rw [wantedIds, h.findByName hconsistent hfind, ih hrest]
          rfl

/-- Every definition is still there, perhaps with further methods. -/
lemma mem_sorted_grows (h : store.GrowsTo store') {p : EntityId × Entity} (hp : p ∈ store.sorted) :
    ∃ functions, (p.1, p.2.extend [] [] functions) ∈ store'.sorted := by
  rw [Store.sorted, List.mem_mergeSort] at hp
  obtain ⟨functions, hgrown⟩ := h.definition p.1 p.2 (Store.mem_definitions.1 hp)
  exact ⟨functions, List.mem_mergeSort.2 (Store.mem_definitions.2 hgrown)⟩

/-- **What was selected is selected**, for every configuration. -/
lemma select_grows (h : store.GrowsTo store') (hconsistent : store.Consistent) {config : Config}
    {selected : List (EntityId × Entity)} (hselected : config.select store = .ok selected) :
    ∃ selected', config.select store' = .ok selected' ∧
      ∀ p ∈ selected, ∃ functions, (p.1, p.2.extend [] [] functions) ∈ selected' := by
  rw [Config.select] at hselected ⊢
  split at hselected
  · rename_i hempty
    cases hselected
    rw [if_pos hempty]
    exact ⟨store'.sorted, rfl, fun p hp => mem_sorted_grows h hp⟩
  · rename_i hnonempty
    obtain ⟨wanted, hwanted, rfl⟩ := map_eq_ok_iff.1 hselected
    rw [if_neg hnonempty, wantedIds_grows h hconsistent hwanted]
    refine ⟨_, rfl, fun p hp => ?_⟩
    obtain ⟨hmem, hkeep⟩ := List.mem_filter.1 hp
    obtain ⟨functions, hgrown⟩ := mem_sorted_grows h hmem
    exact ⟨functions, List.mem_filter.2 ⟨hgrown, hkeep⟩⟩

/-- The run has written these passages, and its report and its file are made of them. -/
structure Generated.Consists (config : Config) (store : Store) (g : Generated)
    (passages : List Passage) : Prop where
  selected : (config.select store).map (passagesOf store) = .ok passages
  report : g.report.entities = passages.map (·.output.report)
  code : g.code = config.file passages (config.functions store)

/-- A run consists of the passages for what it selected. -/
lemma consists_generate {config : Config} {selected : List (EntityId × Entity)}
    (h : config.select store = .ok selected) :
    (generateFrom config store selected).Consists config store (passagesOf store selected) :=
  ⟨by rw [h]; rfl, rfl, rfl⟩

/-- **Loading more only improves what is representable.**  When a loader goes on, with entries that
are loaded or refused and with second passes, Go names and casts stay.  A run that succeeded
succeeds with the same configuration, each of its entities is written again, and each member that
was reported as written is reported so again, at the same place and declared by the same texts. -/
theorem generate_onward {l l' : Loader} (h : l.Reachable) (honward : l.Onward l') :
    (∀ (t : NativeType) (name : String), (t.spelling l.store).name? = some name →
      (t.spelling l'.store).name? = some name) ∧
    (∀ (t : NativeType) (expression native : String),
      t.toNative l.store expression = some native →
        t.toNative l'.store expression = some native) ∧
    (∀ (t : NativeType) (expression host : String), t.toHost l.store expression = some host →
      t.toHost l'.store expression = some host) ∧
    ∀ (config : Config) (g : Generated), generate config l.store = .ok g →
      ∃ g' passages passages', generate config l'.store = .ok g' ∧
        g.Consists config l.store passages ∧ g'.Consists config l'.store passages' ∧
        ∀ p ∈ passages, ∃ p' ∈ passages', p'.id = p.id ∧ p'.entity.head = p.entity.head ∧
          p'.entity.kind = p.entity.kind ∧
          ∀ place r, p.output.report.members[place]? = some r → r.outcome = .emitted →
            ∃ pieces, pieces ≠ [] ∧ p.Declares l.store place r pieces ∧
              p'.Declares l'.store place r pieces := by
  have hgrows := honward.growsTo
  refine ⟨fun t name => NativeType.name?_grows hgrows,
    fun t expression native => NativeType.toNative_grows hgrows,
    fun t expression host => NativeType.toHost_grows hgrows, fun config g hg => ?_⟩
  obtain ⟨selected, hselected, rfl⟩ := map_eq_ok_iff.1 hg
  obtain ⟨selected', hselected', hkept⟩ :=
    select_grows hgrows (Loader.sound_of_reachable h).consistent hselected
  refine ⟨generateFrom config l'.store selected', _, _, ?_, consists_generate hselected,
    consists_generate hselected', fun p hp => ?_⟩
  · rw [generate, hselected']
    rfl
  · obtain ⟨found, hfound, rfl⟩ := List.mem_map.1 hp
    obtain ⟨functions, hmem⟩ := hkept found hfound
    refine ⟨_, List.mem_map_of_mem hmem, rfl, Entity.head_extend _, Entity.kind_extend _, ?_⟩
    intro place r hr hemitted
    exact declares_grows hgrows functions hr hemitted

/-- A loader that knows a view, and of windows only that the view has one. -/
def withView : Loader :=
  (({} : Loader).loadEntry ⟨"v", "NSView", "class"⟩ { sections := [
    { kind := "property", members := [
      { id := "p", kind := "property", name := "window", writable := true
        type := some ⟨"NSWindow", [⟨"w", "NSWindow"⟩]⟩ }] },
    { kind := "public-func", members := [
      { id := "f", kind := "function", name := "frame", definition := "int NSView::frame"
        type := some ⟨"int", []⟩ }] }] }).2

/-- The loader after it has refused a second view and learned what windows are. -/
def withWindow : Loader :=
  ((withView.loadEntry ⟨"v", "NSView", "class"⟩ {}).2.loadEntry ⟨"w", "NSWindow", "class"⟩
    { sections := [{ kind := "public-func", members := [
      { id := "m", kind := "function", name := "hide", definition := "void NSView::hide"
        type := some ⟨"void", []⟩ }] }] }).2.finish

/-- The awaited window gets its name when it is defined, and the method of the view that was written
before is reported in the same place, though the view has got another method. -/
theorem generate_onward_withWindow :
    withView.Reachable ∧ withView.Onward withWindow ∧
      ((NativeType.entity ⟨0⟩).spelling withView.store).name? = none ∧
      ((NativeType.entity ⟨0⟩).spelling withWindow.store).name? = some "NSWindow" ∧
      ((NativeType.entity ⟨1⟩).spelling withWindow.store).name? = some "NSView" ∧
      ∃ g', generate {} withWindow.store = .ok g' ∧
        ∃ report ∈ g'.report.entities, report.members[1]? = some ⟨"frame", .emitted⟩ := by
  have hreachable : withView.Reachable := .loadEntry _ _ (.fresh #[])
  have honward : withView.Onward withWindow := .finish (.loadEntry _ _ (.loadEntry _ _ .refl))
  obtain ⟨hnames, _, _, hruns⟩ := generate_onward hreachable honward
  have hsorted : withView.store.sorted = withView.store.definitions :=
    List.mergeSort_of_pairwise (by decide +kernel)
  obtain ⟨g', passages, passages', hg', hpassages, hpassages', hkept⟩ := hruns {} _ rfl
  have hframe : ∃ p ∈ passages, p.output.report.members[1]? = some ⟨"frame", .emitted⟩ := by
    rw [← Except.ok.inj hpassages.selected, hsorted]
    decide +kernel
  obtain ⟨p, hp, hmember⟩ := hframe
  obtain ⟨p', hp', _, _, _, hdeclared⟩ := hkept p hp
  obtain ⟨pieces, _, _, hdeclares⟩ := hdeclared 1 _ hmember rfl
  refine ⟨hreachable, honward, by decide +kernel, by decide +kernel, ?_, g', hg', ?_⟩
  · exact hnames (.entity ⟨1⟩) "NSView" (by decide +kernel)
  · rw [hpassages'.report]
    exact ⟨_, List.mem_map_of_mem hp', hdeclares.reported⟩

end Output

end FrameworkBindings
