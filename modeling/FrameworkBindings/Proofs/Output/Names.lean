import FrameworkBindings.Loading.Loader
import FrameworkBindings.Proofs.Output.Declared
import FrameworkBindings.Proofs.Text.Conversions

/-!
# Names that are declared once

The names in the generated file are made of names in the documentation, and the making loses what
tells these apart.  Only free functions are looked after: of two with one Go name the second is left
out.

* `NamesApart` — which names of a run have to differ for each to be declared once.  The others
  differ anyway: two free functions (`nodup_stubNames`), two constructors, two structs that forward,
  and a struct that forwards from a constructor and from a free function.
* **`declaredOnce_iff`** — the file holds its declarations, and `NamesApart` is just what keeps them
  from taking a name twice.
* `declared_twice` — a class whose methods take one name twice.

**Two scopes.**  A Go file has the names of the package, and for each type the names of its methods.
Class methods are functions of the package, with the name of the class in front, so they meet types
and free functions; other methods meet only the methods of the same type.

**How it is proved.**  The names that entities take in the package are listed by the sorts of
declarations (`perm_packageNames`), and a list that is made of several is free of repetitions if
each is and no two of them meet.  What cannot meet is told by the first letters.  The methods are
looked at type by type, which is enough because types have different names by then
(`nodup_methods_iff`).
-/

namespace FrameworkBindings.Output

/-! ## The names of a run -/

/-- The Go name of the wrapper of a class. -/
def wrapperNames : Entity → List String
  | .record d => d.head.hostName.toList
  | .protocol _ | .union _ => []

/-- The Go name of the interface of a protocol, none for other entities. -/
def interfaceNames : Entity → List String
  | .protocol d => d.head.hostName.toList
  | .record _ | .union _ => []

/-- The Go names of the class methods of an entity: functions of the package, which begin with the
name of the class. -/
def functionNames (store : Store) (entity : Entity) : List String :=
  (wrapperNames entity).flatMap fun type =>
    ((keptMembers store entity).filter (·.isClassMethod)).map (type ++ ·.goName)

/-- The Go names of the constructors of a wrapper, from an object or new. -/
def constructorNames (type : String) : List String := ["New" ++ type, "As" ++ type]

/-- The Go name of the struct that forwards to an interface.  It is not exported. -/
def forwarderName (type : String) : String := "go" ++ type

/-- The Go names of the methods of the type for an entity.  An interface asks for one more, by which
it is told its object. -/
def methodNames (store : Store) : Entity → List String
  | .record d => ((keptMembers store (.record d)).filter (!·.isClassMethod)).map Reported.goName
  | .protocol d => "SetObjcRef" :: (acceptedMethods store d.methods).map Accepted.goName
  | .union _ => []

/-- The Go names of types and class methods. -/
def sourceNames (store : Store) (entities : List Entity) : List String :=
  entities.flatMap wrapperNames ++ entities.flatMap interfaceNames
    ++ entities.flatMap (functionNames store)

/-- The names of entities and members, and the Go names of free functions, are far enough apart for
the names that are made of them. -/
structure NamesApart (store : Store) (entities : List Entity) (functions : List String) : Prop where
  /-- Types and class methods have names of their own. -/
  sources : (sourceNames store entities).Nodup
  /-- No free function is called like one of them. -/
  free : ∀ name ∈ functions, name ∉ sourceNames store entities
  /-- None of all these is called like a constructor. -/
  constructors : ∀ name ∈ (entities.flatMap wrapperNames).flatMap constructorNames,
    name ∉ sourceNames store entities ++ functions
  /-- No type and no class method is called like a struct that forwards. -/
  forwarders : ∀ name ∈ (entities.flatMap interfaceNames).map forwarderName,
    name ∉ sourceNames store entities
  /-- The methods of a type have names of their own. -/
  methods : ∀ entity ∈ entities, entity.name ≠ "" → (methodNames store entity).Nodup

instance (store : Store) (entities : List Entity) (functions : List String) :
    Decidable (NamesApart store entities functions) :=
  decidable_of_iff
    ((sourceNames store entities).Nodup ∧
      (∀ name ∈ functions, name ∉ sourceNames store entities) ∧
      (∀ name ∈ (entities.flatMap wrapperNames).flatMap constructorNames,
        name ∉ sourceNames store entities ++ functions) ∧
      (∀ name ∈ (entities.flatMap interfaceNames).map forwarderName,
        name ∉ sourceNames store entities) ∧
      ∀ entity ∈ entities, entity.name ≠ "" → (methodNames store entity).Nodup)
    ⟨fun ⟨sources, free, constructors, forwarders, methods⟩ =>
      { sources, free, constructors, forwarders, methods },
      fun h => ⟨h.sources, h.free, h.constructors, h.forwarders, h.methods⟩⟩

/-! ## Names of the package -/

variable {store : Store}

/-- Of the members of a class the class methods take names in the package. -/
lemma packageNames_members (type : String) (members : List Reported) :
    (members.map (Reported.declared type)).filterMap Declared.packageName? =
      (members.filter (·.isClassMethod)).map (type ++ ·.goName) := by
  induction members with
  | nil => rfl
  | cons m members ih =>
      cases hclass : m.isClassMethod <;>
        simp [Reported.declared, Declared.packageName?, List.filterMap_cons, hclass, ih]

/-- The names that an entity takes in the package. -/
lemma packageNames_declaredBy (entity : Entity) :
    (declaredBy store entity).filterMap Declared.packageName? =
      wrapperNames entity ++ (wrapperNames entity).flatMap constructorNames
        ++ interfaceNames entity ++ (interfaceNames entity).map forwarderName
        ++ functionNames store entity := by
  cases entity with
  | record d =>
      rw [declaredBy, functionNames, wrapperNames, interfaceNames]
      cases d.head.hostName with
      | none => rfl
      | some type =>
          have hmembers := packageNames_members type (keptMembers store (.record d))
          simp only [Option.elim_some, wrapperDeclared, List.filterMap_append, hmembers]
          simp [Declared.packageName?, constructorNames]
  | protocol d =>
      rw [declaredBy, functionNames, wrapperNames, interfaceNames]
      cases d.head.hostName with
      | none => rfl
      | some type =>
          simp [interfaceDeclared, List.filterMap_append, List.filterMap_cons, Function.comp_def,
            Declared.packageName?, forwarderName]
  | union d => rfl

/-- The names that entities take in the package, by the sorts of declarations. -/
lemma perm_packageNames (entities : List Entity) :
    ((entities.flatMap (declaredBy store)).filterMap Declared.packageName?).Perm
      (sourceNames store entities ++ (entities.flatMap wrapperNames).flatMap constructorNames
        ++ (entities.flatMap interfaceNames).map forwarderName) := by
  rw [List.perm_iff_count]
  intro name
  induction entities with
  | nil => rfl
  | cons entity entities ih =>
      simp only [sourceNames, List.flatMap_cons, List.filterMap_append, packageNames_declaredBy,
        List.flatMap_append, List.map_append, List.count_append] at ih ⊢
      omega

lemma nodup_constructorNames {types : List String} (h : types.Nodup) :
    (types.flatMap constructorNames).Nodup := by
  refine List.nodup_flatMap.2 ⟨fun type _ => ?_, h.imp fun hne name hname hother => ?_⟩
  · simp [constructorNames, ← String.toList_inj]
  · simp only [constructorNames, List.mem_cons, List.not_mem_nil, or_false] at hname hother
    rcases hname with rfl | rfl <;> simp_all [← String.toList_inj]

lemma nodup_forwarderNames {types : List String} (h : types.Nodup) :
    (types.map forwarderName).Nodup := by
  refine h.map fun type other hsame => ?_
  simpa [forwarderName, ← String.toList_inj] using hsame

/-- Constructors and structs that forward begin differently, the ones with a capital. -/
lemma disjoint_constructors_forwarders (types others : List String) :
    (types.flatMap constructorNames).Disjoint (others.map forwarderName) := by
  intro name hname hother
  obtain ⟨type, _, hname⟩ := List.mem_flatMap.1 hname
  obtain ⟨other, _, rfl⟩ := List.mem_map.1 hother
  simp [constructorNames, forwarderName, ← String.toList_inj] at hname

/-- Free functions are exported, and structs that forward are not. -/
lemma disjoint_functions_forwarders (functions : List Handled) (types : List String) :
    (stubNames functions).Disjoint (types.map forwarderName) := by
  intro name hname hforwarder
  obtain ⟨h, _, rfl⟩ := List.mem_map.1 hname
  obtain ⟨type, _, hsame⟩ := List.mem_map.1 hforwarder
  have hlower := Identifier.isLower_head_exported h.name 'g' (by
    rw [← hsame, forwarderName, String.toList_append]
    rfl)
  exact absurd hlower (by decide)

/-- A stub goes by the name of its function. -/
lemma name_stub (taken : List String) (f : Routine) : (stub store taken f).name = f.name := by
  simp only [stub]
  split
  · rfl
  · split <;> rfl

/-- A free function that is written has a name that is not taken. -/
lemma not_mem_of_isWritten {taken : List String} {f : Routine}
    (h : (stub store taken f).report.outcome.isWritten = true) :
    Identifier.exported f.name ∉ taken := by
  simp only [stub] at h
  split at h
  · contradiction
  · rename_i htaken
    rwa [List.contains_iff_mem] at htaken

lemma stubNames_cons_of_pos {h : Handled} {functions : List Handled}
    (hwritten : h.report.outcome.isWritten = true) :
    stubNames (h :: functions) = Identifier.exported h.name :: stubNames functions := by
  simp [stubNames, hwritten]

lemma stubNames_cons_of_neg {h : Handled} {functions : List Handled}
    (hwritten : h.report.outcome.isWritten = false) :
    stubNames (h :: functions) = stubNames functions := by
  simp [stubNames, hwritten]

/-- What is written has names of its own, none of them taken before. -/
lemma nodup_stubsFrom (taken : List String) (functions : List Routine) :
    (stubNames (stubsFrom store taken functions)).Nodup ∧
      (stubNames (stubsFrom store taken functions)).Disjoint taken := by
  induction functions generalizing taken with
  | nil => simp [stubsFrom, stubNames]
  | cons f functions ih =>
      obtain ⟨hnodup, hdisjoint⟩ := ih (Identifier.exported f.name :: taken)
      obtain ⟨_, hrest⟩ := List.disjoint_cons_right.1 hdisjoint
      cases hwritten : (stub store taken f).report.outcome.isWritten with
      | true =>
          rw [stubsFrom, stubNames_cons_of_pos hwritten, name_stub]
          exact ⟨List.nodup_cons.2 ⟨fun hmem => hdisjoint hmem List.mem_cons_self, hnodup⟩,
            List.disjoint_cons_left.2 ⟨not_mem_of_isWritten hwritten, hrest⟩⟩
      | false =>
          rw [stubsFrom, stubNames_cons_of_neg hwritten]
          exact ⟨hnodup, hrest⟩

/-- Of the free functions no two have one name. -/
lemma nodup_stubNames (config : Config) : (stubNames (config.functions store)).Nodup := by
  rw [Config.functions]
  split
  · exact (nodup_stubsFrom [] _).1
  · exact List.nodup_nil

/-! ## Names of methods -/

/-- The members of a class that are no class methods are methods of its wrapper. -/
lemma methodNames_members (type other : String) (members : List Reported) :
    (members.map (Reported.declared type)).filterMap (Declared.methodName? other) =
      if type = other then (members.filter (!·.isClassMethod)).map Reported.goName else [] := by
  induction members with
  | nil => simp
  | cons m members ih =>
      cases hclass : m.isClassMethod <;> by_cases hother : type = other <;>
        simp_all [Reported.declared, Declared.methodName?, List.filterMap_cons]

/-- What is declared for one type is declared for no other. -/
lemma methodNames_map {type other : String} (declare : String → Declared)
    (h : ∀ name, (declare name).methodName? other = if type = other then some name else none)
    (methods : List String) :
    (methods.map declare).filterMap (Declared.methodName? other) =
      if type = other then methods else [] := by
  rw [List.filterMap_map, Function.comp_def]
  simp only [h]
  split <;> simp

/-- The methods that a class declares for a type: those of its wrapper. -/
lemma methodNames_record {d : RecordDef} {type : String} (htype : d.head.hostName = some type)
    (other : String) :
    (declaredBy store (.record d)).filterMap (Declared.methodName? other) =
      if type = other then methodNames store (.record d) else [] := by
  simp only [declaredBy, htype, Option.elim_some, wrapperDeclared, List.filterMap_append,
    methodNames_members, methodNames]
  rfl

/-- The methods that a protocol declares for a type: those of its interface, and those of the struct
that forwards. -/
lemma methodNames_protocol {d : ProtocolDef} {type : String} (htype : d.head.hostName = some type)
    (other : String) :
    (declaredBy store (.protocol d)).filterMap (Declared.methodName? other) =
      (if type = other then methodNames store (.protocol d) else []) ++
        if forwarderName type = other then (acceptedMethods store d.methods).map Accepted.goName
        else [] := by
  have hrequired := methodNames_map (Declared.requirement type) fun name =>
    show _ = if type = other then some name else none from rfl
  have hforwarded := methodNames_map (Declared.method (forwarderName type)) fun name =>
    show _ = if forwarderName type = other then some name else none from rfl
  rw [forwarderName] at hforwarded ⊢
  simp only [declaredBy, htype, Option.elim_some, interfaceDeclared, List.filterMap_append,
    List.filterMap_cons, Declared.methodName?, hrequired, hforwarded, methodNames]
  by_cases hother : type = other <;> simp [hother]

/-- A method is declared for a type of the same entity. -/
lemma mem_packageNames_of_mem_methodNames {entity : Entity} {type name : String}
    (h : name ∈ (declaredBy store entity).filterMap (Declared.methodName? type)) :
    type ∈ (declaredBy store entity).filterMap Declared.packageName? := by
  rw [packageNames_declaredBy]
  cases entity with
  | record d =>
      cases htype : d.head.hostName with
      | none => simp [declaredBy, htype] at h
      | some own =>
          rw [methodNames_record htype, List.mem_ite_nil_right] at h
          obtain ⟨rfl, _⟩ := h
          simp [wrapperNames, htype]
  | protocol d =>
      cases htype : d.head.hostName with
      | none => simp [declaredBy, htype] at h
      | some own =>
          rw [methodNames_protocol htype, List.mem_append, List.mem_ite_nil_right,
            List.mem_ite_nil_right] at h
          rcases h with ⟨rfl, _⟩ | ⟨rfl, _⟩ <;> simp [interfaceNames, htype]
  | union d => contradiction

/-- What has a Go name has a name, so it is not left out. -/
lemma name_ne_of_hostName {head : Declaration} {type : String} (h : head.hostName = some type) :
    head.name ≠ "" := by
  intro hname
  rw [Declaration.hostName_eq_none_iff.2 hname] at h
  contradiction

/-- A struct that forwards is another type than its interface. -/
lemma forwarderName_ne (type : String) : forwarderName type ≠ type := by
  intro hsame
  have hlength := congrArg String.length hsame
  simp [forwarderName] at hlength

/-- An entity declares each method once just if its names are apart. -/
lemma nodup_methodNames_iff (entity : Entity) :
    (∀ type, ((declaredBy store entity).filterMap (Declared.methodName? type)).Nodup) ↔
      (entity.name ≠ "" → (methodNames store entity).Nodup) := by
  cases entity with
  | record d =>
      cases htype : d.head.hostName with
      | none =>
          have hname : (Entity.record d).name = "" := Declaration.hostName_eq_none_iff.1 htype
          simp [declaredBy, htype, hname]
      | some own =>
          simp only [methodNames_record htype]
          refine ⟨fun h _ => ?_, fun h other => ?_⟩
          · simpa using h own
          · split
            · exact h (name_ne_of_hostName htype)
            · exact List.nodup_nil
  | protocol d =>
      cases htype : d.head.hostName with
      | none =>
          have hname : (Entity.protocol d).name = "" := Declaration.hostName_eq_none_iff.1 htype
          simp [declaredBy, htype, hname]
      | some own =>
          simp only [methodNames_protocol htype]
          refine ⟨fun h _ => ?_, fun h other => ?_⟩
          · have hown := (h own).of_append_left
            rwa [if_pos rfl] at hown
          · have hrequired := h (name_ne_of_hostName htype)
            have hforwarded := (List.nodup_cons.1 hrequired).2
            by_cases hother : own = other
            · rw [if_pos hother, if_neg (hother ▸ forwarderName_ne own), List.append_nil]
              exact hrequired
            · rw [if_neg hother, List.nil_append]
              split
              · exact hforwarded
              · exact List.nodup_nil
  | union d => simp [declaredBy, methodNames]

/-! ## Names of a run -/

/-- The package has each name once just if the names that can meet do not. -/
lemma nodup_package_iff (store : Store) (entities : List Entity) (config : Config) :
    ((entities.flatMap (declaredBy store)).filterMap Declared.packageName?
        ++ stubNames (config.functions store)).Nodup ↔
      (sourceNames store entities).Nodup ∧
        (stubNames (config.functions store)).Disjoint (sourceNames store entities) ∧
        ((entities.flatMap wrapperNames).flatMap constructorNames).Disjoint
          (sourceNames store entities ++ stubNames (config.functions store)) ∧
        ((entities.flatMap interfaceNames).map forwarderName).Disjoint
          (sourceNames store entities) := by
  have hstubs : (stubNames (config.functions store)).Nodup := nodup_stubNames config
  have hforwarders := disjoint_functions_forwarders (config.functions store)
    (entities.flatMap interfaceNames)
  have hmade := disjoint_constructors_forwarders (entities.flatMap wrapperNames)
    (entities.flatMap interfaceNames)
  have hconstructors : (sourceNames store entities).Nodup →
      ((entities.flatMap wrapperNames).flatMap constructorNames).Nodup := fun h =>
    nodup_constructorNames h.of_append_left.of_append_left
  have hforward : (sourceNames store entities).Nodup →
      ((entities.flatMap interfaceNames).map forwarderName).Nodup := fun h =>
    nodup_forwarderNames h.of_append_left.of_append_right
  rw [((perm_packageNames entities).append_right _).nodup_iff]
  generalize sourceNames store entities = sources at *
  generalize stubNames (config.functions store) = functions at *
  generalize (entities.flatMap wrapperNames).flatMap constructorNames = constructors at *
  generalize (entities.flatMap interfaceNames).map forwarderName = forwarders at *
  simp only [List.nodup_append', List.disjoint_append_left, List.disjoint_append_right]
  have hsymm : ∀ names others : List String, names.Disjoint others ↔ others.Disjoint names :=
    fun _ _ => List.disjoint_comm
  grind

/-- The methods of a run are declared once just if those of each entity are, provided that the types
are. -/
lemma nodup_methods_iff {entities : List Entity}
    (h : ((entities.flatMap (declaredBy store)).filterMap Declared.packageName?).Nodup) :
    (∀ type, ((entities.flatMap (declaredBy store)).filterMap (Declared.methodName? type)).Nodup) ↔
      ∀ entity ∈ entities, entity.name ≠ "" → (methodNames store entity).Nodup := by
  rw [List.filterMap_flatMap, List.nodup_flatMap] at h
  simp only [List.filterMap_flatMap, List.nodup_flatMap]
  refine ⟨fun hmethods entity hentity => ?_, fun hmethods type => ⟨fun entity hentity => ?_, ?_⟩⟩
  · exact (nodup_methodNames_iff entity).1 fun type => (hmethods type).1 entity hentity
  · exact (nodup_methodNames_iff entity).2 (hmethods entity hentity) type
  · refine h.2.imp fun hdisjoint name hname hother => ?_
    exact hdisjoint (mem_packageNames_of_mem_methodNames hname)
      (mem_packageNames_of_mem_methodNames hother)

/-- The file declares no name twice just if the names of the run are apart. -/
lemma declaredOnce_declared_iff (config : Config) (selected : List (EntityId × Entity)) :
    DeclaredOnce (config.declared store selected) ↔
      NamesApart store (selected.map (·.2)) (stubNames (config.functions store)) := by
  have hpackage : (config.declared store selected).filterMap Declared.packageName? =
      ((selected.map (·.2)).flatMap (declaredBy store)).filterMap Declared.packageName?
        ++ stubNames (config.functions store) := by
    simp [Config.declared, List.flatMap_map, Function.comp_def, Declared.packageName?]
  have hmethods : ∀ type, (config.declared store selected).filterMap (Declared.methodName? type) =
      ((selected.map (·.2)).flatMap (declaredBy store)).filterMap (Declared.methodName? type) := by
    simp [Config.declared, List.flatMap_map, Function.comp_def, Declared.methodName?]
  have hpackageIff := nodup_package_iff store (selected.map (·.2)) config
  constructor
  · rintro ⟨hnames, hscopes⟩
    simp only [hpackage, hmethods] at hnames hscopes
    obtain ⟨hsources, hfree, hconstructors, hforwarders⟩ := hpackageIff.1 hnames
    exact ⟨hsources, hfree, hconstructors, hforwarders,
      (nodup_methods_iff hnames.of_append_left).1 hscopes⟩
  · rintro ⟨hsources, hfree, hconstructors, hforwarders, hscopes⟩
    have hnames := hpackageIff.2 ⟨hsources, hfree, hconstructors, hforwarders⟩
    refine ⟨by rwa [hpackage], fun type => ?_⟩
    rw [hmethods]
    exact (nodup_methods_iff hnames.of_append_left).2 hscopes type

/-- **The file declares no name twice just if the names of the run are apart.**  It holds its
declarations one behind the other, and whether one of their names is taken twice in a scope is
decided by the names of types, class methods, free functions and members of each type. -/
theorem declaredOnce_iff {config : Config} {store : Store} {g : Generated}
    (h : generate config store = .ok g) :
    ∃ selected, config.select store = .ok selected ∧
      StandInOrder ((config.declared store selected).map Declared.opening) g.code ∧
      (DeclaredOnce (config.declared store selected) ↔
        NamesApart store (selected.map (·.2)) (stubNames (config.functions store))) := by
  obtain ⟨selected, hselected, rfl⟩ := map_eq_ok_iff.1 h
  exact ⟨selected, hselected, standInOrder_file config store selected,
    declaredOnce_declared_iff config selected⟩

/-- A store with a free function that is left out since its name is taken, and with a protocol and a
class whose names come close to each other. -/
def delegates : Store :=
  ([(⟨"f", "NSView.h", "file"⟩, { sections := [{ kind := "func", members := [
      { id := "b", kind := "function", name := "NSBeep", definition := "void NSBeep"
        type := some ⟨"void", []⟩ },
      { id := "c", kind := "function", name := "nSBeep", definition := "void nSBeep"
        type := some ⟨"void", []⟩ }] }] }),
    (⟨"p", "NSMenuDelegate", "protocol"⟩, { sections := [{ kind := "public-func", members := [
      { id := "m", kind := "function", name := "title"
        definition := "void NSMenuDelegate::title" },
      { id := "n", kind := "function", name := "title:size:"
        definition := "void NSMenuDelegate::title:size:" }] }] }),
    (⟨"v", "NSView", "class"⟩, { sections := [
      { kind := "property", members := [
        { id := "t", kind := "property", name := "title", writable := true
          type := some ⟨"int", []⟩ }] },
      { kind := "public-func", members := [
        { id := "s", kind := "function", name := "setTitle:"
          definition := "void NSView::setTitle:" }] },
      { kind := "public-static-func", members := [
        { id := "w", kind := "function", name := "focusView"
          definition := "void NSView::focusView" }] }] })].foldl
    (fun (l : Loader) (d : Document.IndexEntry × Document.Compound) => (l.loadEntry d.1 d.2).2)
    {}).store

/-- Names that come close and do not meet: a protocol and its struct, a class with its constructors
and a class method, and one of two functions. -/
theorem declaredOnce_iff_delegates :
    ∃ g selected, generate {} delegates = .ok g ∧
      Config.select {} delegates = .ok selected ∧
      (Config.declared {} delegates selected).filterMap Declared.packageName? =
        ["NSMenuDelegate", "goNSMenuDelegate", "NSView", "NewNSView", "AsNSView",
          "NSViewFocusView", "NSBeep"] ∧
      DeclaredOnce (Config.declared {} delegates selected) := by
  have hordered : (delegates.definitions.Pairwise fun p q => Store.entityLe p q = true) ∧
      delegates.functions.Pairwise fun f g => Store.textLe f.name g.name = true := by
    decide +kernel
  have hsorted : delegates.sorted = delegates.definitions := List.mergeSort_of_pairwise hordered.1
  have hfunctions : Config.functions {} delegates = stubsFrom delegates [] delegates.functions :=
    congrArg (stubsFrom delegates []) (List.mergeSort_of_pairwise hordered.2)
  have hgenerate : generate {} delegates = .ok (generateFrom {} delegates delegates.sorted) := rfl
  obtain ⟨selected, hselected, _, honce⟩ := declaredOnce_iff hgenerate
  obtain rfl : delegates.sorted = selected := Except.ok.inj hselected
  have hnames : (Config.declared {} delegates delegates.sorted).filterMap Declared.packageName? =
      ["NSMenuDelegate", "goNSMenuDelegate", "NSView", "NewNSView", "AsNSView",
        "NSViewFocusView", "NSBeep"] ∧
      NamesApart delegates (delegates.sorted.map (·.2))
        (stubNames (Config.functions {} delegates)) := by
    rw [Config.declared, hfunctions, hsorted]
    decide +kernel
  exact ⟨_, _, rfl, hselected, hnames.1, honce.2 hnames.2⟩

/-- A class with two methods that the first letter tells apart. -/
def titles : Document.Compound where
  sections := [{ kind := "public-func", members := [
    { id := "a", kind := "function", name := "title", definition := "void NSView::title"
      type := some ⟨"void", []⟩ },
    { id := "b", kind := "function", name := "Title", definition := "void NSView::Title"
      type := some ⟨"void", []⟩ }] }]

/-- Nothing keeps the two methods from taking one name, as it keeps two free functions.  The class
was loaded from a document without a complaint. -/
theorem declared_twice :
    let loaded := ({} : Loader).loadEntry ⟨"v", "NSView", "class"⟩ titles
    let store := loaded.2.finish.store
    loaded.1 = .ok () ∧ ∃ g, generate {} store = .ok g ∧
      StandInOrder ["type NSView struct \x7b", "func NewNSView(", "func AsNSView(",
        "func (o NSView) Title(", "func (o NSView) Title("] g.code ∧
      ∃ selected, Config.select {} store = .ok selected ∧
        ¬ DeclaredOnce (Config.declared {} store selected) := by
  intro loaded store
  have hopenings : (Config.declared {} store store.sorted).map Declared.opening =
      ["type NSView struct \x7b", "func NewNSView(", "func AsNSView(",
        "func (o NSView) Title(", "func (o NSView) Title("] := by decide +kernel
  have hmethods : (Config.declared {} store store.sorted).filterMap
      (Declared.methodName? "NSView") = ["Title", "Title"] := by decide +kernel
  refine ⟨by decide +kernel, _, rfl, ?_, _, rfl, fun honce => ?_⟩
  · rw [← hopenings]
    exact standInOrder_file {} store store.sorted
  · have hnodup := honce.methods "NSView"
    rw [hmethods] at hnodup
    exact absurd hnodup (by decide)

end FrameworkBindings.Output
