import FrameworkBindings.Proofs.Output.Pieces

/-!
# What the file declares

The generated file declares types, functions of the package, methods with a body and methods that an
interface asks for.  `declaredBy` lists the declarations for an entity and `Config.declared` those
of a whole run, in the order of the text.

* `Declared` — a declaration, with the name it takes (`packageName?`, `methodName?`) and the text it
  begins with (`opening`).
* `StandInOrder` — texts that stand in a text one behind the other.
* `DeclaredOnce` — no name is taken twice, in the package or among the methods of one type.
* **`standInOrder_file`** — the file holds its declarations in order.

**Why the order.**  The list of declarations is made by functions of its own, next to those that
write the text.  To say of the file that a name is declared twice, it has to be known that two
declarations in the list are two places in the text.  Parts that overlap, or one part for both,
would not do: the next piece is looked for behind the one before.

**How it is proved.**  Each text that the generator writes holds its declarations in order, and
texts put behind each other hold the lists put behind each other (`StandInOrder.append`,
`StandInOrder.join`).  Lines are passed over or taken one at a time (`StandInOrder.skip`,
`StandInOrder.take`).
-/

namespace FrameworkBindings.Output

/-! ## Declarations -/

/-- A declaration of a Go file, with the name that it declares and the type it is declared for. -/
inductive Declared where
  | struct (name : String)
  | interface (name : String)
  | function (name : String)
  /-- A function with a receiver. -/
  | method (type name : String)
  /-- A method that an interface asks for. -/
  | requirement (type name : String)
deriving DecidableEq

namespace Declared

/-- The name that is declared in the package. -/
def packageName? : Declared → Option String
  | struct name | interface name | function name => some name
  | method _ _ | requirement _ _ => none

/-- The name that is declared among the methods of a type. -/
def methodName? (type : String) : Declared → Option String
  | method other name | requirement other name => if other = type then some name else none
  | struct _ | interface _ | function _ => none

/-- The text that the declaration begins with. -/
def opening : Declared → String
  | struct name => "type " ++ name ++ " struct \x7b"
  | interface name => "type " ++ name ++ " interface \x7b"
  | function name => "func " ++ name ++ "("
  | method type name => "func (o " ++ type ++ ") " ++ name ++ "("
  | requirement _ name => "\t" ++ name ++ "("

end Declared

/-- **No name is declared twice in one scope**: not in the package, and not among the methods of a
type or an interface. -/
structure DeclaredOnce (declared : List Declared) : Prop where
  package : (declared.filterMap Declared.packageName?).Nodup
  methods : ∀ type, (declared.filterMap (Declared.methodName? type)).Nodup

/-- The members of an entity that are in the output, with a remark or without. -/
def keptMembers (store : Store) (entity : Entity) : List Reported :=
  (reportedMembers entity).filter (isKept store entity)

namespace Reported

/-- Class methods become functions of the package. -/
def isClassMethod : Reported → Bool
  | property _ => false
  | method f => f.isStatic

/-- The Go name of a member of a class, without the name of the class in front of it. -/
def goName : Reported → String
  | property p => "Set" ++ Identifier.exported p.name
  | method f => Identifier.methodName f.name

/-- How a member of the class is declared. -/
def declared (type : String) (m : Reported) : Declared :=
  if m.isClassMethod then .function (type ++ m.goName) else .method type m.goName

end Reported

/-- The declarations for a class: its struct, two constructors and its members. -/
def wrapperDeclared (type : String) (members : List Reported) : List Declared :=
  [.struct type, .function ("New" ++ type), .function ("As" ++ type)]
    ++ members.map (Reported.declared type)

/-- The declarations for a protocol: its interface with the methods it asks for, and the struct that
forwards with its methods. -/
def interfaceDeclared (type : String) (methods : List String) : List Declared :=
  .interface type :: .requirement type "SetObjcRef" :: methods.map (.requirement type)
    ++ .struct ("go" ++ type) :: methods.map (.method ("go" ++ type))

/-- The declarations for an entity that has a name, in the order in which its text makes them. -/
def declaredBy (store : Store) : Entity → List Declared
  | .record d =>
    d.head.hostName.elim [] fun type => wrapperDeclared type (keptMembers store (.record d))
  | .protocol d =>
    d.head.hostName.elim [] fun type =>
      interfaceDeclared type ((acceptedMethods store d.methods).map Accepted.goName)
  | .union _ => []

/-- The Go names of the free functions that are written. -/
def stubNames (functions : List Handled) : List String :=
  (functions.filter (·.report.outcome.isWritten)).map fun h => Identifier.exported h.name

/-- The declarations of a run: those of the entities that it selected, then the free functions. -/
def Config.declared (config : Config) (store : Store) (selected : List (EntityId × Entity)) :
    List Declared :=
  selected.flatMap (fun found => declaredBy store found.2)
    ++ (stubNames (config.functions store)).map .function

/-! ## Texts one behind the other -/

/-- The line begins with the piece; what follows it is open. -/
def Begins (piece line : String) : Prop := ∃ rest, line = piece ++ rest

namespace Begins

variable {piece line : String}

lemma refl (piece : String) : Begins piece piece := ⟨"", by simp⟩

lemma append (h : Begins piece line) (more : String) : Begins piece (line ++ more) := by
  obtain ⟨rest, rfl⟩ := h
  exact ⟨rest ++ more, String.append_assoc ..⟩

lemma behind (h : Begins piece line) (before : String) :
    Begins (before ++ piece) (before ++ line) := by
  obtain ⟨rest, rfl⟩ := h
  exact ⟨rest, (String.append_assoc ..).symm⟩

lemma trans {longer : String} (h : Begins piece line) (h' : Begins line longer) :
    Begins piece longer := by
  obtain ⟨rest, rfl⟩ := h'
  exact h.append rest

end Begins

/-- The pieces stand in the text one behind the other, and no two of them overlap. -/
def StandInOrder : List String → String → Prop
  | [], _ => True
  | piece :: pieces, text =>
    ∃ before after, text = before ++ piece ++ after ∧ StandInOrder pieces after

namespace StandInOrder

variable {pieces others : List String} {text : String}

lemma later (h : StandInOrder pieces text) (before : String) :
    StandInOrder pieces (before ++ text) := by
  cases pieces with
  | nil => trivial
  | cons piece pieces =>
      obtain ⟨first, after, rfl, hafter⟩ := h
      exact ⟨before ++ first, after, by simp only [String.append_assoc], hafter⟩

/-- Each of the pieces stands in the text, somewhere behind those before it. -/
lemma stands (h : StandInOrder pieces text) {piece : String} (hpiece : piece ∈ pieces) :
    Stands piece text := by
  induction pieces generalizing text with
  | nil => contradiction
  | cons first pieces ih =>
      obtain ⟨before, after, rfl, hafter⟩ := h
      rcases List.mem_cons.1 hpiece with rfl | hpiece
      · exact ⟨before, after, rfl⟩
      · exact (ih hafter hpiece).append_left _

lemma append {following : String} (h : StandInOrder pieces text)
    (h' : StandInOrder others following) : StandInOrder (pieces ++ others) (text ++ following) := by
  induction pieces generalizing text with
  | nil => exact h'.later text
  | cons piece pieces ih =>
      obtain ⟨before, after, rfl, hafter⟩ := h
      exact ⟨before, after ++ following, by simp only [String.append_assoc], ih hafter⟩

lemma earlier (h : StandInOrder pieces text) (after : String) :
    StandInOrder pieces (text ++ after) := by
  have hboth : StandInOrder (pieces ++ []) (text ++ after) := h.append trivial
  rwa [List.append_nil] at hboth

/-- Texts that are joined, each with pieces of its own. -/
lemma join {α : Type} {xs : List α} {pieces : α → List String} {text : α → String}
    (h : ∀ x ∈ xs, StandInOrder (pieces x) (text x)) :
    StandInOrder (xs.flatMap pieces) (String.join (xs.map text)) := by
  induction xs with
  | nil => trivial
  | cons x xs ih =>
      rw [List.flatMap_cons, List.map_cons, String.join_cons]
      exact (h x (by simp)).append (ih fun y hy => h y (by simp [hy]))

/-- Texts that are joined, some of them with a piece. -/
lemma join_filter {α : Type} {xs : List α} {keep : α → Bool} {piece text : α → String}
    (h : ∀ x ∈ xs, keep x = true → StandInOrder [piece x] (text x)) :
    StandInOrder ((xs.filter keep).map piece) (String.join (xs.map text)) := by
  induction xs with
  | nil => trivial
  | cons x xs ih =>
      have hrest := ih fun y hy => h y (by simp [hy])
      rw [List.map_cons, String.join_cons]
      cases hkeep : keep x with
      | true =>
          rw [List.filter_cons_of_pos hkeep]
          exact (h x (by simp) hkeep).append hrest
      | false =>
          rw [List.filter_cons_of_neg (by simp [hkeep])]
          exact hrest.later _

/-- A line that is passed over leaves the pieces to the lines behind it. -/
lemma skip {lines : List String} (line : String) (h : StandInOrder pieces (unlines lines)) :
    StandInOrder pieces (unlines (line :: lines)) := by
  rw [unlines, List.map_cons, String.join_cons]
  exact h.later _

/-- A line that begins with the next piece takes it, and the others stand in the lines behind. -/
lemma take {lines : List String} {line piece : String} (hline : Begins piece line)
    (h : StandInOrder pieces (unlines lines)) :
    StandInOrder (piece :: pieces) (unlines (line :: lines)) := by
  obtain ⟨rest, rfl⟩ := hline
  refine ⟨"", rest ++ "\n" ++ unlines lines, ?_, h.later _⟩
  simp only [unlines, List.map_cons, String.join_cons, String.empty_append, String.append_assoc]

end StandInOrder

/-- Lines that are made for each of a list are texts that are joined. -/
lemma unlines_flatMap {α : Type} (xs : List α) (lines : α → List String) :
    unlines (xs.flatMap lines) = String.join (xs.map fun x => unlines (lines x)) := by
  induction xs with
  | nil => rfl
  | cons x xs ih => rw [List.flatMap_cons, unlines_append, ih, List.map_cons, String.join_cons]

/-! ## Classes -/

variable {store : Store}

lemma standInOrder_wrapperText (head : Declaration) (type : String) :
    StandInOrder
      ([.struct type, .function ("New" ++ type), .function ("As" ++ type)].map Declared.opening)
      (wrapperText head type) := by
  have hstruct : Begins (Declared.struct type).opening ("type " ++ type ++ " struct \x7b") :=
    .refl _
  have hnew : Begins (Declared.function ("New" ++ type)).opening
      ("func New" ++ type ++ "() " ++ type ++ " \x7b") :=
    ⟨") " ++ type ++ " \x7b", by simp [Declared.opening, ← String.toList_inj]⟩
  have has : Begins (Declared.function ("As" ++ type)).opening
      ("func As" ++ type ++ "(v objc.Object) " ++ type ++ " \x7b") :=
    ⟨"v objc.Object) " ++ type ++ " \x7b", by simp [Declared.opening, ← String.toList_inj]⟩
  exact .skip _ <| .skip _ <| .take hstruct <| .skip _ <| .skip _ <| .skip _ <|
    .take hnew <| .skip _ <| .skip _ <| .skip _ <| .take has trivial

lemma standInOrder_setterText (type property selector goType passed : String) :
    StandInOrder [(Declared.method type ("Set" ++ Identifier.exported property)).opening]
      (setterText type property selector goType passed) := by
  refine .skip _ <| .take ⟨"v " ++ goType ++ ") \x7b", ?_⟩ trivial
  simp [Declared.opening, ← String.toList_inj]

/-- The head of a method and the parameters after it begin with the declaration. -/
lemma begins_methodHead (type : String) (f : Routine) (parameters : String) :
    Begins ((Reported.method f).declared type).opening
      (methodHead type f ++ "(" ++ parameters ++ ")") := by
  refine ⟨parameters ++ ")", ?_⟩
  rw [methodHead, Reported.declared, Reported.isClassMethod]
  cases f.isStatic <;> simp [Declared.opening, Reported.goName, String.append_assoc]

/-- The first line of a method begins with what is declared. -/
lemma methodLines_eq (store : Store) (declared sent : String) (result : Result) :
    ∃ first lines, methodLines store declared sent result = first :: lines ∧
      Begins declared first := by
  cases result with
  | void => exact ⟨_, _, rfl, (Begins.refl _).append _⟩
  | typed goType type => exact ⟨_, _, rfl, (((Begins.refl _).append _).append _).append _⟩
  | untyped goType => exact ⟨_, _, rfl, (((Begins.refl _).append _).append _).append _⟩
  | unspelled text => exact ⟨_, _, rfl, (Begins.refl _).append _⟩

lemma standInOrder_methodText (type className : String) (f : Routine) (crossing : Crossing) :
    StandInOrder [((Reported.method f).declared type).opening]
      (methodText store type className f crossing) := by
  obtain ⟨first, lines, hlines, hfirst⟩ := methodLines_eq store
    (methodHead type f ++ "(" ++ crossing.parameters ++ ")")
    (messageSend className f crossing.arguments) crossing.result
  simp only [methodText, hlines]
  exact .skip _ <| .take ((begins_methodHead type f crossing.parameters).trans hfirst) trivial

/-- The text of a member that is kept begins with its declaration. -/
lemma standInOrder_member {d : RecordDef} {type : String} (htype : d.head.hostName = some type)
    {m : Reported} (hkept : isKept store (.record d) m = true) :
    StandInOrder [(m.declared type).opening] (handledBy store (.record d) m).text := by
  have hname : (Entity.record d).head.hostName.getD "" = type := by simp [Entity.head, htype]
  rw [isKept] at hkept
  cases m with
  | property p =>
      rw [handledBy, hname, setter] at hkept ⊢
      by_cases hspelled : (p.type.spelling store).complete = true
      · rw [if_pos hspelled] at hkept ⊢
        cases hnative : p.type.toNative store "v" with
        | none => simp [hnative, Handled.refuse, Handled.report, Verdict.outcome,
            Outcome.isSkipped] at hkept
        | some passed => exact standInOrder_setterText ..
      · rw [if_neg hspelled] at hkept
        contradiction
  | method f =>
      simp only [handledBy, directionOf, hname, method] at hkept ⊢
      cases hcross : f.prototype.cross store .call with
      | error refusal => simp [hcross, Handled.refuse, Handled.report, Verdict.outcome,
          Outcome.isSkipped] at hkept
      | ok crossing => exact standInOrder_methodText ..

/-! ## Protocols -/

lemma standInOrder_interfaceLines (type : String) (a : Accepted) :
    StandInOrder [(Declared.requirement type a.goName).opening] (unlines (interfaceLines a)) := by
  have hdeclared : Begins (Declared.requirement type a.goName).opening
      ("\t" ++ a.goName ++ "(" ++ a.crossing.parameters ++ ")") :=
    ((Begins.refl _).append _).append _
  rw [interfaceLines]
  cases a.crossing.result with
  | void => exact .take hdeclared trivial
  | typed goType _ => exact .take ((hdeclared.append _).append _) trivial
  | untyped goType => exact .take (((hdeclared.append _).append _).append _) trivial
  | unspelled text => exact .skip _ <| .take hdeclared trivial

lemma standInOrder_interfaceText (head : Declaration) (type : String) (accepted : List Accepted) :
    StandInOrder
      ((Declared.interface type :: .requirement type "SetObjcRef"
        :: (accepted.map Accepted.goName).map (.requirement type)).map Declared.opening)
      (interfaceText head type accepted) := by
  have hinterface :
      Begins (Declared.interface type).opening ("type " ++ type ++ " interface \x7b") := .refl _
  have hsetter : Begins (Declared.requirement type "SetObjcRef").opening
      "\tSetObjcRef(v objc.Object)" := ⟨"v objc.Object)", rfl⟩
  have hmethods : StandInOrder
      (((accepted.map Accepted.goName).map (Declared.requirement type)).map Declared.opening)
      (unlines (accepted.flatMap interfaceLines)) := by
    rw [unlines_flatMap, List.map_map, List.map_map, List.map_eq_flatMap]
    exact .join fun a _ => standInOrder_interfaceLines type a
  have hrest : StandInOrder
      (((accepted.map Accepted.goName).map (Declared.requirement type)).map Declared.opening)
      (unlines ((if accepted.isEmpty then [] else [""]) ++
        (accepted.flatMap interfaceLines ++ ["\x7d"]))) := by
    rw [unlines_append, unlines_append]
    exact (hmethods.earlier _).later _
  rw [interfaceText, List.append_assoc, List.append_assoc]
  exact .skip _ <| .skip _ <| .take hinterface <| .skip _ <| .take hsetter hrest

lemma standInOrder_forwarder (type : String) (a : Accepted) :
    StandInOrder [(Declared.method ("go" ++ type) a.goName).opening] (forwarder store type a) := by
  have hdeclared : ∀ parameters, Begins (Declared.method ("go" ++ type) a.goName).opening
      ("func (o go" ++ type ++ ") " ++ a.goName ++ "(" ++ parameters ++ ")") := fun parameters =>
    ⟨parameters ++ ")", by simp [Declared.opening, ← String.toList_inj]⟩
  rw [forwarder]
  cases a.crossing.result with
  | typed goType result =>
      exact .skip _ <| .take ((((hdeclared _).append _).append _).append _) trivial
  | void | untyped goType | unspelled text =>
      exact .skip _ <| .take ((hdeclared _).append _) trivial

lemma standInOrder_forwarderType (head : Declaration) (type : String) :
    StandInOrder [(Declared.struct ("go" ++ type)).opening] (forwarderType head type) := by
  refine .skip _ <| .take ⟨"", ?_⟩ trivial
  simp [Declared.opening, ← String.toList_inj]

/-- The text of an entity holds its declarations in order, by its kind. -/
lemma standInOrder_emit (entity : Entity) :
    StandInOrder ((declaredBy store entity).map Declared.opening) (emit store entity).text := by
  cases entity with
  | record d =>
      cases htype : d.head.hostName with
      | none => simp only [declaredBy, htype, Option.elim_none, List.map_nil, StandInOrder]
      | some type =>
          simp only [declaredBy, htype, Option.elim_some, wrapperDeclared, List.map_append]
          rw [text_wrap htype, List.map_map, List.map_map]
          refine (standInOrder_wrapperText d.head type).append ?_
          exact .join_filter fun m _ hkept => standInOrder_member htype hkept
  | protocol d =>
      cases htype : d.head.hostName with
      | none => simp only [declaredBy, htype, Option.elim_none, List.map_nil, StandInOrder]
      | some type =>
          simp only [declaredBy, htype, Option.elim_some, interfaceDeclared, List.map_append]
          have hmethods : StandInOrder
              ((((acceptedMethods store d.methods).map Accepted.goName).map
                (Declared.method ("go" ++ type))).map Declared.opening)
              (String.join ((acceptedMethods store d.methods).map (forwarder store type))) := by
            rw [List.map_map, List.map_map, List.map_eq_flatMap]
            exact .join fun a _ => standInOrder_forwarder type a
          have hinterface :=
            standInOrder_interfaceText d.head type (acceptedMethods store d.methods)
          have hforwarder := (standInOrder_forwarderType d.head type).append hmethods
          have hboth := (hinterface.append hforwarder).earlier
            (registrationText type (acceptedMethods store d.methods))
          rw [text_bind htype]
          rwa [← String.append_assoc] at hboth
  | union d => trivial

/-! ## The file -/

/-- A stub declares its function on the line behind its comment. -/
lemma standInOrder_stubText (f : Routine) :
    StandInOrder [(Declared.function (Identifier.exported f.name)).opening]
      (stubText f (f.prototype.spelling store).text) := by
  have hsignature : Begins "(" (f.prototype.spelling store).text :=
    (((Begins.refl _).append _).append _).append _
  exact .skip _ <| .skip _ <| .take ((hsignature.behind _).append _) trivial

/-- The text of a function that is written begins with its declaration. -/
lemma standInOrder_stub {taken : List String} {f : Routine}
    (hwritten : (stub store taken f).report.outcome.isWritten = true) :
    StandInOrder [(Declared.function (Identifier.exported (stub store taken f).name)).opening]
      (stub store taken f).text := by
  simp only [stub] at hwritten ⊢
  split at hwritten
  · contradiction
  · rename_i htaken
    rw [if_neg htaken]
    split at hwritten
    · rename_i hspelled
      rw [if_pos hspelled]
      exact standInOrder_stubText f
    · contradiction

lemma standInOrder_of_mem_stubsFrom {taken : List String} {functions : List Routine} {h : Handled}
    (hmem : h ∈ stubsFrom store taken functions) (hwritten : h.report.outcome.isWritten = true) :
    StandInOrder [(Declared.function (Identifier.exported h.name)).opening] h.text := by
  induction functions generalizing taken with
  | nil => exact absurd hmem List.not_mem_nil
  | cons f functions ih =>
      rw [stubsFrom] at hmem
      rcases List.mem_cons.1 hmem with rfl | hmem
      · exact standInOrder_stub hwritten
      · exact ih hmem

lemma standInOrder_functions (config : Config) :
    StandInOrder (((stubNames (config.functions store)).map .function).map Declared.opening)
      (String.join ((config.functions store).map (·.text))) := by
  rw [stubNames, List.map_map, List.map_map]
  refine .join_filter fun h hmem hwritten => ?_
  rw [Config.functions] at hmem
  split at hmem
  · exact standInOrder_of_mem_stubsFrom hmem hwritten
  · exact absurd hmem List.not_mem_nil

/-- **The file holds its declarations in order**: those of its passages, then those of its
functions.  The header in front declares nothing. -/
theorem standInOrder_file (config : Config) (store : Store) (selected : List (EntityId × Entity)) :
    StandInOrder ((config.declared store selected).map Declared.opening)
      (generateFrom config store selected).code := by
  have hentities : StandInOrder
      ((selected.flatMap fun found => declaredBy store found.2).map Declared.opening)
      (String.join ((passagesOf store selected).map (·.output.text))) := by
    rw [List.map_flatMap, passagesOf, List.map_map]
    exact .join fun found _ => standInOrder_emit found.2
  rw [Config.declared, List.map_append]
  exact (hentities.later config.header).append (standInOrder_functions config)

end FrameworkBindings.Output
