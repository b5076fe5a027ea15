import FrameworkBindings.Proofs.Loading.Sources
import FrameworkBindings.Proofs.Output.BestEffort

/-!
# The lines of a method

A method of a class is written on four lines, or on five with a comment on a result that has no Go
name.  Selectors stand in literals, and names become identifiers, so that neither can break a line.
The texts that types hold go in as they were written: each line feed in one of them is a line feed
in the method, and what comes after it stands outside the comment.

* `lineCount` — the lines of a method.
* `lineFeeds_method` — to them come the line feeds in the spellings of its types.
* **`method_lines`** — for methods that were loaded, these are the line feeds in raw texts.
* `method_lines_broken` — a result that breaks its comment.

**From the code back to the documents.**  A method that was loaded holds names, which have no line
feeds, and raw texts, which were written in some document.  So the lines of a method are as many as
they should be where the documents have no line feeds in types, and every line feed that is too much
can be traced to one there.

**Exact in both directions.**  The line feeds are counted and not bounded.  The same statement
therefore says that nothing is lost: a line feed in a raw text always makes a line more.
-/

namespace FrameworkBindings.Output

open Document Loading Text

variable {store : Store}

/-! ## Arguments and results -/

/-- Arguments are called by identifiers or by their places, which have no line feeds. -/
lemma lineFeeds_argumentName (name : String) (place : Nat) :
    lineFeeds (argumentName name place) = 0 := by
  unfold argumentName
  split
  · rw [lineFeeds_append, lineFeeds_toString]
    rfl
  · dsimp only
    split
    · rw [lineFeeds_append, Identifier.lineFeeds_unexported]
      rfl
    · exact Identifier.lineFeeds_unexported name

/-- Neither the name of an argument nor the expression that is passed on has a line feed, and its Go
type has those of the spelling. -/
lemma lineFeeds_crossArgument {place : Nat} {p : Param NativeType} {a : Argument}
    (h : crossArgument store .call place p = .ok a) :
    lineFeeds a.name = 0 ∧ lineFeeds a.passed = 0 ∧ a.goType = (p.type.spelling store).text := by
  unfold crossArgument at h
  dsimp only at h
  split at h
  · split at h
    · rename_i native hnative
      cases h
      have hname := lineFeeds_argumentName p.name place
      exact ⟨hname, (NativeType.lineFeeds_toNative hnative).trans hname, rfl⟩
    · contradiction
  · contradiction

/-- All arguments are called by identifiers and passed on without line feeds, each with the Go type
of its parameter. -/
lemma lineFeeds_crossArguments {place : Nat} {params : List (Param NativeType)}
    {arguments : List Argument} (h : crossArguments store .call place params = .ok arguments) :
    (∀ a ∈ arguments, lineFeeds a.name = 0 ∧ lineFeeds a.passed = 0) ∧
      arguments.map Argument.goType = params.map fun p => (p.type.spelling store).text := by
  induction params generalizing place arguments with
  | nil =>
      cases h
      exact ⟨List.forall_mem_nil _, rfl⟩
  | cons p params ih =>
      rw [crossArguments] at h
      split at h
      · contradiction
      · rename_i a ha
        obtain ⟨rest, hrest, rfl⟩ := map_eq_ok_iff.1 h
        obtain ⟨hname, hpassed, htype⟩ := lineFeeds_crossArgument ha
        obtain ⟨hplain, htypes⟩ := ih hrest
        exact ⟨List.forall_mem_cons.2 ⟨⟨hname, hpassed⟩, hplain⟩, by
          rw [List.map_cons, List.map_cons, htype, htypes]⟩

/-- What is said of the type of a result in the text of a method: nothing, or its spelling, be it
declared or commented on. -/
def Result.mention : Result → String
  | .void => ""
  | .typed goType _ | .untyped goType => goType
  | .unspelled text => text

/-- The lines of a method with such a result. -/
def Result.lineCount : Result → Nat
  | .unspelled _ => 5
  | _ => 4

/-- The lines of a method: one more for a comment on a result that has no Go name. -/
def lineCount (store : Store) (prototype : Prototype) : Nat :=
  if prototype.result.any fun t => !(t.spelling store).complete then 5 else 4

/-- Whatever becomes of the result, its spelling is mentioned once. -/
lemma mention_crossResult (direction : Direction) (result : Option NativeType) :
    (crossResult store direction result).mention =
      result.elim "" fun t => (t.spelling store).text := by
  cases result with
  | none => rfl
  | some t =>
      unfold crossResult
      dsimp only
      split
      · split <;> rfl
      · rfl

/-- There is a line more just if the spelling is not complete. -/
lemma lineCount_crossResult (direction : Direction) (prototype : Prototype) :
    (crossResult store direction prototype.result).lineCount = lineCount store prototype := by
  rw [lineCount]
  cases prototype.result with
  | none => rfl
  | some t =>
      unfold crossResult
      dsimp only
      rw [Option.any_some]
      cases (t.spelling store).complete with
      | true =>
          rw [if_pos rfl]
          split <;> rfl
      | false => rfl

/-! ## The text of a method -/

lemma lineFeeds_methodHead {receiver : String} (hreceiver : lineFeeds receiver = 0) (f : Routine) :
    lineFeeds (methodHead receiver f) = 0 := by
  unfold methodHead Identifier.methodName
  split <;> simp only [lineFeeds_append, hreceiver, Identifier.lineFeeds_exported] <;> rfl

lemma lineFeeds_messageSend (className : String) (f : Routine) {arguments : List Argument}
    (h : ∀ a ∈ arguments, lineFeeds a.passed = 0) :
    lineFeeds (messageSend className f arguments) = 0 := by
  have htarget : lineFeeds (messageTarget className f) = 0 := by
    unfold messageTarget
    split
    · simp only [lineFeeds_append, lineFeeds_goLiteral]
      rfl
    · rfl
  have hpassed : ((arguments.map fun a => ", " ++ a.passed).map lineFeeds).sum = 0 := by
    refine List.sum_eq_zero fun n hn => ?_
    obtain ⟨_, hpassed, rfl⟩ := List.mem_map.1 hn
    obtain ⟨a, ha, rfl⟩ := List.mem_map.1 hpassed
    rw [lineFeeds_append, h a ha]
    rfl
  simp only [messageSend, lineFeeds_append, lineFeeds_join, lineFeeds_goLiteral, htarget, hpassed]
  rfl

lemma lineFeeds_parameters {crossing : Crossing}
    (h : ∀ a ∈ crossing.arguments, lineFeeds a.name = 0) :
    lineFeeds crossing.parameters =
      ((crossing.arguments.map Argument.goType).map lineFeeds).sum := by
  rw [Crossing.parameters, lineFeeds_intercalate rfl, List.map_map, List.map_map]
  refine congrArg List.sum (List.map_congr_left fun a ha => ?_)
  simp only [Function.comp_apply, lineFeeds_append, h a ha]
  exact Nat.zero_add _

/-- To its own line feeds a method adds those of what it is declared as and of its result.  Its
first line is empty, and its last is the closing brace. -/
lemma lineFeeds_methodLines {declared sent : String} (hsent : lineFeeds sent = 0)
    (result : Result) :
    lineFeeds (unlines ([""] ++ methodLines store declared sent result ++ ["\x7d"])) =
      result.lineCount + lineFeeds declared + lineFeeds result.mention := by
  rw [lineFeeds_unlines]
  cases result with
  | void =>
      rw [lineFeeds] at hsent
      simp [methodLines, Result.lineCount, Result.mention, lineFeeds, hsent]
  | untyped goType | unspelled text =>
      rw [lineFeeds] at hsent
      simp [methodLines, Result.lineCount, Result.mention, lineFeeds, hsent]
      omega
  | typed goType type =>
      have hbody : lineFeeds ((type.toHost store sent).elim sent ("return " ++ ·)) = 0 := by
        cases hcast : type.toHost store sent with
        | none => exact hsent
        | some cast =>
            rw [Option.elim_some, lineFeeds_append, NativeType.lineFeeds_toHost hcast, hsent]
            rfl
      rw [lineFeeds] at hbody
      simp [methodLines, Result.lineCount, Result.mention, lineFeeds, hbody]
      omega

/-- The text of a method has the line feeds of its own lines and those of the spellings in it. -/
lemma lineFeeds_methodText {receiver className : String} (hreceiver : lineFeeds receiver = 0)
    (f : Routine) {crossing : Crossing}
    (h : ∀ a ∈ crossing.arguments, lineFeeds a.name = 0 ∧ lineFeeds a.passed = 0) :
    lineFeeds (methodText store receiver className f crossing) =
      crossing.result.lineCount + ((crossing.arguments.map Argument.goType).map lineFeeds).sum
        + lineFeeds crossing.result.mention := by
  have hsent := lineFeeds_messageSend className f fun a ha => (h a ha).2
  have hparameters := lineFeeds_parameters fun a ha => (h a ha).1
  have hdeclared : lineFeeds (methodHead receiver f ++ "(" ++ crossing.parameters ++ ")") =
      ((crossing.arguments.map Argument.goType).map lineFeeds).sum := by
    rw [lineFeeds_append, lineFeeds_append, lineFeeds_append, lineFeeds_methodHead hreceiver,
      hparameters]
    exact Nat.zero_add _
  rw [methodText, lineFeeds_methodLines hsent, hdeclared]

/-- **The line feeds of a method that is written** are those of its lines and of the spellings of
its types. -/
lemma lineFeeds_method {receiver className : String} (hreceiver : lineFeeds receiver = 0)
    {f : Routine} (hwritten : (method store receiver className f).report.outcome.isWritten = true) :
    lineFeeds (method store receiver className f).text =
      lineCount store f.prototype
        + (f.prototype.types.map fun t => lineFeeds (t.spelling store).text).sum := by
  rw [method] at hwritten ⊢
  cases hcross : f.prototype.cross store .call with
  | error refusal =>
      rw [hcross] at hwritten
      contradiction
  | ok crossing =>
      obtain ⟨arguments, harguments, rfl⟩ := map_eq_ok_iff.1 hcross
      obtain ⟨hplain, htypes⟩ := lineFeeds_crossArguments harguments
      have hargs : ((arguments.map Argument.goType).map lineFeeds).sum =
          (f.prototype.params.map fun p => lineFeeds (p.type.spelling store).text).sum := by
        rw [htypes, List.map_map]
        rfl
      have hresult : lineFeeds (crossResult store .call f.prototype.result).mention =
          (f.prototype.result.toList.map fun t => lineFeeds (t.spelling store).text).sum := by
        rw [mention_crossResult]
        cases f.prototype.result with
        | none => rfl
        | some t => exact (Nat.add_zero _).symm
      rw [lineFeeds_methodText hreceiver f hplain, lineCount_crossResult, hargs, hresult,
        Prototype.types, List.map_append, List.sum_append, List.map_map, Nat.add_assoc,
        Nat.add_comm (List.sum _)]
      rfl

/-! ## Methods that were loaded -/

/-- Nothing raw has a line feed, where the texts that types were read from and the reference ids of
entities without names have none. -/
lemma lineFeed_not_mem_rawText {texts : List String} {node : NativeType}
    (h : Sourced texts node) (htexts : ∀ text ∈ texts, '\n' ∉ text.toList)
    (hrefids : ∀ slot ∈ store.slots, slot.entity.name = "" →
      '\n' ∉ slot.entity.head.refid.toList)
    {raw : String} (hraw : node.rawText? store = some raw) : '\n' ∉ raw.toList := by
  have hwritten : ∀ written ∈ node.writtenText?, '\n' ∉ written.toList := fun written hw hmem =>
    let ⟨text, htext, hfeed⟩ := h.written written hw hmem
    htexts text htext hfeed
  cases node with
  | array e size => exact hwritten raw hraw
  | unknown raw comment => exact hwritten _ hraw
  | entity id =>
      obtain ⟨_, hentity, hrefid⟩ := Option.bind_eq_some_iff.1 hraw
      obtain ⟨slot, hslot, rfl⟩ := Option.map_eq_some_iff.1 hentity
      rw [Option.ite_none_right_eq_some, Option.some_inj] at hrefid
      exact hrefid.2 ▸ hrefids slot (Array.mem_of_getElem? hslot) hrefid.1
  | _ => contradiction

/-- The raw texts in the types of a function, those of its result and of its parameters. -/
def rawTexts (store : Store) (prototype : Prototype) : List String :=
  prototype.types.flatMap (NativeType.rawTexts store)

/-- **The lines of a method.**  A method that was loaded and is written has the lines it should have
and one more for every line feed in a raw text.  So there are no more if and only if no raw text has
a line feed.  None has one if there is none in what the documents say of the types of functions, and
none in the reference ids of entities without names. -/
theorem method_lines {documents : Compound → Prop} {l : Loader}
    (h : Loader.RunsOver documents l) {id : EntityId} {d : RecordDef}
    (hdef : l.store.definition? id = some (.record d)) {receiver : String}
    (hreceiver : d.head.hostName = some receiver) {f : Routine} (hf : f ∈ d.methods)
    (hwritten : (method l.store receiver d.head.name f).report.outcome.isWritten = true) :
    let lines := lineFeeds (method l.store receiver d.head.name f).text
    lines = lineCount l.store f.prototype + ((rawTexts l.store f.prototype).map lineFeeds).sum ∧
      (lines = lineCount l.store f.prototype ↔
        ∀ raw ∈ rawTexts l.store f.prototype, '\n' ∉ raw.toList) ∧
      ((∀ compound, documents compound → ∀ text ∈ functionTexts compound, '\n' ∉ text.toList) →
        (∀ slot ∈ l.store.slots, slot.entity.name = "" →
          '\n' ∉ slot.entity.head.refid.toList) →
        lines = lineCount l.store f.prototype) := by
  intro lines
  obtain ⟨compound, hdocument, hsourced⟩ := sourced_of_holds h (.method hdef rfl hf)
  have hspellings : (f.prototype.types.map fun t => lineFeeds (t.spelling l.store).text).sum =
      ((rawTexts l.store f.prototype).map lineFeeds).sum := by
    rw [rawTexts, NativeType.sum_map_flatMap]
    exact congrArg List.sum (List.map_congr_left fun t ht =>
      NativeType.lineFeeds_of_worded fun node hnode => (hsourced t ht node hnode).name)
  have hlines : lines =
      lineCount l.store f.prototype + ((rawTexts l.store f.prototype).map lineFeeds).sum :=
    (lineFeeds_method (Declaration.lineFeeds_hostName hreceiver) hwritten).trans
      (congrArg _ hspellings)
  have hiff : lines = lineCount l.store f.prototype ↔
      ∀ raw ∈ rawTexts l.store f.prototype, '\n' ∉ raw.toList := by
    rw [hlines, Nat.add_eq_left, List.sum_eq_zero_iff_forall_eq_nat, List.forall_mem_map]
    exact forall₂_congr fun raw _ => lineFeeds_eq_zero_iff
  refine ⟨hlines, hiff, fun htexts hrefids => hiff.2 fun raw hraw => ?_⟩
  obtain ⟨t, ht, hraw⟩ := List.mem_flatMap.1 hraw
  obtain ⟨node, hnode, hraw⟩ := List.mem_filterMap.1 hraw
  exact lineFeed_not_mem_rawText (hsourced t ht node hnode) (htexts compound hdocument) hrefids hraw

/-- A class with a method whose result is declared by the text. -/
def usageOf (text : String) : Compound where
  sections := [{ kind := "public-func", members := [
    { id := "u", kind := "function", name := "usage", definition := "NSView::usage"
      type := some ⟨text, []⟩ }] }]

/-- The loader of such a class, with nothing loaded before it. -/
def afterUsage (text : String) : Loader :=
  (({} : Loader).loadEntry ⟨"v", "NSView", "class"⟩ (usageOf text)).2

/-- What the method is written as, with a comment on a result that has no Go name. -/
def usageText (text : String) : String :=
  "\nfunc (o NSView) Usage() \x7b\n\to.SendMsg(\"usage\")\n\t// FIXME: return interface\x7b\x7d /* "
    ++ text ++ " */\n\x7d\n"

/-- Whether the class has such a method, on five lines as it should be.  It can be evaluated. -/
def hasUsage (text : String) : Bool :=
  let store := (afterUsage text).store
  match store.definition? ⟨0⟩ with
  | some (.record d) => d.methods.any fun f =>
    let handled := method store "NSView" d.head.name f
    d.head.hostName = some "NSView" ∧ handled.report.outcome.isWritten = true ∧
      handled.text = usageText text ∧ lineCount store f.prototype = 5
  | _ => false

/-- What is evaluated is what is meant: the class is there and has the method. -/
lemma exists_of_hasUsage (text : String) (h : hasUsage text = true) :
    ∃ d, (afterUsage text).store.definition? ⟨0⟩ = some (.record d) ∧
      d.head.hostName = some "NSView" ∧ ∃ f ∈ d.methods,
        let handled := method (afterUsage text).store "NSView" d.head.name f
        handled.report.outcome.isWritten = true ∧ handled.text = usageText text ∧
          lineCount (afterUsage text).store f.prototype = 5 := by
  unfold hasUsage at h
  dsimp only at h
  split at h
  · rename_i d hdef
    obtain ⟨f, hf, hmethod⟩ := List.any_eq_true.1 h
    obtain ⟨hname, hmethod⟩ := of_decide_eq_true hmethod
    exact ⟨d, hdef, hname, f, hf, hmethod⟩
  · contradiction

/-- A method with a comment on its result, which was loaded from a document without line feeds, has
the five lines. -/
theorem method_lines_usage :
    ∃ d, (afterUsage "struct rusage").store.definition? ⟨0⟩ = some (.record d) ∧
      d.head.hostName = some "NSView" ∧ ∃ f ∈ d.methods,
        let handled := method (afterUsage "struct rusage").store "NSView" d.head.name f
        handled.report.outcome.isWritten = true ∧ lineFeeds handled.text = 5 := by
  have hrun : Loader.RunsOver (· = usageOf "struct rusage") (afterUsage "struct rusage") :=
    .loadEntry _ rfl (.fresh #[])
  obtain ⟨d, hdef, hname, f, hf, hwritten, -, hfive⟩ :=
    exists_of_hasUsage "struct rusage" (by decide +kernel)
  obtain ⟨-, -, hlines⟩ := method_lines hrun hdef hname hf hwritten
  refine ⟨d, hdef, hname, f, hf, hwritten, (hlines ?_ ?_).trans hfive⟩
  · rintro compound rfl
    decide +kernel
  · decide +kernel

/-- A line feed in the result breaks the comment, and the rest of it stands in the code, where
nothing of it is meant to be. -/
theorem method_lines_broken :
    Loader.RunsOver (· = usageOf "struct rusage\nnow") (afterUsage "struct rusage\nnow") ∧
      (({} : Loader).loadEntry ⟨"v", "NSView", "class"⟩ (usageOf "struct rusage\nnow")).1.isOk
        = true ∧
      ∃ d, (afterUsage "struct rusage\nnow").store.definition? ⟨0⟩ = some (.record d) ∧
        d.head.hostName = some "NSView" ∧ ∃ f ∈ d.methods,
          let handled := method (afterUsage "struct rusage\nnow").store "NSView" d.head.name f
          handled.report.outcome.isWritten = true ∧
            handled.text = usageText "struct rusage\nnow" ∧
            lineCount (afterUsage "struct rusage\nnow").store f.prototype = 5 ∧
            lineFeeds handled.text = 6 := by
  obtain ⟨d, hdef, hname, f, hf, hwritten, htext, hfive⟩ :=
    exists_of_hasUsage "struct rusage\nnow" (by decide +kernel)
  refine ⟨.loadEntry _ rfl (.fresh #[]), by decide +kernel, d, hdef, hname, f, hf, hwritten, htext,
    hfive, ?_⟩
  rw [htext]
  decide +kernel

end FrameworkBindings.Output
