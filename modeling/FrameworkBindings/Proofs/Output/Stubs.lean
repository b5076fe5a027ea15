import FrameworkBindings.Loading.Loader
import FrameworkBindings.Proofs.Output.Filter
import FrameworkBindings.Proofs.Output.Names

/-!
# Stubs of functions that share a Go name

A Go name is taken by the first function that has it, before anybody looks whether the signature of
that function can be spelled.  So the functions behind it are left out as duplicates even if the
first one was left out as well, and then the file has no stub of the name at all.

* `namesakes` — the functions of one Go name, in order.
* `sifted` — what becomes of them: the first is sifted by its signature, the others are duplicates.
* **`generate_stubs`** — the stubs of a run, name by name.
* `stub_lost` — a function that could be written and is not.

**Name by name.**  The loop over the functions carries the names that are taken.  Restricted to one
Go name it does not depend on them any more than by whether this name is taken
(`handledAs_stubsFrom`), so functions of different names can be looked at on their own.

**When a name is lost.**  The condition is exact in both directions: of a name for which some
function can be spelled there is a stub just if the first function can be spelled.  It is asked of
the functions in the order in which they are written, which is by their own names, and of functions
that differ in their own names but not in their Go names.
-/

namespace FrameworkBindings.Output

variable {store : Store} {goName : String}

/-! ## Namesakes -/

/-- The functions of a store that have the Go name, in the order in which stubs are written. -/
def namesakes (store : Store) (goName : String) : List Routine :=
  (sortedFunctions store).filter fun f => Identifier.exported f.name = goName

/-- Whether the signature of a function can be spelled, the only other reason to leave a function
out. -/
def isSpelled (store : Store) (f : Routine) : Bool := (f.prototype.spelling store).complete

/-- What is said of a function whose Go name is taken. -/
def dismissed (goName : String) (f : Routine) : Handled :=
  .refuse f.name ⟨.duplicate, goName ++ " is already declared"⟩

/-- What becomes of the functions of one Go name: the first decides for itself and the others are
dismissed. -/
def sifted (store : Store) (goName : String) : List Routine → List Handled
  | [] => []
  | first :: others => stub store [] first :: others.map (dismissed goName)

/-- The functions of one Go name among those that were handled. -/
def handledAs (goName : String) (functions : List Handled) : List Handled :=
  functions.filter fun h => Identifier.exported h.name = goName

/-- The namesakes are all functions of the Go name, as sorting loses none. -/
lemma mem_namesakes {f : Routine} :
    f ∈ namesakes store goName ↔ f ∈ store.functions ∧ Identifier.exported f.name = goName := by
  simp [namesakes, sortedFunctions]

/-- A name that is taken is taken for all that have it. -/
lemma stub_of_mem {taken : List String} {f : Routine} (h : Identifier.exported f.name ∈ taken) :
    stub store taken f = dismissed (Identifier.exported f.name) f := by
  simp only [stub]
  rw [if_pos (by simpa using h), dismissed]

/-- A name that is not taken counts as if none were. -/
lemma stub_of_not_mem {taken : List String} {f : Routine} (h : Identifier.exported f.name ∉ taken) :
    stub store taken f = stub store [] f := by
  simp [stub, h]

/-- One function after the other, each with the names before it taken. -/
lemma handledAs_stubsFrom_cons (taken : List String) (f : Routine) (functions : List Routine) :
    handledAs goName (stubsFrom store taken (f :: functions)) =
      (if Identifier.exported f.name = goName then [stub store taken f] else [])
        ++ handledAs goName (stubsFrom store (Identifier.exported f.name :: taken) functions) := by
  by_cases hname : Identifier.exported f.name = goName <;>
    simp [stubsFrom, handledAs, name_stub, hname]

/-- Behind the first function of a name there are duplicates only. -/
lemma handledAs_of_taken {taken : List String} (functions : List Routine) (h : goName ∈ taken) :
    handledAs goName (stubsFrom store taken functions) =
      (functions.filter fun f => Identifier.exported f.name = goName).map (dismissed goName) := by
  induction functions generalizing taken with
  | nil => rfl
  | cons f functions ih =>
      rw [handledAs_stubsFrom_cons, ih (List.mem_cons_of_mem _ h)]
      by_cases hname : Identifier.exported f.name = goName
      · subst hname
        simp [stub_of_mem h]
      · simp [hname]

/-- The functions of a name that is not taken: the first is looked at, and takes the name. -/
lemma handledAs_stubsFrom {taken : List String} (functions : List Routine) (h : goName ∉ taken) :
    handledAs goName (stubsFrom store taken functions) =
      sifted store goName (functions.filter fun f => Identifier.exported f.name = goName) := by
  induction functions generalizing taken with
  | nil => rfl
  | cons f functions ih =>
      rw [handledAs_stubsFrom_cons]
      by_cases hname : Identifier.exported f.name = goName
      · subst hname
        rw [handledAs_of_taken functions List.mem_cons_self, stub_of_not_mem h]
        simp [sifted]
      · rw [ih (List.not_mem_cons_of_ne_of_not_mem (Ne.symm hname) h)]
        simp [hname]

/-! ## Which names have a stub -/

/-- As long as no name is taken the signature decides. -/
lemma isWritten_stub_nil (store : Store) (f : Routine) :
    (stub store [] f).report.outcome.isWritten = isSpelled store f := by
  simp only [stub, isSpelled, List.contains_nil, Bool.false_eq_true, if_false]
  cases (f.prototype.spelling store).complete <;> rfl

/-- Stubs of a name are counted among the functions that have it. -/
lemma count_stubNames (functions : List Handled) :
    (stubNames functions).count goName =
      (handledAs goName functions).countP fun h => h.report.outcome.isWritten := by
  rw [stubNames, handledAs, List.countP_filter, List.count_eq_countP, List.countP_map,
    List.countP_filter]
  refine List.countP_congr fun h _ => ?_
  simp [and_comm]

/-- Of the functions of one name the first is written, if it can be spelled, and no other. -/
lemma countP_sifted (functions : List Routine) :
    (sifted store goName functions).countP (fun h => h.report.outcome.isWritten) =
      if functions.head?.any (isSpelled store) then 1 else 0 := by
  cases functions with
  | nil => rfl
  | cons first others =>
      have hothers : (others.map (dismissed goName)).countP
          (fun h => h.report.outcome.isWritten) = 0 := by
        rw [List.countP_eq_zero]
        intro h hh
        obtain ⟨f, _, rfl⟩ := List.mem_map.1 hh
        exact Bool.false_ne_true
      rw [sifted, List.countP_cons, hothers, isWritten_stub_nil, Nat.zero_add]
      rfl

/-- The run writes at most one stub of a name: that of the first function that has it. -/
lemma count_stubs (store : Store) (goName : String) :
    (stubNames (stubs store)).count goName =
      if (namesakes store goName).head?.any (isSpelled store) then 1 else 0 := by
  rw [count_stubNames, stubs, handledAs_stubsFrom _ List.not_mem_nil]
  exact countP_sifted _

/-- A name has a stub if the first function that has it can be spelled. -/
lemma mem_stubNames_iff :
    goName ∈ stubNames (stubs store) ↔ (namesakes store goName).head?.any (isSpelled store) := by
  rw [← List.count_pos_iff, count_stubs]
  split <;> simp_all

/-- Whether a function was left out because its Go name is taken. -/
def isDuplicate (h : Handled) : Bool :=
  (h.verdict.diagnostic? h.name).any (·.category = .duplicate)

/-- A name has duplicates if two functions have it. -/
lemma exists_duplicate_iff :
    (∃ h ∈ stubs store, isDuplicate h ∧ Identifier.exported h.name = goName) ↔
      1 < (namesakes store goName).length := by
  have hsifted : handledAs goName (stubs store) = sifted store goName (namesakes store goName) :=
    handledAs_stubsFrom _ List.not_mem_nil
  have hmem : (∃ h ∈ stubs store, isDuplicate h ∧ Identifier.exported h.name = goName) ↔
      ∃ h ∈ sifted store goName (namesakes store goName), isDuplicate h := by
    simp only [← hsifted, handledAs, List.mem_filter, decide_eq_true_eq, and_assoc,
      and_comm (a := isDuplicate _ = true)]
  rw [hmem]
  cases namesakes store goName with
  | nil => simp [sifted]
  | cons first others =>
      have hfirst : isDuplicate (stub store [] first) = false := by
        simp only [stub, List.contains_nil, Bool.false_eq_true, if_false]
        cases (first.prototype.spelling store).complete <;> rfl
      have hothers : ∀ f, isDuplicate (dismissed goName f) = true := fun _ => rfl
      simp [sifted, hfirst, hothers, List.length_pos_iff_exists_mem]

/-! ## The main result -/

/-- **The first function of a Go name decides whether there is a stub of the name.**  A run that
writes everything ends in the stubs.  Of the functions of one Go name the first in order is written
if its signature can be spelled, and the others are duplicates whatever became of it.  So there is
one stub just if some function of the name can be spelled and none otherwise, if and only if the
first can be spelled or none can; and a duplicate has a stub of its name, if and only if the first
can be spelled or has no duplicates. -/
theorem generate_stubs (config : Config) (store : Store) :
    ∃ g, generate config.unfiltered store = .ok g ∧
      g.code = config.header ++ String.join ((allPassages store).map (·.output.text))
        ++ String.join ((stubs store).map (·.text)) ∧
      g.report.functions = reports (stubs store) ∧
      g.diagnostics.entries = (allPassages store).flatMap Passage.located
        ++ (diagnostics (stubs store)).map (·.within none) ∧
      ∀ goName,
        handledAs goName (stubs store) = sifted store goName (namesakes store goName) ∧
        ((stubNames (stubs store)).count goName =
            (if ∃ f ∈ store.functions, Identifier.exported f.name = goName ∧ isSpelled store f
              then 1 else 0) ↔
          (namesakes store goName).head?.any (isSpelled store) ∨
            ¬∃ f ∈ store.functions, Identifier.exported f.name = goName ∧ isSpelled store f) ∧
        ((∀ h ∈ stubs store, isDuplicate h → Identifier.exported h.name = goName →
            goName ∈ stubNames (stubs store)) ↔
          (namesakes store goName).head?.any (isSpelled store) ∨
            (namesakes store goName).length ≤ 1) := by
  have hdiagnostics := runDiagnostics_eq (allPassages store) (stubs store)
  refine ⟨_, rfl, rfl, rfl, congrArg Collector.entries hdiagnostics, fun goName => ⟨?_, ?_, ?_⟩⟩
  · exact handledAs_stubsFrom _ List.not_mem_nil
  · have hspelled : (∃ f ∈ store.functions, Identifier.exported f.name = goName ∧
        isSpelled store f) ↔ ∃ f ∈ namesakes store goName, isSpelled store f := by
      simp only [mem_namesakes, and_assoc]
    simp only [count_stubs, hspelled]
    cases namesakes store goName with
    | nil => simp
    | cons first others =>
        cases hfirst : isSpelled store first <;> simp [hfirst]
  · have hduplicate : (∃ h ∈ stubs store, isDuplicate h ∧ Identifier.exported h.name = goName) ↔
        1 < (namesakes store goName).length := exists_duplicate_iff
    rw [mem_stubNames_iff]
    constructor
    · intro hstub
      by_cases hone : (namesakes store goName).length ≤ 1
      · exact .inr hone
      · obtain ⟨h, hmem, hduplicate, hname⟩ := hduplicate.2 (by omega)
        exact .inl (hstub h hmem hduplicate hname)
    · rintro (hfirst | hone) h hmem hdup hname
      · exact hfirst
      · have hmany := hduplicate.1 ⟨h, hmem, hdup, hname⟩
        omega

/-- A file with two functions of one Go name, of which only the second can be spelled. -/
def beeps : Document.Compound where
  sections := [{ kind := "func", members := [
    { id := "b", kind := "function", name := "NSBeep", definition := "void NSBeep"
      type := some ⟨"void", []⟩
      params := [{ declname := "place", type := some ⟨"struct CGPoint", []⟩ }] },
    { id := "c", kind := "function", name := "nSBeep", definition := "void nSBeep"
      type := some ⟨"void", []⟩ }] }]

/-- The function that can be written is a duplicate of one that was not: the file ends with the
header.  The two functions come from a document, and both are reported as skipped. -/
theorem stub_lost :
    let loaded := ({} : Loader).loadEntry ⟨"f", "NSGraphics.h", "file"⟩ beeps
    let store := loaded.2.finish.store
    loaded.1 = .ok () ∧
      (∃ f ∈ store.functions, Identifier.exported f.name = "NSBeep" ∧ isSpelled store f) ∧
      ∃ g, generate {} store = .ok g ∧
        g.report.functions = [
          ⟨"NSBeep", .skipped
            "signature has no Go spelling: (place interface\x7b\x7d /* struct CGPoint */)"⟩,
          ⟨"nSBeep", .skipped "NSBeep is already declared"⟩] ∧
        g.code = Config.header {} ∧ stubNames (stubs store) = [] := by
  intro loaded store
  -- one evaluation of the loader for all that is asked of it
  obtain ⟨hok, hspelled, hdefinitions, hordered⟩ : loaded.1 = .ok () ∧
      (∃ f ∈ store.functions, Identifier.exported f.name = "NSBeep" ∧ isSpelled store f) ∧
      store.definitions = [] ∧
      store.functions.Pairwise fun f g => Store.textLe f.name g.name = true := by
    decide +kernel
  have hstubs : stubs store = stubsFrom store [] store.functions :=
    congrArg (stubsFrom store []) (List.mergeSort_of_pairwise hordered)
  have hpassages : allPassages store = [] := by
    rw [allPassages, Store.sorted, hdefinitions, List.mergeSort_nil]
    rfl
  refine ⟨hok, hspelled, _, rfl, ?_⟩
  change reports (stubs store) = _ ∧ Config.file {} (allPassages store) (stubs store) = _ ∧ _
  rw [hpassages, hstubs]
  decide +kernel

end FrameworkBindings.Output
