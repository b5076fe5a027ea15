import Mathlib.Data.List.Perm.Basic
import Mathlib.Data.List.Nodup
import FrameworkBindings.Output.Crossing
import FrameworkBindings.Proofs.Text.Conversions
import FrameworkBindings.Proofs.Types.References

/-!
# Names of parameters

A parameter list names its parameters one by one: a declared name becomes a Go identifier, and a
parameter without a name gets one by its place.  Nothing compares the names that come out.

* `parameterNames` — the names for parameters in order, whatever makes identifiers of the declared
  ones: `unexported` in a signature, `argumentLabel` in a method, where `o` is the receiver.
* `ParametersApart` — which names have to differ.  Names by place always do.
* **`parameters_wellNamed_iff`** — the two lists of names that are written, and when no name is
  repeated in them.
* `parameters_collide` — a list in which two parameters take one name.

**One statement for both lists.**  Methods and signatures name their parameters by functions of
their own, which differ in what they make of a declared name.  With this as a parameter both are
`parameterNames`, and the conditions are proved once (`nodup_parameterNames_iff`).

**Three ways to collide.**  Two declared names may become one identifier, as `type` and `typ` do; a
declared name may look like a name by place; and in a method a parameter called `o` gets a mark and
may meet one that is declared with the mark.  All three are in `ParametersApart`, the last as part
of the first.
-/

namespace FrameworkBindings

namespace Output

/-! ## Names by place -/

/-- The name of a parameter that has none, by its place in the list. -/
def placeName (place : Nat) : String := "arg" ++ toString place

/-- Names by place differ as places do, since numbers do in decimal. -/
lemma placeName_injective : Function.Injective placeName := by
  intro place other hsame
  have hrepr : place.repr = other.repr := by simpa [placeName] using hsame
  rw [Nat.repr_eq_ofList_toDigits, Nat.repr_eq_ofList_toDigits, String.ofList_inj] at hrepr
  rw [← Nat.ofDigitChars_ten_toDigits (n := place), hrepr, Nat.ofDigitChars_ten_toDigits]

/-- The name of a parameter in a place: what its declared name becomes, or the name by place. -/
def placedName (label : String → String) (p : Param NativeType × Nat) : String :=
  if p.1.name = "" then placeName p.2 else label p.1.name

/-- The names of parameters in order, made one by one and never compared. -/
def parameterNames (label : String → String) (params : List (Param NativeType)) : List String :=
  params.zipIdx.map (placedName label)

/-- The identifiers for the declared names, repeated ones included. -/
def declaredNames (label : String → String) (params : List (Param NativeType)) : List String :=
  (params.filter (·.name != "")).map (label ·.name)

/-- The places of parameters without a name. -/
def unnamedPlaces (params : List (Param NativeType)) : List Nat :=
  (params.zipIdx.filter (·.1.name == "")).map (·.2)

/-- The declared names are far enough apart for the identifiers that are made of them. -/
structure ParametersApart (label : String → String) (params : List (Param NativeType)) : Prop where
  /-- Different parameters become different identifiers. -/
  declared : (declaredNames label params).Nodup
  /-- None of them is the name of an unnamed parameter by its place. -/
  places : ∀ place ∈ unnamedPlaces params, placeName place ∉ declaredNames label params

variable {label : String → String} {params : List (Param NativeType)}

/-- The names are those that were declared and those by place, in some order. -/
lemma perm_parameterNames (label : String → String) (params : List (Param NativeType)) :
    (parameterNames label params).Perm
      ((unnamedPlaces params).map placeName ++ declaredNames label params) := by
  have hplaces : (unnamedPlaces params).map placeName =
      (params.zipIdx.filter (·.1.name == "")).map (placedName label) := by
    rw [unnamedPlaces, List.map_map]
    refine List.map_congr_left fun p hp => ?_
    have hname : p.1.name = "" := by simpa using (List.mem_filter.1 hp).2
    rw [placedName, if_pos hname]
    rfl
  have hdeclared : declaredNames label params =
      (params.zipIdx.filter (·.1.name != "")).map (placedName label) := by
    have hparams : params.filter (·.name != "") =
        (params.zipIdx.filter (·.1.name != "")).map (·.1) := by
      nth_rewrite 1 [← List.zipIdx_map_fst 0 params]
      rw [List.filter_map]
      rfl
    rw [declaredNames, hparams, List.map_map]
    refine List.map_congr_left fun p hp => ?_
    have hname : p.1.name ≠ "" := by simpa using (List.mem_filter.1 hp).2
    rw [placedName, if_neg hname]
    rfl
  rw [hplaces, hdeclared, ← List.map_append]
  exact ((List.filter_append_perm _ _).map _).symm

/-- No place comes twice among those without a name. -/
lemma nodup_unnamedPlaces (params : List (Param NativeType)) : (unnamedPlaces params).Nodup := by
  have hplaces : (params.zipIdx.map (·.2)).Nodup := by
    rw [List.zipIdx_map_snd]
    exact List.nodup_range'
  exact hplaces.sublist (List.filter_sublist.map _)

/-- **No two parameters have one name just if the declared names are apart.** -/
lemma nodup_parameterNames_iff :
    (parameterNames label params).Nodup ↔ ParametersApart label params := by
  have hplaces : ((unnamedPlaces params).map placeName).Nodup :=
    (nodup_unnamedPlaces params).map placeName_injective
  rw [(perm_parameterNames label params).nodup_iff, List.nodup_append']
  constructor
  · rintro ⟨_, hdeclared, hdisjoint⟩
    exact ⟨hdeclared, fun place hplace => hdisjoint (List.mem_map_of_mem hplace)⟩
  · rintro ⟨hdeclared, hapart⟩
    refine ⟨hplaces, hdeclared, fun name hname => ?_⟩
    obtain ⟨place, hplace, rfl⟩ := List.mem_map.1 hname
    exact hapart place hplace

/-- What has a name by declaration or by place has a name. -/
lemma parameterNames_ne_empty (hlabel : ∀ name, name ≠ "" → label name ≠ "") :
    ∀ name ∈ parameterNames label params, name ≠ "" := by
  intro name hname
  obtain ⟨p, _, rfl⟩ := List.mem_map.1 hname
  rw [placedName]
  split
  · simp [placeName]
  · rename_i hdeclared
    exact hlabel p.1.name hdeclared

/-! ## Methods -/

/-- The identifier for a declared name in a method, whose receiver is `o`. -/
def argumentLabel (name : String) : String :=
  let label := Identifier.unexported name
  if label = "o" then label ++ "_" else label

/-- The arguments of methods are named by their places, with the label of a method for a declared
name. -/
lemma argumentName_eq (p : Param NativeType) (place : Nat) :
    argumentName p.name place = placedName argumentLabel (p, place) := rfl

/-- No identifier for a declared name is empty, with a mark or without. -/
lemma argumentLabel_ne_empty {name : String} (h : name ≠ "") : argumentLabel name ≠ "" := by
  simp only [argumentLabel]
  split
  · simp
  · exact Identifier.unexported_ne_empty h

/-- No parameter hides the receiver, as one that is called like it gets a mark. -/
lemma argumentName_ne_receiver (name : String) (place : Nat) : argumentName name place ≠ "o" := by
  simp only [argumentName]
  split
  · simp [← String.toList_inj]
  · split
    · rename_i hreceiver
      simp [hreceiver]
    · assumption

variable {store : Store} {direction : Direction}

lemma name_crossArgument {place : Nat} {p : Param NativeType} {argument : Argument}
    (h : crossArgument store direction place p = .ok argument) :
    argument.name = argumentName p.name place := by
  simp only [crossArgument] at h
  split at h
  · split at h
    · cases h
      rfl
    · contradiction
  · contradiction

lemma names_crossArguments {place : Nat} {arguments : List Argument}
    (h : crossArguments store direction place params = .ok arguments) :
    arguments.map (·.name) = (params.zipIdx place).map (placedName argumentLabel) := by
  induction params generalizing place arguments with
  | nil =>
      cases h
      rfl
  | cons p params ih =>
      rw [crossArguments] at h
      split at h
      · contradiction
      · rename_i argument hargument
        obtain ⟨rest, hrest, rfl⟩ := map_eq_ok_iff.1 h
        rw [List.map_cons, name_crossArgument hargument, ih hrest, argumentName_eq]
        rfl

/-! ## Signatures -/

/-- The names in a signature: all parameters have one if any was declared with one, or none has. -/
def signatureNames (params : List (Param NativeType)) : Option (List String) :=
  if params.any (·.name != "") then some (parameterNames Identifier.unexported params) else none

/-- The parameters of a signature: types, with names in front if there are any. -/
def labelled (names : Option (List String)) (types : List String) : List String :=
  match names with
  | none => types
  | some names => List.zipWith (fun name type => name ++ " " ++ type) names types

lemma text_paramSpellings_named (store : Store) (place : Nat) :
    (NativeType.paramSpellings store true place params).map Spelling.text =
      labelled (some ((params.zipIdx place).map (placedName Identifier.unexported)))
        (params.map fun p => (p.type.spelling store).text) := by
  induction params generalizing place with
  | nil => rfl
  | cons p params ih =>
      have hlabel : NativeType.paramLabel true place p.name =
          placedName Identifier.unexported (p, place) ++ " " := by
        rw [NativeType.paramLabel, placedName]
        split <;> rfl
      rw [NativeType.paramSpellings, List.map_cons, ih, Spelling.after, hlabel]
      rfl

lemma text_paramSpellings_unnamed (store : Store) (place : Nat) (h : ∀ p ∈ params, p.name = "") :
    (NativeType.paramSpellings store false place params).map Spelling.text =
      labelled none (params.map fun p => (p.type.spelling store).text) := by
  induction params generalizing place with
  | nil => rfl
  | cons p params ih =>
      have hlabel : NativeType.paramLabel false place p.name = "" := by
        rw [NativeType.paramLabel, if_pos (h p List.mem_cons_self)]
        rfl
      have hrest := ih (place + 1) fun q hq => h q (List.mem_cons_of_mem p hq)
      rw [NativeType.paramSpellings, List.map_cons, hrest, Spelling.after, hlabel,
        String.empty_append]
      rfl

/-- A signature names all its parameters or none, by whether one of them was declared with a
name. -/
lemma text_spelling (store : Store) (prototype : Prototype) :
    (prototype.spelling store).text =
      "(" ++ ", ".intercalate (labelled (signatureNames prototype.params)
          (prototype.params.map fun p => (p.type.spelling store).text))
        ++ ")" ++ (prototype.result.map (·.spelling store)).elim "" fun r => " " ++ r.text := by
  rw [Prototype.spelling, Spelling.signature, signatureNames]
  cases hnamed : prototype.params.any (·.name != "") with
  | true => rw [text_paramSpellings_named, if_pos rfl, parameterNames]
  | false =>
      have hnames : ∀ p ∈ prototype.params, p.name = "" := by simpa using hnamed
      rw [text_paramSpellings_unnamed store 0 hnames, if_neg Bool.false_ne_true]

/-! ## The main result -/

/-- **No name is repeated in a parameter list just if the declared names are apart.**  A function
that gets across has its parameters named one by one; each has a name, and none is the receiver.
In a signature either all parameters are named or none is. -/
theorem parameters_wellNamed_iff (store : Store) (prototype : Prototype) :
    (∀ direction crossing, prototype.cross store direction = .ok crossing →
      crossing.arguments.map (·.name) = parameterNames argumentLabel prototype.params ∧
      (∀ argument ∈ crossing.arguments, argument.name ≠ "" ∧ argument.name ≠ "o") ∧
      ((crossing.arguments.map (·.name)).Nodup ↔
        ParametersApart argumentLabel prototype.params)) ∧
    (prototype.spelling store).text =
      "(" ++ ", ".intercalate (labelled (signatureNames prototype.params)
          (prototype.params.map fun p => (p.type.spelling store).text))
        ++ ")" ++ (prototype.result.map (·.spelling store)).elim "" (fun r => " " ++ r.text) ∧
    ∀ names ∈ signatureNames prototype.params,
      names.length = prototype.params.length ∧ (∀ name ∈ names, name ≠ "") ∧
        (names.Nodup ↔ ParametersApart Identifier.unexported prototype.params) := by
  refine ⟨fun direction crossing hcross => ?_, text_spelling store prototype,
    fun names hnames => ?_⟩
  · obtain ⟨arguments, harguments, rfl⟩ := map_eq_ok_iff.1 hcross
    have hnames : arguments.map (·.name) = parameterNames argumentLabel prototype.params :=
      names_crossArguments harguments
    refine ⟨hnames, fun argument hargument => ?_, by rw [hnames]; exact nodup_parameterNames_iff⟩
    have hmem : argument.name ∈ parameterNames argumentLabel prototype.params :=
      hnames ▸ List.mem_map_of_mem hargument
    refine ⟨parameterNames_ne_empty (fun _ => argumentLabel_ne_empty) _ hmem, ?_⟩
    obtain ⟨⟨p, place⟩, _, hp⟩ := List.mem_map.1 hmem
    rw [← hp, ← argumentName_eq]
    exact argumentName_ne_receiver p.name place
  · rw [signatureNames, Option.mem_def, Option.ite_none_right_eq_some] at hnames
    obtain ⟨_, hnames⟩ := hnames
    obtain rfl := Option.some.inj hnames
    refine ⟨by simp [parameterNames], ?_, nodup_parameterNames_iff⟩
    exact parameterNames_ne_empty fun _ => Identifier.unexported_ne_empty

/-- A function whose parameters are declared with the given names. -/
def takingInts (names : List String) : Prototype where
  result := none
  params := names.map fun name => ⟨name, .primitive "int"⟩

/-- A declared name, none, and the name of the receiver: three names that differ, in a method as in
a signature. -/
theorem parameters_wellNamed_iff_frame :
    ∃ crossing, (takingInts ["Frame", "", "o"]).cross {} .call = .ok crossing ∧
      crossing.parameters = "frame int, arg1 int, o_ int" ∧
      (crossing.arguments.map (·.name)).Nodup ∧
      signatureNames (takingInts ["Frame", "", "o"]).params = some ["frame", "arg1", "o"] := by
  have hapart : ParametersApart argumentLabel (takingInts ["Frame", "", "o"]).params :=
    ⟨by decide +kernel, by decide +kernel⟩
  have hcross : ∃ crossing, (takingInts ["Frame", "", "o"]).cross {} .call = .ok crossing :=
    ⟨_, rfl⟩
  obtain ⟨crossing, hcross⟩ := hcross
  obtain ⟨hcrossing, -⟩ := parameters_wellNamed_iff {} (takingInts ["Frame", "", "o"])
  obtain ⟨hnames, -, hnodup⟩ := hcrossing .call crossing hcross
  refine ⟨crossing, hcross, ?_, hnodup.2 hapart, by decide +kernel⟩
  cases hcross
  decide +kernel

/-- Declared names that differ do not keep parameters apart: a name that is changed because it is
the receiver or a keyword meets a name that is like that anyway, and a name by place meets one that
was declared. -/
theorem parameters_collide :
    let names := ["o", "o_", "type", "typ", "arg5", ""]
    (names.filter (· != "")).Nodup ∧
      (∃ crossing, (takingInts names).cross {} .call = .ok crossing ∧
        crossing.parameters = "o_ int, o_ int, typ int, typ int, arg5 int, arg5 int" ∧
        ¬ (crossing.arguments.map (·.name)).Nodup) ∧
      ((takingInts names).spelling {}).text =
        "(o int, o_ int, typ int, typ int, arg5 int, arg5 int)" := by
  intro names
  exact ⟨by decide, ⟨_, rfl, by decide +kernel, by decide +kernel⟩, by decide +kernel⟩

end Output

end FrameworkBindings
