import FrameworkBindings.Proofs.Output.Declared
import FrameworkBindings.Proofs.Output.Literals

/-!
# The three parts of a protocol

The text of a protocol has three parts with methods in them: the interface, the struct that forwards
and the registration of that struct.  All three are made from one list, the methods that a Go value
can implement, and from each method in a way of its own.

* `Agrees` — what the three parts say of one method: one Go name, the same parameters in the same
  order, a value on the way back or none, and the selector.
* `agrees_of_accept` — they agree on every method that is taken.
* `Interfaced` — a protocol whose text has the three parts of its methods in order and no others.
* **`interfaced_emit`** — that is how protocols are written.

**What could go wrong.**  A method that is in the interface and not among those that forward would
not compile; one that is registered and does not forward would answer nothing.  So it is not enough
that each part is right on its own.  That the lists are the same is in `Interfaced.text`, and what
is written for one method is in `Agrees`.

**Results.**  The interface asks for a result only if it has a Go name, and the method that forwards
returns one only if it can be given to the runtime.  Both questions are answered by the same
analysis of the method, so a method that is asked to return something does (`Agrees.returning`,
`Agrees.silent`).

**The report.**  It is made method by method by another function than the text, and names as skipped
just the methods that are in none of the three parts (`Interfaced.reported`).
-/

namespace FrameworkBindings.Output

variable {store : Store} {type : String} {a : Accepted} {f : Routine}

/-! ## One method -/

namespace Accepted

/-- The call that is forwarded: the method of the Go value, with the arguments as they are passed
on. -/
def call (a : Accepted) : String :=
  "o.v." ++ Identifier.protocolMethodName a.method.name ++ "("
    ++ ", ".intercalate (a.crossing.arguments.map (·.passed)) ++ ")"

/-- How the interface asks for the method, up to its result: the name and the parameters with their
Go types. -/
def askedHead (a : Accepted) : String :=
  "\t" ++ Identifier.protocolMethodName a.method.name ++ "("
    ++ ", ".intercalate (a.crossing.arguments.map fun arg => arg.name ++ " " ++ arg.goType) ++ ")"

/-- How the method that forwards is declared, up to its result.  Its parameters are objects of the
runtime, under the same names. -/
def forwarderHead (type : String) (a : Accepted) : String :=
  "func (o go" ++ type ++ ") " ++ Identifier.protocolMethodName a.method.name ++ "("
    ++ ", ".intercalate (a.crossing.arguments.map fun arg => arg.name ++ " objc.Object") ++ ")"

end Accepted

/-- The three parts of a method agree, for a method that was analyzed. -/
structure Agrees (store : Store) (type : String) (a : Accepted) : Prop where
  /-- A result that has a Go name and can be given to the runtime is asked for and returned. -/
  returning : ∀ r ∈ a.method.prototype.result, r.Spelled store → r.CastsToNative store →
    interfaceLines a = [a.askedHead ++ " " ++ (r.spelling store).text] ∧
      ∃ value, r.toNative store a.call = some value ∧
        forwarder store type a = unlines [
          "",
          a.forwarderHead type ++ " "
            ++ (if value = a.call then (r.spelling store).text else "objc.Object") ++ " \x7b",
          "\treturn " ++ value,
          "\x7d"]
  /-- Otherwise the interface asks for no result, up to comments, and the call is all there is. -/
  silent : (∀ r ∈ a.method.prototype.result, ¬ (r.Spelled store ∧ r.CastsToNative store)) →
    (∃ remarks note, interfaceLines a = remarks ++ [a.askedHead ++ note] ∧
      (∀ line ∈ remarks, Begins "\t// FIXME: return " line) ∧
      (note = "" ∨ ∃ text, note = " /* TODO: " ++ text ++ " */")) ∧
    forwarder store type a =
      unlines ["", a.forwarderHead type ++ " \x7b", "\t" ++ a.call, "\x7d"]
  /-- The registration gives the selector as it is. -/
  registered : ∃ literal, literalValue? literal = some a.method.name ∧
    registration type a = "\tc.AddMethod(" ++ literal ++ ", go" ++ type ++ "."
      ++ Identifier.protocolMethodName a.method.name ++ ")"

/-- What is typed is returned by the method that forwards. -/
lemma forwarder_of_typed {goType value : String} {r : NativeType}
    (hresult : a.crossing.result = .typed goType r)
    (hvalue : r.toNative store a.call = some value) :
    forwarder store type a =
      unlines ["", a.forwarderHead type ++ " " ++ forwardedType goType a.call value ++ " \x7b",
        "\treturn " ++ value, "\x7d"] := by
  have hreturned : (r.toNative store a.call).getD a.call = value := by
    rw [hvalue, Option.getD_some]
  rw [forwarder, hresult, ← hreturned]
  rfl

/-- What is not typed is neither asked for nor returned. -/
lemma silent_of_not_typed (hresult : ∀ goType r, a.crossing.result ≠ .typed goType r) :
    (∃ remarks note, interfaceLines a = remarks ++ [a.askedHead ++ note] ∧
      (∀ line ∈ remarks, Begins "\t// FIXME: return " line) ∧
      (note = "" ∨ ∃ text, note = " /* TODO: " ++ text ++ " */")) ∧
    forwarder store type a =
      unlines ["", a.forwarderHead type ++ " \x7b", "\t" ++ a.call, "\x7d"] := by
  have hempty : a.askedHead = a.askedHead ++ "" := String.append_empty.symm
  rw [interfaceLines, forwarder]
  cases h : a.crossing.result with
  | typed goType r => exact absurd h (hresult goType r)
  | void => exact ⟨⟨[], "", congrArg ([·]) hempty, by simp, .inl rfl⟩, rfl⟩
  | untyped goType =>
      refine ⟨⟨[], " /* TODO: " ++ goType ++ " */", ?_, by simp, .inr ⟨goType, rfl⟩⟩, rfl⟩
      rw [List.nil_append, ← String.append_assoc, ← String.append_assoc]
      rfl
  | unspelled text =>
      refine ⟨⟨["\t// FIXME: return " ++ text], "", ?_, ?_, .inl rfl⟩, rfl⟩
      · exact congrArg (["\t// FIXME: return " ++ text, ·]) hempty
      · simpa using (Begins.refl _).append text

/-- **The three parts of a method agree**, as all of them are made from one analysis of it. -/
lemma agrees_of_accept (h : accept store f = .ok a) : Agrees store type a := by
  obtain ⟨_, rfl, hcross⟩ := of_accept h
  have hresult := result_cross hcross
  refine ⟨fun r hr hspelled hcasts => ?_, fun hnone => ?_,
    goLiteral a.method.name, literalValue?_goLiteral _, rfl⟩
  · have htyped := hresult.trans (crossResult_typed_iff.2 ⟨hr, rfl, hspelled, hcasts⟩)
    obtain ⟨value, hvalue⟩ := Option.isSome_iff_exists.1 (hcasts a.call)
    refine ⟨?_, value, hvalue, forwarder_of_typed htyped hvalue⟩
    rw [interfaceLines, htyped]
    rfl
  · refine silent_of_not_typed fun goType r htyped => ?_
    obtain ⟨hr, _, hpasses⟩ := crossResult_typed_iff.1 (hresult.symm.trans htyped)
    exact hnone r hr hpasses

/-! ## All methods -/

/-- A protocol is written as the interface, the struct that forwards and the registration of its
methods, those that can be implemented. -/
structure Interfaced (store : Store) (d : ProtocolDef) (type : String) (accepted : List Accepted) :
    Prop where
  /-- The methods that can be implemented, in the order of the protocol. -/
  chosen : accepted.map Accepted.method =
    d.methods.filter fun f => !f.isStatic && (f.prototype.cross store .callback).isOk
  analyzed : ∀ a ∈ accepted, a.method.prototype.cross store .callback = .ok a.crossing
  /-- Each of the parts has each of the methods once, in order, and no others. -/
  text : (emit store (.protocol d)).text =
    unlines (["", comment d.head, "type " ++ type ++ " interface \x7b", "\tobjc.Object",
        "\tSetObjcRef(v objc.Object)"] ++ if accepted.isEmpty then [] else [""])
      ++ String.join (accepted.map fun a => unlines (interfaceLines a))
      ++ unlines ["\x7d"]
      ++ forwarderType d.head type
      ++ String.join (accepted.map (forwarder store type))
      ++ unlines ["", "func init() \x7b", "\tc := objc.NewClass(go" ++ type ++ "\x7b\x7d)"]
      ++ String.join (accepted.map fun a => unlines [registration type a])
      ++ unlines ["\tobjc.RegisterClass(c)", "\x7d"]
  agrees : ∀ a ∈ accepted, Agrees store type a
  /-- The report is on the methods of the protocol, one by one. -/
  names : (emit store (.protocol d)).report.members.map (·.name) = d.methods.map Routine.name
  /-- What is not skipped is what can be implemented. -/
  reported : accepted.map Accepted.method =
    ((d.methods.zip (emit store (.protocol d)).report.members).filter
      fun p => !p.2.outcome.isSkipped).map Prod.fst

/-- A method is taken if it is no class method and all its parameters get across. -/
lemma isOk_accept (store : Store) (f : Routine) :
    (accept store f).isOk = (!f.isStatic && (f.prototype.cross store .callback).isOk) := by
  rw [accept]
  cases f.isStatic with
  | true => rfl
  | false => cases f.prototype.cross store .callback <;> rfl

/-- A method is skipped just if it is not taken, so report and text are of one mind. -/
lemma isSkipped_handle (store : Store) (f : Routine) :
    (handle store f).report.outcome.isSkipped = !(accept store f).isOk := by
  rw [handle]
  cases accept store f with
  | error refusal => rfl
  | ok a => cases h : a.crossing.result <;> simp [Handled.report, h, Result.verdict,
      Verdict.outcome, Outcome.isSkipped, Except.isOk, Except.toBool]

/-- What is in the list was taken from some method. -/
lemma exists_of_mem_acceptedMethods {methods : List Routine}
    (ha : a ∈ acceptedMethods store methods) : ∃ f, accept store f = .ok a := by
  obtain ⟨f, _, hf⟩ := List.mem_filterMap.1 ha
  refine ⟨f, ?_⟩
  cases haccept : accept store f with
  | error refusal => simp [haccept, Except.toOption] at hf
  | ok b => simpa [haccept, Except.toOption] using hf

/-- The methods that are taken are a selection from the methods. -/
lemma map_method_acceptedMethods (store : Store) (methods : List Routine) :
    (acceptedMethods store methods).map Accepted.method =
      methods.filter fun f => (accept store f).isOk := by
  rw [acceptedMethods, List.map_filterMap, ← List.filterMap_eq_filter]
  refine List.filterMap_congr fun f _ => ?_
  rw [Option.guard]
  cases haccept : accept store f with
  | error refusal => rfl
  | ok a =>
      obtain ⟨_, hmethod, _⟩ := of_accept haccept
      exact congrArg some hmethod

lemma unlines_map {α : Type} (xs : List α) (line : α → String) :
    unlines (xs.map line) = String.join (xs.map fun x => unlines [line x]) := by
  rw [List.map_eq_flatMap, unlines_flatMap]

/-- **The three parts of a protocol agree.**  The interface, the struct that forwards and the
registration have the methods that can be implemented, in order and once each, and these are the
methods that the report does not call skipped. -/
theorem interfaced_emit {d : ProtocolDef} (store : Store) (h : d.head.name ≠ "") :
    ∃ type, d.head.hostName = some type ∧
      Interfaced store d type (acceptedMethods store d.methods) := by
  have hname : (Entity.protocol d).name ≠ "" := h
  obtain ⟨type, htype⟩ := exists_hostName hname
  have htype : d.head.hostName = some type := htype
  have hmembers : (emit store (.protocol d)).report.members =
      d.methods.map fun f => (handle store f).report := by
    simp only [emit, bind, htype, EntityOutput.ofMembers, reports, List.map_map]
    rfl
  refine ⟨type, htype, ?_, ?_, ?_, ?_, ?_, ?_⟩
  · simp only [map_method_acceptedMethods, isOk_accept]
  · intro a ha
    obtain ⟨f, hf⟩ := exists_of_mem_acceptedMethods ha
    obtain ⟨_, rfl, hcross⟩ := of_accept hf
    exact hcross
  · rw [text_bind htype, interfaceText, registrationText]
    simp only [unlines_append, unlines_flatMap, unlines_map, String.append_assoc]
  · intro a ha
    obtain ⟨f, hf⟩ := exists_of_mem_acceptedMethods ha
    exact agrees_of_accept hf
  · rw [hmembers, List.map_map]
    refine List.map_congr_left fun f _ => ?_
    simp only [Function.comp_apply, handle, Handled.report]
    split <;> rfl
  · have hzip : d.methods.zip (d.methods.map fun f => (handle store f).report) =
        d.methods.map fun f => (f, (handle store f).report) :=
      List.map_prod_left_eq_zip.symm
    rw [hmembers, hzip, List.filter_map, List.map_map, map_method_acceptedMethods]
    simp only [Function.comp_def, isSkipped_handle, Bool.not_not, List.map_id']

/-- A protocol with methods that return a value, whose result is lost, and that return nothing, and
with two that cannot be implemented. -/
def sheetDelegate : ProtocolDef where
  head := { refid := "p", name := "NSSheetDelegate" }
  methods := [
    { head := { refid := "a", name := "title" }
      prototype := { result := some .string, params := [] } },
    { head := { refid := "b", name := "sharedDelegate" }, isStatic := true
      prototype := { result := none, params := [] } },
    { head := { refid := "c", name := "layer" }
      prototype := { result := some (.named "CALayer"), params := [] } },
    { head := { refid := "d", name := "sheet:didResize:" }
      prototype := { result := none, params := [⟨"size", .named "NSSize"⟩] } },
    { head := { refid := "e", name := "sheetDidEnd:" }
      prototype := { result := none, params := [⟨"code", .primitive "int"⟩] } }]

/-- The five methods of the protocol: three can be implemented, in their order, and the class method
and the one with a parameter that is not known cannot. -/
theorem interfaced_emit_sheetDelegate :
    sheetDelegate.head.name ≠ "" ∧ sheetDelegate.head.hostName = some "NSSheetDelegate" ∧
      Interfaced {} sheetDelegate "NSSheetDelegate" (acceptedMethods {} sheetDelegate.methods) ∧
      (acceptedMethods {} sheetDelegate.methods).map (·.method.name) =
        ["title", "layer", "sheetDidEnd:"] := by
  have hname : sheetDelegate.head.name ≠ "" := by decide
  have hhost : sheetDelegate.head.hostName = some "NSSheetDelegate" := by decide +kernel
  obtain ⟨type, htype, hinterfaced⟩ := interfaced_emit {} hname
  obtain rfl : type = "NSSheetDelegate" := Option.some.inj (htype.symm.trans hhost)
  exact ⟨hname, hhost, hinterfaced, by decide +kernel⟩

end FrameworkBindings.Output
