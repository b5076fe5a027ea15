import FrameworkBindings.Proofs.Output.Interfaces
import FrameworkBindings.Proofs.Types.StaticTypes

/-!
# What methods return

Whether a method returns something is found out with an expression that stands for the message, and
what it returns is made with the message.

* `Chained` — the casts of a type are contexts and form a chain, so that nothing is lost between
  the question and the answer, and a result that comes back from a call can also be given in answer
  to one.
* **`chained_casts`** — this is so for every type.
* `StaticallyTyped` — what Go says of the casts to the host of a type, and of the methods that
  return a value of the type.
* **`staticallyTyped_toHost`** — a cast has the type that is at the bottom of its type, and that is
  the type it is declared with as long as there are no pointers and no arrays.

**Contexts.**  A cast puts an expression into a text that does not depend on it.  If it is possible
for one expression it is possible for every other, with the same text around it, so it does not
matter that the question was asked with another expression than the answer is made with.

**The chain.**  What can be made into a Go value can be handed to the runtime, and what can be
handed over has a Go name.  The three are decided by three functions on types, and the theorem is
what keeps them from drifting apart.

**Pointers and arrays.**  A value that comes back is cast as what is at the bottom of its type, with
the marks of pointers and arrays left out.  With the declared type that has the marks, the two are
different types of Go (`not_hasGoType_pointer`).
-/

namespace FrameworkBindings.Output

variable {store : Store} {t r : NativeType} {goType : String}

/-! ## The chain -/

/-- The casts of a type are contexts and form a chain, and results follow them, in calls and in
answers. -/
structure Chained (store : Store) (t : NativeType) : Prop where
  native : IsContext fun expression => t.toNative store expression
  host : IsContext fun expression => t.toHost store expression
  native_of_host : ∀ probe expression, (t.toHost store probe).isSome = true →
    (t.toNative store expression).isSome = true
  named_of_native : ∀ probe, (t.toNative store probe).isSome = true →
    ∃ name, (t.spelling store).name? = some name
  /-- A result that comes back from a call can be given in answer to one. -/
  answered : ∀ goType r, crossResult store .call (some t) = .typed goType r →
    crossResult store .callback (some t) = .typed goType r
  /-- A method that returns a result has the message in it once. -/
  called : ∀ goType r, crossResult store .call (some t) = .typed goType r →
    ∃ before after, ∀ declared sent, methodLines store declared sent (.typed goType r) =
      [declared ++ " " ++ goType ++ " \x7b", "\treturn " ++ (before ++ sent ++ after)]
  /-- And so has one that answers, with the call of the method. -/
  forwarded : ∀ goType r, crossResult store .callback (some t) = .typed goType r →
    ∃ before after, ∀ type (a : Accepted), a.crossing.result = .typed goType r →
      forwarder store type a =
        let returned := before ++ a.call ++ after
        unlines ["", a.forwarderHead type ++ " " ++ forwardedType goType a.call returned ++ " \x7b",
          "\treturn " ++ returned, "\x7d"]

/-- A result that comes back from a call has a cast to the host. -/
lemma isSome_toHost_of_typed (h : crossResult store .call (some t) = .typed goType r) :
    r = t ∧ goType = (t.spelling store).text ∧ (t.toHost store "v").isSome = true := by
  obtain ⟨hr, hname, _, hcasts⟩ := crossResult_typed_iff.1 h
  obtain rfl := Option.some.inj hr
  exact ⟨rfl, hname, hcasts "v"⟩

/-- What can be handed over has a name and is typed in an answer. -/
lemma crossResult_callback (h : ∀ expression, (t.toNative store expression).isSome = true) :
    crossResult store .callback (some t) = .typed (t.spelling store).text t :=
  crossResult_typed_iff.2 ⟨rfl, rfl, NativeType.complete_of_toNative (h "v"), h⟩

/-- A method whose result has a cast returns the message in it. -/
lemma methodLines_of_cast {declared sent e : String} (h : t.toHost store sent = some e) :
    methodLines store declared sent (.typed goType t) =
      [declared ++ " " ++ goType ++ " \x7b", "\treturn " ++ e] := by
  have htab : "\t" ++ ("return " ++ e) = "\treturn " ++ e := by
    rw [← String.append_assoc]
    rfl
  rw [methodLines, h, Option.elim_some, htab]

/-- **The casts of every type are contexts and form a chain.**  By induction on the type for each of
the casts, and from there for what results are made of. -/
theorem chained_casts (store : Store) (t : NativeType) : Chained store t where
  native := t.isContext_toNative
  host := t.isContext_toHost
  native_of_host := fun _ expression h => NativeType.isSome_toNative_of_toHost h expression
  named_of_native := fun _ h => ⟨_, if_pos (NativeType.complete_of_toNative h)⟩
  answered := fun goType r h => by
    obtain ⟨rfl, rfl, hhost⟩ := isSome_toHost_of_typed h
    exact crossResult_callback (NativeType.isSome_toNative_of_toHost hhost)
  called := fun goType r h => by
    obtain ⟨rfl, rfl, hhost⟩ := isSome_toHost_of_typed h
    obtain ⟨before, after, hcast⟩ := r.isContext_toHost.exists_of_isSome hhost
    exact ⟨before, after, fun declared sent => methodLines_of_cast (hcast sent)⟩
  forwarded := fun goType r h => by
    obtain ⟨hr, rfl, _, hcasts⟩ := crossResult_typed_iff.1 h
    obtain rfl := Option.some.inj hr
    obtain ⟨before, after, hcast⟩ := t.isContext_toNative.exists_of_isSome (hcasts "v")
    exact ⟨before, after, fun type a hresult => forwarder_of_typed hresult (hcast a.call)⟩

/-- A store with one class, under the name it has in a framework. -/
def viewStore : Store where
  slots := #[.defined (.record { head := { refid := "v", name := "NSView" }, isClass := true })]
  order := [⟨0⟩]

/-- A constant reference to the class comes back from a call under its name, so it can be given in
answer. -/
theorem chained_casts_view :
    crossResult viewStore .call (some (.const (.entity ⟨0⟩))) =
        .typed "NSView" (.const (.entity ⟨0⟩)) ∧
      crossResult viewStore .callback (some (.const (.entity ⟨0⟩))) =
        .typed "NSView" (.const (.entity ⟨0⟩)) := by
  have hcall : crossResult viewStore .call (some (.const (.entity ⟨0⟩))) =
      .typed "NSView" (.const (.entity ⟨0⟩)) := rfl
  exact ⟨hcall, (chained_casts viewStore (.const (.entity ⟨0⟩))).answered _ _ hcall⟩

/-! ## The types of what is returned -/

/-- What Go says of the casts to the host of a type, and of what methods return. -/
structure StaticallyTyped (store : Store) (t : NativeType) : Prop where
  /-- A cast has one type, what its type has at the bottom; that is the Go name of the type if there
  is no pointer and no array on the way. -/
  cast : ∀ object e name, (t.spelling store).name? = some name → t.toHost store object = some e →
    ∃ type, (t.bottom.spelling store).name? = some type ∧
      (∀ other, HasGoType object e other ↔ other = type) ∧
      (HasGoType object e name ↔ t.unqualified.elem? = none)
  /-- So it is with what the methods of classes return. -/
  returned : ∀ receiver className (f : Routine) crossing goType, f.prototype.result = some t →
    f.prototype.cross store .call = .ok crossing → crossing.result = .typed goType t →
    ∃ e, (method store receiver className f).text =
        unlines ["",
          methodHead receiver f ++ "(" ++ crossing.parameters ++ ")" ++ " " ++ goType ++ " \x7b",
          "\treturn " ++ e,
          "\x7d"] ∧
      (HasGoType (messageSend className f crossing.arguments) e goType ↔
        t.unqualified.elem? = none)

/-- The name of a type is the type of its casts if it has no marks. -/
lemma hasGoType_text_iff {object e : String} (ht : t.IsConcrete store)
    (h : t.toHost store object = some e) :
    HasGoType object e (t.spelling store).text ↔ t.unqualified.elem? = none := by
  obtain ⟨type, hbottom, hcast⟩ := NativeType.hasGoType_toHost ht h
  have hname : (t.spelling store).text = t.marks ++ type := by
    rw [t.spelling_eq_bottom, hbottom]
    rfl
  rw [← NativeType.marks_eq_empty_iff, hname]
  constructor
  · intro hmarked
    simpa using hmarked.unique hcast
  · intro hmarks
    rwa [hmarks, String.empty_append]

/-- **A cast to the host has the type that is at the bottom of its type**, and so has what a method
returns.  It is what the type is called in Go just if there is no pointer and no array. -/
theorem staticallyTyped_toHost (ht : t.IsConcrete store) : StaticallyTyped store t where
  cast := fun object e name hname h => by
    obtain ⟨type, hbottom, hcast⟩ := NativeType.hasGoType_toHost ht h
    have hname : name = (t.spelling store).text := by
      rw [Spelling.name?] at hname
      split_ifs at hname
      exact (Option.some.inj hname).symm
    refine ⟨type, by rw [hbottom]; rfl, fun other => ⟨fun hother => hother.unique hcast, ?_⟩, ?_⟩
    · rintro rfl
      exact hcast
    · rw [hname]
      exact hasGoType_text_iff ht h
  returned := fun receiver className f crossing goType hf hcross hresult => by
    have htyped : crossResult store .call (some t) = .typed goType t := by
      rw [← hf, ← result_cross hcross, hresult]
    obtain ⟨_, rfl, _, hcasts⟩ := crossResult_typed_iff.1 htyped
    obtain ⟨e, he⟩ := Option.isSome_iff_exists.1
      (hcasts (messageSend className f crossing.arguments))
    refine ⟨e, ?_, hasGoType_text_iff ht he⟩
    simp only [method, hcross, methodText, hresult, methodLines_of_cast he]
    rfl

/-- A method that may return no view. -/
def superview : Routine where
  head := { refid := "m", name := "superview" }
  prototype := { result := some (.nullable (.entity ⟨0⟩) true), params := [] }

/-- What the method returns has the type that it is declared with, as a type that may be null is
cast like the class. -/
theorem staticallyTyped_toHost_view :
    (NativeType.nullable (.entity ⟨0⟩) true).IsConcrete viewStore ∧
      HasGoType "v" "AsNSView(v)" "NSView" ∧
      ∃ e, (method viewStore "NSView" "NSView" superview).text =
          unlines ["", "func (o NSView) Superview() NSView \x7b", "\treturn " ++ e, "\x7d"] ∧
        HasGoType (messageSend "NSView" superview []) e "NSView" := by
  have ht : (NativeType.nullable (.entity ⟨0⟩) true).IsConcrete viewStore := ⟨_, rfl⟩
  have htyped := staticallyTyped_toHost ht
  obtain ⟨_, _, _, hname⟩ := htyped.cast "v" "AsNSView(v)" "NSView" rfl rfl
  obtain ⟨e, htext, hreturn⟩ :=
    htyped.returned "NSView" "NSView" superview ⟨[], _⟩ "NSView" rfl rfl rfl
  refine ⟨ht, hname.2 rfl, e, ?_, hreturn.2 rfl⟩
  have hhead : methodHead "NSView" superview ++ "(" ++ Crossing.parameters ⟨[], .void⟩ ++ ")" ++ " "
      ++ "NSView" ++ " \x7b" = "func (o NSView) Superview() NSView \x7b" := by decide +kernel
  rw [htext, ← hhead]
  rfl

/-- A cast need not have the Go name of its type: a pointer to a number has a mark in its name and
casts like the number. -/
theorem not_hasGoType_pointer :
    ¬ ∀ (store : Store) (t : NativeType) (object e name : String), t.IsConcrete store →
      (t.spelling store).name? = some name → t.toHost store object = some e →
      HasGoType object e name := by
  intro h
  have hpointer : HasGoType "v" "int32(v.Int())" "*int32" :=
    h {} (.pointer (.primitive "int32")) "v" "int32(v.Int())" "*int32" trivial rfl rfl
  have hnumber : HasGoType "v" "int32(v.Int())" "int32" :=
    NativeType.hasGoType_primitiveToHost rfl
  exact absurd (hpointer.unique hnumber) (by decide)

end FrameworkBindings.Output
