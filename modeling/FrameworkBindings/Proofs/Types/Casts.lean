import Mathlib.Tactic.Lemma
import FrameworkBindings.Bridge

/-!
# Casts as contexts

The casts of a type take the text of an expression and give the text of another.  What they do to
it does not depend on it.

**Contexts.**  `IsContext` says of a cast that there is none for any expression, or that it puts one
text in front of every expression and one behind it.  The expression is in the result once, so that
what it does is done once, and whether there is a cast can be found out with any expression.

**The chain.**  A type that casts to the host casts to the runtime
(`NativeType.isSome_toNative_of_toHost`), and a type that casts to the runtime has a complete name
(`NativeType.complete_of_toNative`).

Both follow the type down to its leaf, since pointers, arrays and qualifiers hand a cast on to what
they hold.  The chain is what makes the checks in the rest of the output simple: once an argument
has a cast, nobody has to ask whether it has a name, and a probe such as `v` stands for the
expression that will be there in the end.
-/

namespace FrameworkBindings

/-- The cast is an expression with a hole, if it is there at all.  The hole is filled in one place
and nothing else depends on what fills it. -/
def IsContext (cast : String → Option String) : Prop :=
  (∀ expression, cast expression = none) ∨
    ∃ before after, ∀ expression, cast expression = some (before ++ expression ++ after)

namespace IsContext

variable {cast : String → Option String}

lemma none : IsContext fun _ => none :=
  .inl fun _ => rfl

lemma some (before after : String) :
    IsContext fun expression => some (before ++ expression ++ after) :=
  .inr ⟨before, after, fun _ => rfl⟩

lemma hole : IsContext fun expression => Option.some expression :=
  .inr ⟨"", "", fun _ => by rw [String.empty_append, String.append_empty]⟩

/-- Something behind the expression and nothing in front of it. -/
lemma behind (after : String) : IsContext fun expression => Option.some (expression ++ after) :=
  .inr ⟨"", after, fun _ => by rw [String.empty_append]⟩

/-- Whether there is a cast does not depend on the expression, so any expression will do to ask. -/
lemma isSome_eq (h : IsContext cast) (a b : String) : (cast a).isSome = (cast b).isSome := by
  rcases h with hnone | ⟨before, after, hsome⟩
  · rw [hnone, hnone]
  · rw [hsome, hsome]
    rfl

/-- One expression for which there is a cast shows what the cast does to all. -/
lemma exists_of_isSome (h : IsContext cast) {probe : String} (hprobe : (cast probe).isSome = true) :
    ∃ before after, ∀ expression,
      cast expression = Option.some (before ++ expression ++ after) := by
  rcases h with hnone | hsome
  · rw [hnone] at hprobe
    contradiction
  · exact hsome

end IsContext

/-! ## Contexts -/

namespace Entity

lemma isContext_toNative (entity : Entity) : IsContext fun e => entity.toNative e := by
  cases entity with
  | union d => exact .none
  | record d | protocol d =>
      simp only [toNative]
      cases d.head.hostName with
      | none => exact .none
      | some name => exact .hole

lemma isContext_toHost (entity : Entity) : IsContext fun e => entity.toHost e := by
  cases entity with
  | union d => exact .none
  | record d =>
      simp only [toHost]
      cases d.head.hostName with
      | none => exact .none
      | some name => exact .some ("As" ++ name ++ "(") ")"
  | protocol d =>
      simp only [toHost]
      cases d.head.hostName with
      | none => exact .none
      | some name => exact .hole

end Entity

namespace NativeType

variable {store : Store}

/-- A built-in type is read with a method, and some are then converted; either way the object stands
in one place. -/
lemma isContext_primitiveToHost (name : String) : IsContext (primitiveToHost name) := by
  have hconvert (reader : String) : IsContext fun expression =>
      some (name ++ "(" ++ expression ++ "." ++ reader ++ "())") := by
    refine .inr ⟨name ++ "(", "." ++ reader ++ "())", fun expression => ?_⟩
    simp only [String.append_assoc]
  unfold primitiveToHost
  split
  all_goals first | exact .none | exact .behind _ | exact hconvert _

lemma isContext_toNative (t : NativeType) : IsContext fun e => t.toNative store e := by
  induction t using NativeType.recursion with
  | primitive name => exact .hole
  | string => exact .some "foundation.NSStringFromString(" ")"
  | named _ | unknown _ _ => exact .none
  | function result params _ _ => simpa only [toNative] using .none
  | entity id =>
      unfold toNative
      cases store.entity? id with
      | none => exact .none
      | some entity => exact entity.isContext_toNative
  | pointer _ ih | array _ _ ih | const _ ih | strong _ ih | nullable _ _ ih | external _ ih =>
      simpa only [toNative] using ih

lemma isContext_toHost (t : NativeType) : IsContext fun e => t.toHost store e := by
  induction t using NativeType.recursion with
  | primitive name => exact isContext_primitiveToHost name
  | string => exact .behind ".String()"
  | named _ | unknown _ _ => exact .none
  | function result params _ _ => simpa only [toHost] using .none
  | entity id =>
      unfold toHost
      cases store.entity? id with
      | none => exact .none
      | some entity => exact entity.isContext_toHost
  | pointer _ ih | array _ _ ih | const _ ih | strong _ ih | nullable _ _ ih | external _ ih =>
      simpa only [toHost] using ih

end NativeType

/-! ## The chain -/

namespace Entity

lemma isSome_toNative_of_toHost {entity : Entity} {probe : String}
    (h : (entity.toHost probe).isSome = true) (expression : String) :
    (entity.toNative expression).isSome = true := by
  cases entity with
  | record d | protocol d => simpa [toNative, toHost] using h
  | union d => contradiction

lemma complete_of_toNative {entity : Entity} {probe : String}
    (h : (entity.toNative probe).isSome = true) : entity.head.spelling.complete = true := by
  have hname : entity.head.hostName.isSome = true := by
    cases entity with
    | record d | protocol d => simpa [toNative, head] using h
    | union d => contradiction
  obtain ⟨name, hname⟩ := Option.isSome_iff_exists.1 hname
  rw [Declaration.spelling, hname]
  rfl

end Entity

namespace NativeType

variable {store : Store} {t : NativeType} {probe : String}

/-- What can be made of an object of the bridge can be handed to the bridge.  The converse fails, as
for `interface{}`. -/
lemma isSome_toNative_of_toHost (h : (t.toHost store probe).isSome = true) (expression : String) :
    (t.toNative store expression).isSome = true := by
  induction t using NativeType.recursion with
  | primitive _ | string => rfl
  | named _ | unknown _ _ => contradiction
  | function result params _ _ => simp [toHost] at h
  | entity id =>
      rw [toHost] at h
      rw [toNative]
      cases hentity : store.entity? id with
      | none => simp [hentity] at h
      | some entity =>
          rw [hentity] at h
          exact entity.isSome_toNative_of_toHost h expression
  | pointer _ ih | array _ _ ih | const _ ih | strong _ ih | nullable _ _ ih | external _ ih =>
      rw [toHost] at h
      rw [toNative]
      exact ih h

/-- What can be handed to the bridge has a complete name: its leaf is built in, a string, or an
entity that has a name. -/
lemma complete_of_toNative (h : (t.toNative store probe).isSome = true) :
    (t.spelling store).complete = true := by
  induction t using NativeType.recursion with
  | primitive _ | string => rfl
  | named _ | unknown _ _ => contradiction
  | function result params _ _ => simp [toNative] at h
  | entity id =>
      rw [toNative] at h
      rw [spelling, Store.spelling]
      cases hentity : store.entity? id with
      | none => simp [hentity] at h
      | some entity =>
          rw [hentity] at h
          exact entity.complete_of_toNative h
  | pointer _ ih | array _ _ ih | const _ ih | strong _ ih | nullable _ _ ih | external _ ih =>
      rw [toNative] at h
      rw [spelling]
      exact ih h

end NativeType

end FrameworkBindings
