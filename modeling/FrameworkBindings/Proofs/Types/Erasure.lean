import Mathlib.Logic.Relation
import FrameworkBindings.Bridge
import FrameworkBindings.Proofs.Types.References

/-!
# What shows of a type on the Go side

A type shows on the Go side by its name, which may have comments in it, and by its two casts.

**Qualifiers.**  `NativeType.Alike` says that two types show the same, whatever the store.  Types
are alike if what they nest is, so a type is like its `erased` form, in which no qualifier is left
at any depth, and like its `unqualified` form, in which the outer ones are gone.

**Leaves.**  The name of a type is complete if the names of its leaves are
(`NativeType.complete_spelling_iff`): there is no text that was not understood (`hasUnknown`), and
what is in the slots that it refers to has a name (`Store.Names`).

**How the relation is used.**  Being alike is an equivalence and goes through pointers, arrays and
functions, so proofs rewrite one part of a type after the other without looking at stores or
expressions.  The reader of signatures puts qualifiers in several places, depending on the order of
its rules; that two texts are read alike is then a statement on what the rules leave of them.
-/

namespace FrameworkBindings

/-! ## Types that look alike -/

/-- The two types look the same on the Go side, whatever the store: by name, comments included, and
by both casts of every expression. -/
structure NativeType.Alike (t t' : NativeType) : Prop where
  spelling : ∀ store, t.spelling store = t'.spelling store
  toNative : ∀ store expression, t.toNative store expression = t'.toNative store expression
  toHost : ∀ store expression, t.toHost store expression = t'.toHost store expression

namespace NativeType

variable {t t' t'' : NativeType}

namespace Alike

@[refl] lemma refl (t : NativeType) : t.Alike t := ⟨fun _ => rfl, fun _ _ => rfl, fun _ _ => rfl⟩

@[symm] lemma symm (h : t.Alike t') : t'.Alike t :=
  ⟨fun store => (h.spelling store).symm, fun store e => (h.toNative store e).symm,
    fun store e => (h.toHost store e).symm⟩

@[trans] lemma trans (h : t.Alike t') (h' : t'.Alike t'') : t.Alike t'' :=
  ⟨fun store => (h.spelling store).trans (h'.spelling store),
    fun store e => (h.toNative store e).trans (h'.toNative store e),
    fun store e => (h.toHost store e).trans (h'.toHost store e)⟩

lemma pointer (h : t.Alike t') : (NativeType.pointer t).Alike (.pointer t') :=
  ⟨fun store => congrArg (Spelling.after "*") (h.spelling store), h.toNative, h.toHost⟩

lemma array (h : t.Alike t') (size : String) : (NativeType.array t size).Alike (.array t' size) :=
  ⟨fun store => congrArg (Spelling.after ("[" ++ size ++ "]")) (h.spelling store), h.toNative,
    h.toHost⟩

/-- Functions look alike if all their types do: the names of parameters are the same on both
sides. -/
lemma function_map {f : NativeType → NativeType} {result : Option NativeType}
    {params : List (Param NativeType)} (hresult : ∀ r, result = some r → r.Alike (f r))
    (hparams : ∀ p ∈ params, p.type.Alike (f p.type)) :
    (NativeType.function result params).Alike
      (.function (result.map f) (params.map fun p => ⟨p.name, f p.type⟩)) where
  spelling store := by
    rw [spelling_function, spelling_function]
    exact congrArg _ (Prototype.spelling_map (fun r hr => ((hresult r hr).spelling store).symm)
      fun p hp => ((hparams p hp).spelling store).symm).symm
  toNative _ _ := rfl
  toHost _ _ := rfl

end Alike

/-! ## Qualifiers -/

mutual

/-- The type without its qualifiers, at any depth.  Pointers and arrays are none: they show. -/
def erased : NativeType → NativeType
  | .primitive name => .primitive name
  | .named name => .named name
  | .string => .string
  | .pointer e => .pointer e.erased
  | .array e size => .array e.erased size
  | .const e | .strong e | .nullable e _ | .external e => e.erased
  | .function none params => .function none (erasedParams params)
  | .function (some r) params => .function (some r.erased) (erasedParams params)
  | .unknown raw comment => .unknown raw comment
  | .entity id => .entity id

/-- Parameters without the qualifiers in their types. -/
def erasedParams : List (Param NativeType) → List (Param NativeType)
  | [] => []
  | ⟨name, t⟩ :: params => ⟨name, t.erased⟩ :: erasedParams params

end

lemma erasedParams_eq_map (params : List (Param NativeType)) :
    erasedParams params = params.map fun p => ⟨p.name, p.type.erased⟩ := by
  induction params with
  | nil => rfl
  | cons p params ih => rw [erasedParams, ih, List.map_cons]

lemma erased_function (result : Option NativeType) (params : List (Param NativeType)) :
    (NativeType.function result params).erased =
      .function (result.map erased) (params.map fun p => ⟨p.name, p.type.erased⟩) := by
  cases result <;> simp [erased, erasedParams_eq_map]

/-- Qualifiers do not show, by induction on the type. -/
lemma alike_erased (t : NativeType) : t.Alike t.erased := by
  induction t using NativeType.recursion with
  | function result params ihr ihp =>
      rw [erased_function]
      exact Alike.function_map ihr ihp
  | pointer _ ih => exact ih.pointer
  | array _ size ih => exact ih.array size
  | const _ ih | strong _ ih | nullable _ _ ih | external _ ih =>
      exact ⟨ih.spelling, ih.toNative, ih.toHost⟩
  | primitive _ | named _ | string | unknown _ _ | entity _ => exact .refl _

/-- The outer qualifiers are among those that are erased. -/
lemma erased_unqualified (t : NativeType) : t.unqualified.erased = t.erased := by
  induction t using NativeType.recursion with
  | const _ ih | strong _ ih | nullable _ _ ih | external _ ih => rw [unqualified, ih, erased]
  | primitive _ | named _ | string | pointer _ _ | array _ _ _ | function _ _ _ _ | unknown _ _
  | entity _ => rfl

lemma alike_unqualified (t : NativeType) : t.Alike t.unqualified := by
  have h := t.unqualified.alike_erased
  rw [erased_unqualified] at h
  exact t.alike_erased.trans h.symm

/-! ## Leaves -/

mutual

/-- Whether there is a text in the type that was not understood, at any depth, behind qualifiers
too. -/
def hasUnknown : NativeType → Bool
  | .unknown _ _ => true
  | .primitive _ | .named _ | .string | .entity _ => false
  | .pointer e | .array e _ | .const e | .strong e | .nullable e _ | .external e => e.hasUnknown
  | .function none params => paramsHaveUnknown params
  | .function (some r) params => r.hasUnknown || paramsHaveUnknown params

/-- Whether there is such a text in the types of parameters. -/
def paramsHaveUnknown : List (Param NativeType) → Bool
  | [] => false
  | ⟨_, t⟩ :: params => t.hasUnknown || paramsHaveUnknown params

end

lemma paramsHaveUnknown_eq_any (params : List (Param NativeType)) :
    paramsHaveUnknown params = params.any fun p => p.type.hasUnknown := by
  induction params with
  | nil => rfl
  | cons p params ih => rw [paramsHaveUnknown, ih, List.any_cons]

lemma hasUnknown_function_eq_false_iff {result : Option NativeType}
    {params : List (Param NativeType)} :
    (NativeType.function result params).hasUnknown = false ↔
      (∀ r, result = some r → r.hasUnknown = false) ∧ ∀ p ∈ params, p.type.hasUnknown = false := by
  cases result <;> simp [hasUnknown, paramsHaveUnknown_eq_any]

end NativeType

/-- The store has something under the slot, and it has a name, so types that refer to it can be
spelled. -/
def Store.Names (store : Store) (id : EntityId) : Prop :=
  ∃ entity, store.entity? id = some entity ∧ entity.name ≠ ""

/-- A declaration has a complete Go name if it has a name. -/
lemma Declaration.complete_spelling_iff {head : Declaration} :
    head.spelling.complete = true ↔ head.name ≠ "" := by
  rw [ne_eq, ← hostName_eq_none_iff, spelling]
  cases head.hostName <;> simp [Spelling.missing, Spelling.exact]

/-- A slot has a complete Go name if what is in it has a name. -/
lemma Store.complete_spelling_iff {store : Store} {id : EntityId} :
    (store.spelling id).complete = true ↔ store.Names id := by
  rw [Store.spelling, Store.Names]
  cases store.entity? id with
  | none => simp [Spelling.missing]
  | some entity => simpa [Entity.name] using entity.head.complete_spelling_iff

namespace NativeType

/-- **A type has a Go name just if its leaves have.** -/
lemma complete_spelling_iff {store : Store} {t : NativeType} :
    (t.spelling store).complete = true ↔
      t.hasUnknown = false ∧ ∀ id ∈ t.ids, store.Names id := by
  induction t using NativeType.recursion with
  | function result params ihr ihp =>
      have hcomplete : ((NativeType.function result params).spelling store).complete = true ↔
          (∀ r, result = some r → (r.spelling store).complete = true) ∧
            ∀ p ∈ params, (p.type.spelling store).complete = true := by
        rw [spelling_function]
        exact Prototype.complete_spelling_iff
      rw [hcomplete, hasUnknown_function_eq_false_iff]
      constructor
      · rintro ⟨hresult, hparams⟩
        refine ⟨⟨fun r hr => ((ihr r hr).1 (hresult r hr)).1,
          fun p hp => ((ihp p hp).1 (hparams p hp)).1⟩, fun id hid => ?_⟩
        rcases mem_ids_function.1 hid with ⟨r, hr, hmem⟩ | ⟨p, hp, hmem⟩
        · exact ((ihr r hr).1 (hresult r hr)).2 id hmem
        · exact ((ihp p hp).1 (hparams p hp)).2 id hmem
      · rintro ⟨⟨hresult, hparams⟩, hids⟩
        refine ⟨fun r hr => (ihr r hr).2 ⟨hresult r hr, fun id hid => hids id ?_⟩,
          fun p hp => (ihp p hp).2 ⟨hparams p hp, fun id hid => hids id ?_⟩⟩
        · exact mem_ids_function.2 (.inl ⟨r, hr, hid⟩)
        · exact mem_ids_function.2 (.inr ⟨p, hp, hid⟩)
  | entity id => simpa [hasUnknown, ids, spelling] using Store.complete_spelling_iff
  | unknown raw comment => simp [spelling, Spelling.missing, hasUnknown]
  | primitive _ | named _ | string => simp [spelling, Spelling.exact, hasUnknown, ids]
  | pointer _ ih | array _ _ ih | const _ ih | strong _ ih | nullable _ _ ih | external _ ih =>
      exact ih

/-- **Qualifiers never show on the Go side**, wherever they stand in a type, and whether the type
has a Go name is decided by its leaves.  Both are proved by induction on the type, as a qualifier
may stand in a parameter of a parameter. -/
theorem alike_erased_and_complete_iff (t : NativeType) :
    t.Alike t.erased ∧ t.Alike t.unqualified ∧
      ∀ store : Store, (t.spelling store).complete = true ↔
        t.hasUnknown = false ∧
          ∀ id ∈ t.ids, ∃ entity, store.entity? id = some entity ∧ entity.name ≠ "" :=
  ⟨t.alike_erased, t.alike_unqualified, fun _ => complete_spelling_iff⟩

end NativeType

end FrameworkBindings
