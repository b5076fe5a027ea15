import FrameworkBindings.Text.Quoted

/-!
# Native types

The types that Objective-C signatures are read as.  A type is a tree of pointers, arrays, qualifiers
and functions over names, and refers to the entities of a store by their slots.

* `EntityId` — the slot of an entity in a store.
* `NativeType` — the types; `NativeType.function` nests results and parameters.
* `Prototype` — the result and the parameters of a function, as a value of its own.
* `NativeType.describe` — a type in words, for reports.
* `NativeType.recursion` — induction over types, with one case a constructor.

**Slots, not entities.**  A type that names an entity holds the slot of it.  What is in the slot may
be defined later than the type is read, and reaches every type that mentions it without a change to
the type: this is how references to what comes later in the documentation work.

**Qualifiers stay.**  `const`, ownership, nullability and visibility are nodes of the tree, although
nothing of them shows on the Go side.  They are kept for the description in words, and so that a
type can be compared with the text that it was read from.

**Induction.**  Functions hold types in an option and in a list, so the induction that comes with
the data type has extra cases for these.  `recursion` has none: for a function it gives hypotheses
on the result, if there is one, and on each parameter.
-/

namespace FrameworkBindings

/-- The slot of an entity in a store; it stays the same from the first mention on. -/
structure EntityId where
  slot : Nat
deriving DecidableEq, Inhabited

/-- The text by which messages name a slot, for want of a name. -/
def EntityId.label (id : EntityId) : String :=
  "#" ++ toString id.slot

/-- A parameter: its name, which may be empty, and what it is declared as, a text at first and then
a type. -/
structure Param (τ : Type) where
  name : String
  type : τ
deriving DecidableEq

/-- A type of the native side, as a signature spells it. -/
inductive NativeType where
  /-- A built-in type, by its Go name. -/
  | primitive (name : String)
  /-- A name that no entity has claimed. -/
  | named (name : String)
  /-- The string object, a `string` in Go. -/
  | string
  | pointer (elem : NativeType)
  /-- An array; `size` is kept as it was written, may be empty, and need not be a number. -/
  | array (elem : NativeType) (size : String)
  | const (elem : NativeType)
  /-- An ownership qualifier; strong, weak and unretained are not told apart. -/
  | strong (elem : NativeType)
  /-- A statement on whether null is allowed. -/
  | nullable (elem : NativeType) (allowsNull : Bool)
  /-- A mark of symbol visibility. -/
  | external (elem : NativeType)
  /-- A function; without a result it returns nothing. -/
  | function (result : Option NativeType) (params : List (Param NativeType))
  /-- A text that was not understood, with a comment on it that stands in its place on the Go
  side. -/
  | unknown (raw comment : String)
  | entity (id : EntityId)

/-- The result of a function, if any, and its parameters, where the function has a name of its own
and is no type. -/
structure Prototype where
  result : Option NativeType
  params : List (Param NativeType)

namespace NativeType

/-- The Go type that anything fits in.  It stands for objects of any class and for what is not
known. -/
def anyName : String := "interface\x7b\x7d"

/-- A text that was not understood and is its own comment, so that a reader of the Go side sees what
was there. -/
def unread (raw : String) : NativeType := .unknown raw raw

/-- What stands in for `void` where a type is needed: behind a qualifier, in an array or as a
parameter. -/
def voidValue : NativeType := .unread "void"

/-- The type under the outermost pointer, array or qualifier; names and functions have none. -/
def elem? : NativeType → Option NativeType
  | .pointer e | .const e | .strong e | .external e | .array e _ | .nullable e _ => some e
  | _ => none

/-- The type without its outer qualifiers.  Those under a pointer or in an array stay. -/
def unqualified : NativeType → NativeType
  | .const e | .strong e | .external e | .nullable e _ => e.unqualified
  | t => t

/-- Whether the type is a text that was not understood. -/
def isUnknown : NativeType → Bool
  | .unknown _ _ => true
  | _ => false

mutual

/-- The type in words, qualifiers included, from the outside in. -/
def describe : NativeType → String
  | .primitive name => name
  | .named name => "named " ++ name
  | .string => "NSString"
  | .pointer e => "pointer to " ++ e.describe
  | .array e size => "array[" ++ size ++ "] of " ++ e.describe
  | .const e => "const " ++ e.describe
  | .strong e => "strong " ++ e.describe
  | .nullable e allowsNull => (if allowsNull then "nullable " else "nonnull ") ++ e.describe
  | .external e => "extern " ++ e.describe
  | .function none params => "function(" ++ ", ".intercalate (describeParams params) ++ ")"
  | .function (some r) params =>
    "function(" ++ ", ".intercalate (describeParams params) ++ ") -> " ++ r.describe
  | .unknown raw _ => "unknown " ++ Text.quoted raw
  | .entity id => "entity " ++ id.label

/-- The types of parameters in words.  The recursion is written out, as it goes through
`describe`. -/
def describeParams : List (Param NativeType) → List String
  | [] => []
  | ⟨_, t⟩ :: params => t.describe :: describeParams params

end

/-- The recursion is a map, as which it is easier to reason about. -/
theorem describeParams_eq_map (params : List (Param NativeType)) :
    describeParams params = params.map fun p => p.type.describe := by
  induction params with
  | nil => rfl
  | cons p params ih => simp [describeParams, ih]

/-- **Induction over types**: one case a constructor, with hypotheses for all parts of a function.
The list of parameters needs no case of its own. -/
theorem recursion {motive : NativeType → Prop}
    (primitive : ∀ name, motive (.primitive name))
    (named : ∀ name, motive (.named name))
    (string : motive .string)
    (pointer : ∀ e, motive e → motive (.pointer e))
    (array : ∀ e size, motive e → motive (.array e size))
    (const : ∀ e, motive e → motive (.const e))
    (strong : ∀ e, motive e → motive (.strong e))
    (nullable : ∀ e allowsNull, motive e → motive (.nullable e allowsNull))
    (external : ∀ e, motive e → motive (.external e))
    (function : ∀ result params, (∀ r, result = some r → motive r) →
      (∀ p ∈ params, motive p.type) → motive (.function result params))
    (unknown : ∀ raw comment, motive (.unknown raw comment))
    (entity : ∀ id, motive (.entity id)) (t : NativeType) : motive t :=
  NativeType.rec (motive_1 := motive) (motive_2 := fun result => ∀ r, result = some r → motive r)
    (motive_3 := fun params => ∀ p ∈ params, motive p.type) (motive_4 := fun p => motive p.type)
    primitive named string pointer array const strong nullable external function unknown entity
    (by simp) (by simp_all) (by simp) (by simp_all) (fun _ _ h => h) t

end NativeType

end FrameworkBindings
