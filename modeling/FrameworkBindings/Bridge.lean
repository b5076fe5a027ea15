import FrameworkBindings.Store

/-!
# The bridge

How a native type looks on the Go side: its name there, and the expressions that carry a value
across the bridge in either direction.  Each of the three may fail, and callers then do with less.

## Groups

* `Spelling` — a Go type, complete or with a comment where a part has no name.
* `NativeType.spelling`, `Prototype.spelling` — the Go name of a type, the Go signature of a
  function.
* `NativeType.toNative`, `NativeType.toHost` — the casts of an expression, where there is one.

**Three questions of their own.**  A type may have a name and no cast, as a function does, which
would need a trampoline on the way.  It may have a cast one way only: anything can be handed over as
`interface{}`, and nothing can be read back as that.  So the three are separate functions over the
same tree, and each looks through qualifiers and asks the store about the entities that a type
mentions.

**Incomplete names.**  A spelling is always some text that Go accepts as a type; `complete` tells
whether it is the name of the type or `interface{}` with a comment.  Partial names are of use where
a result can be left to the caller, and everywhere else the member is skipped.

`spelling_function` says that the name of a function type is `func` and its signature; of the types
in a signature only their spellings count (`Prototype.spelling_map`), and it is complete if these
are (`Prototype.complete_spelling_iff`).
-/

namespace FrameworkBindings

/-- The Go text of a type.  It is complete if it holds no comment in the place of a type. -/
structure Spelling where
  text : String
  complete : Bool
deriving DecidableEq

namespace Spelling

/-- A name that is all there, with nothing left to a comment. -/
def exact (text : String) : Spelling := ⟨text, true⟩

/-- The name of the type that fits all, with a comment on what is missing, if there is one. -/
def missing (comment : String) : Spelling :=
  ⟨NativeType.anyName ++ if comment = "" then "" else " /* " ++ comment ++ " */", false⟩

/-- The spelling with `text` in front, which says nothing about completeness. -/
def after (text : String) (spelling : Spelling) : Spelling :=
  { spelling with text := text ++ spelling.text }

/-- The text, if it is complete: a name that can be relied on. -/
def name? (spelling : Spelling) : Option String :=
  if spelling.complete then some spelling.text else none

/-- What is said of a type without a complete name, where a member is skipped on its account. -/
def complaint (spelling : Spelling) : String :=
  "type cannot be represented yet: " ++ spelling.text

/-- A parameter list and a result, complete if all of them are. -/
def signature (params : List Spelling) (result : Option Spelling) : Spelling where
  text :=
    "(" ++ ", ".intercalate (params.map text) ++ ")" ++
      result.elim "" fun r => " " ++ r.text
  complete := params.all complete && result.all complete

end Spelling

/-! ## Entities on the Go side -/

namespace Declaration

/-- The Go name of a declared type; a comment with its reference id while it has no name. -/
def spelling (head : Declaration) : Spelling :=
  match head.hostName with
  | some name => .exact name
  | none => .missing ("unresolved " ++ head.refid)

end Declaration

namespace Entity

/-- The Go expression that hands a value of the entity to the bridge.  Wrappers of records are
objects of the bridge themselves, and so are values of interfaces; unions do not cross. -/
def toNative (entity : Entity) (expression : String) : Option String :=
  match entity with
  | .record d => d.head.hostName.map fun _ => expression
  | .protocol d => d.head.hostName.map fun _ => expression
  | .union _ => none

/-- The Go expression that makes a value of the entity from an object of the bridge. -/
def toHost (entity : Entity) (expression : String) : Option String :=
  match entity with
  | .record d => d.head.hostName.map fun name => "As" ++ name ++ "(" ++ expression ++ ")"
  | .protocol d => d.head.hostName.map fun _ => expression
  | .union _ => none

end Entity

namespace Store

/-- The Go name of the entity in a slot; for a slot that there is not, a comment with its label. -/
def spelling (store : Store) (id : EntityId) : Spelling :=
  match store.entity? id with
  | some entity => entity.head.spelling
  | none => .missing id.label

end Store

/-! ## Types on the Go side -/

namespace NativeType

/-- What stands before the type of a parameter: its name, or one by its place if others have
names. -/
def paramLabel (anyNamed : Bool) (place : Nat) (name : String) : String :=
  if name = "" then if anyNamed then "arg" ++ toString place ++ " " else ""
  else Identifier.unexported name ++ " "

mutual

/-- The Go name of a type.  Pointers and arrays put a sign in front of the name of what they hold;
qualifiers put nothing there. -/
def spelling (store : Store) : NativeType → Spelling
  | .primitive name | .named name => .exact name
  | .string => .exact "string"
  | .pointer e => (e.spelling store).after "*"
  | .array e size => (e.spelling store).after ("[" ++ size ++ "]")
  | .const e | .strong e | .external e | .nullable e _ => e.spelling store
  | .function none params =>
    let params := paramSpellings store (params.any (·.name != "")) 0 params
    (Spelling.signature params none).after "func"
  | .function (some r) params =>
    let params := paramSpellings store (params.any (·.name != "")) 0 params
    (Spelling.signature params (some (r.spelling store))).after "func"
  | .unknown _ comment => .missing comment
  | .entity id => store.spelling id

/-- The parameters of a function, counted from `place`, with their names.  Go wants names for all of
them or for none, so `anyNamed` decides for the whole list. -/
def paramSpellings (store : Store) (anyNamed : Bool) (place : Nat) :
    List (Param NativeType) → List Spelling
  | [] => []
  | ⟨name, t⟩ :: params =>
    (t.spelling store).after (paramLabel anyNamed place name)
      :: paramSpellings store anyNamed (place + 1) params

end

/-- The Go expression that hands a value of the type to the bridge, if there is one.  Functions
would need trampolines, and names that no entity has claimed are not known to the bridge. -/
def toNative (store : Store) (expression : String) : NativeType → Option String
  | .primitive _ => some expression
  | .string => some ("foundation.NSStringFromString(" ++ expression ++ ")")
  | .named _ | .unknown _ _ | .function _ _ => none
  | .entity id => (store.entity? id).bind (·.toNative expression)
  | .pointer e | .array e _ | .const e | .strong e | .external e | .nullable e _ =>
    e.toNative store expression

/-- How a built-in Go type is read from an object of the bridge: by a method that gives its widest
relative, and a conversion. -/
def primitiveToHost (name expression : String) : Option String :=
  let convert (reader : String) := name ++ "(" ++ expression ++ "." ++ reader ++ "())"
  match name with
  | "bool" => some (expression ++ ".Bool()")
  | "int64" => some (expression ++ ".Int()")
  | "int" | "int8" | "int16" | "int32" => some (convert "Int")
  | "uint64" => some (expression ++ ".Uint()")
  | "uint" | "uint8" | "uint16" | "uint32" | "byte" => some (convert "Uint")
  | "float64" => some (expression ++ ".Float()")
  | "float32" => some (convert "Float")
  | "uintptr" => some (expression ++ ".Pointer()")
  | _ => none

/-- The Go expression that makes a value of the type from an object of the bridge, if there is one.
A pointer is cast as what it points to. -/
def toHost (store : Store) (expression : String) : NativeType → Option String
  | .primitive name => primitiveToHost name expression
  | .string => some (expression ++ ".String()")
  | .named _ | .unknown _ _ | .function _ _ => none
  | .entity id => (store.entity? id).bind (·.toHost expression)
  | .pointer e | .array e _ | .const e | .strong e | .external e | .nullable e _ =>
    e.toHost store expression

end NativeType

namespace Prototype

/-- The Go signature of a function: parameters in parentheses, then the result, if there is one. -/
def spelling (store : Store) (prototype : Prototype) : Spelling :=
  .signature
    (NativeType.paramSpellings store (prototype.params.any (·.name != "")) 0 prototype.params)
    (prototype.result.map (·.spelling store))

end Prototype

/-- A function type is spelled `func` and its signature, so what is shown of signatures holds of
it. -/
theorem NativeType.spelling_function (store : Store) (result : Option NativeType)
    (params : List (Param NativeType)) :
    (NativeType.function result params).spelling store =
      ((Prototype.mk result params).spelling store).after "func" := by
  cases result <;> rfl

namespace NativeType

variable {store store' : Store} {f : NativeType → NativeType}

theorem paramSpellings_map {params : List (Param NativeType)}
    (h : ∀ p ∈ params, (f p.type).spelling store' = p.type.spelling store) (anyNamed : Bool)
    (place : Nat) :
    paramSpellings store' anyNamed place (params.map fun p => ⟨p.name, f p.type⟩) =
      paramSpellings store anyNamed place params := by
  induction params generalizing place with
  | nil => rfl
  | cons p params ih =>
    rw [List.map_cons, paramSpellings, paramSpellings, h p List.mem_cons_self,
      ih fun q hq => h q (List.mem_cons_of_mem p hq)]

/-- Parameters are complete if their types are: the names in front of them do not count. -/
theorem all_complete_paramSpellings (store : Store) (params : List (Param NativeType))
    (anyNamed : Bool) (place : Nat) :
    (paramSpellings store anyNamed place params).all Spelling.complete =
      params.all fun p => (p.type.spelling store).complete := by
  induction params generalizing place with
  | nil => rfl
  | cons p params ih =>
    rw [paramSpellings, List.all_cons, List.all_cons, ih]
    rfl

end NativeType

namespace Prototype

variable {store store' : Store} {result : Option NativeType} {params : List (Param NativeType)}

/-- Types that are spelled alike make signatures that are, even if the stores differ that they are
spelled with.  Renaming slots and erasing qualifiers are maps of this kind. -/
theorem spelling_map {f : NativeType → NativeType}
    (hresult : ∀ r, result = some r → (f r).spelling store' = r.spelling store)
    (hparams : ∀ p ∈ params, (f p.type).spelling store' = p.type.spelling store) :
    (Prototype.mk (result.map f) (params.map fun p => ⟨p.name, f p.type⟩)).spelling store' =
      (Prototype.mk result params).spelling store := by
  have hnamed : ((params.map fun p => (⟨p.name, f p.type⟩ : Param NativeType)).any
      (·.name != "")) = params.any (·.name != "") := by
    rw [List.any_map]
    rfl
  have hresult' : (result.map f).map (·.spelling store') = result.map (·.spelling store) := by
    cases result with
    | none => rfl
    | some r => exact congrArg some (hresult r rfl)
  simp only [spelling, hnamed, NativeType.paramSpellings_map hparams, hresult']

/-- A signature is complete if all its types are, the result included. -/
theorem complete_spelling_iff :
    ((Prototype.mk result params).spelling store).complete = true ↔
      (∀ r, result = some r → (r.spelling store).complete = true) ∧
        ∀ p ∈ params, (p.type.spelling store).complete = true := by
  simp only [spelling, Spelling.signature, NativeType.all_complete_paramSpellings,
    Bool.and_eq_true, List.all_eq_true]
  cases result <;> simp [and_comm]

end Prototype

end FrameworkBindings
