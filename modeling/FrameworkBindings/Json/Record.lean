import FrameworkBindings.Json.Value

/-!
# Records in JSON

A record is written as an object, or as the array of its fields in their order.  In an object the
keys may come in any order; keys that are no fields do not count, but a field must not be given
twice.  An array may be cut short.

* `Value.fields?` — the fields of a record by name.
* `required`, `optional` — one field, which must be there or has a default.
* `Value.text?`, `Value.bool?`, `Value.uint32?`, `Value.int64?`, `Value.list?`, `Value.nullable?` —
  what stands in a field.

The two forms are made into one here, a function from names to values, so a record has a single
decoder.  A field of an array that was cut short is missing like one that is not among the keys: it
has its default, or the record is refused.  Numbers are read as integers and fitted into the width
of their field afterwards; what does not fit is refused and never wrapped.

**Faults** are not told apart.  A record of the wrong shape, a field given twice and a value that
does not fit all give `none`: what is read here either is the record that was meant or is refused as
a whole, and nothing is put together from the part that could be read.
-/

namespace FrameworkBindings.Json

/-- The fields of a record that has fields called `names`, as far as they are given.  It fails on
what is no record of that shape. -/
def Value.fields? (names : List String) : Value → Option (String → Option Value)
  | .scalar _ => none
  | .array items =>
    if items.length ≤ names.length then some fun name => (names.zip items).lookup name else none
  | .object members =>
    if members.all (·.1.isSome) && names.all fun name => members.countP (·.1 == some name) ≤ 1 then
      some fun name => (members.find? (·.1 == some name)).map (·.2)
    else none

/-- A field that must be there, or the record is refused. -/
def required {α : Type} (fields : String → Option Value) (name : String)
    (decode : Value → Option α) : Option α :=
  (fields name).bind decode

/-- A field that has a default.  The default stands in for a field that is missing, not for a bad
one. -/
def optional {α : Type} (fields : String → Option Value) (name : String) (default : α)
    (decode : Value → Option α) : Option α :=
  match fields name with
  | none => some default
  | some value => decode value

namespace Value

/-- The text in a field, if the field holds one that could be read. -/
def text? : Value → Option String
  | .scalar (.string literal) => literal
  | _ => none

/-- The truth value in a field, if the field holds one; no number and no word stands for it. -/
def bool? : Value → Option Bool
  | .scalar (.bool value) => some value
  | _ => none

/-- The whole number in a field, if the field holds one that was written without a fraction. -/
def integer? : Value → Option Int
  | .scalar (.integer value) => some value
  | _ => none

/-- The number of 32 bits without sign in a field; others are refused, negative ones among them. -/
def uint32? (value : Value) : Option UInt32 :=
  value.integer?.bind fun n =>
    if 0 ≤ n ∧ n.toNat < UInt32.size then some (UInt32.ofNat n.toNat) else none

/-- The number of 64 bits with sign in a field; others are refused. -/
def int64? (value : Value) : Option Int64 :=
  value.integer?.bind fun n =>
    if Int64.minValue.toInt ≤ n ∧ n ≤ Int64.maxValue.toInt then some (Int64.ofInt n) else none

/-- The list in a field, if each of its items can be decoded. -/
def list? {α : Type} (decode : Value → Option α) : Value → Option (List α)
  | .array items => items.mapM decode
  | _ => none

/-- What stands in a field that may hold `null`. -/
def nullable? {α : Type} (decode : Value → Option α) : Value → Option (Option α)
  | .scalar .null => some none
  | value => (decode value).map some

end Value

end FrameworkBindings.Json
