/-!
# JSON values

Documents are trees of scalars, arrays and objects.  Objects keep their members in the order of the
text, repetitions included, because a reader of records must see a key that is given twice.

* `Literal` — what a string in the text denotes: nothing, if its escapes leave half of a surrogate
  pair.
* `Scalar`, `Value` — the trees.  Whole numbers and numbers with a fraction or an exponent differ.

A number with a fraction is kept as it was written, as no field here holds one and its value is
never asked for.  A string with half of a surrogate pair is kept too, without a text: it is harmless
where nobody looks and refused where a text is wanted.
-/

namespace FrameworkBindings.Json

/-- The text a string literal stands for, `none` if its escapes leave half of a surrogate pair,
which is no text. -/
abbrev Literal := Option String

/-- A value without parts, of one of the kinds that JSON tells apart. -/
inductive Scalar where
  | null
  | bool (value : Bool)
  | integer (value : Int)
  /-- A number written with a fraction or an exponent, or as `-0`; its text. -/
  | decimal (text : String)
  | string (literal : Literal)
deriving DecidableEq

/-- A JSON value: a scalar, or a container of values. -/
inductive Value where
  | scalar (value : Scalar)
  | array (items : List Value)
  | object (members : List (Literal × Value))

namespace Value

/-- The value that is not there. -/
def null : Value := .scalar .null

/-- A truth value, as a leaf of a value. -/
def bool (value : Bool) : Value := .scalar (.bool value)

/-- A whole number, as a leaf of a value. -/
def integer (value : Int) : Value := .scalar (.integer value)

/-- A text, as a leaf of a value; it is one that could be read. -/
def text (value : String) : Value := .scalar (.string (some value))

/-- An object whose keys are texts, in the order given. -/
def record (members : List (String × Value)) : Value :=
  .object (members.map fun member => (some member.1, member.2))

/-- A text, or `null` where there is none. -/
def optionalText (value : Option String) : Value :=
  value.elim null text

/-- An array of texts. -/
def texts (values : List String) : Value :=
  .array (values.map text)

end Value

end FrameworkBindings.Json
