import FrameworkBindings.Signature.Form

/-!
# Reading signatures

A signature is read by finding its form and reading the parts.  The parts are shorter than the
whole, so reading ends.

* `parse` — the type a signature spells, `none` for `void`; it fails if brackets do not balance.
* `unrecognized` — the pieces of a signature that no rule applied to, in the order of reading.
* `parse_eq` — one step of reading.
* `parts_induction` — induction as the reader goes, from the parts to the whole.

**Splitting the work.**  `Form.of` applies one rule and gives the texts of the parts;
`Form.interpret` puts the parts together once they are read, by whatever reader it is given.  So
each rule is stated without recursion, and the recursion without any rule.  `parse` ties the knot:
it hands itself to `interpret`, guarded by a test that the part is shorter, and `parse_eq` takes the
guard away, as `length_lt_of_mem_parts` shows that it always holds.

**No type and no success.**  A reading has three outcomes.  A malformed text is an error; `void` is
a success without a type; all else is a type, if need be one that says that the text was not
understood.  Where `void` cannot stand, `someType` puts a type in its place.
-/

namespace FrameworkBindings.Signature

open Text

/-- A signature, or a part of one, whose brackets do not balance.  It is the text that was being
read, blanks apart, and not always the whole. -/
structure Malformed where
  signature : String
  fault : Fault
deriving DecidableEq

/-- The complaint about a malformed signature, with the text in quotes. -/
def Malformed.message (m : Malformed) : String :=
  "Malformed signature " ++ quoted m.signature ++ ": " ++ m.fault.reason

/-- The outcome of reading: a fault, a type, or none for `void`. -/
abbrev Reading := Except Malformed (Option NativeType)

/-- The type read, where `void` will not do: what is pointed to or qualified has a type. -/
def someType (type : Option NativeType) : NativeType :=
  type.getD .voidValue

/-- Reads parameters one after the other; the first that is malformed ends the reading. -/
def readParams (read : List Char → Reading) :
    List (Param (List Char)) → Except Malformed (List (Param NativeType))
  | [] => .ok []
  | ⟨name, text⟩ :: params =>
    match read text with
    | .error e => .error e
    | .ok type => (readParams read params).map (⟨name, someType type⟩ :: ·)

/-- What a signature of the given form spells, if `read` reads its parts.  The result of a function
is read before the parameters, so its fault is the one that is reported. -/
def Form.interpret (sig : List Char) (read : List Char → Reading) : Form → Reading
  | .void => .ok none
  | .preset type => .ok (some type)
  | .malformed fault => .error ⟨String.ofList sig, fault⟩
  | .function result params =>
    match read result with
    | .error e => .error e
    | .ok type => (readParams read params).map fun params => some (.function type params)
  | .wrapped wrap inner => (read inner).map fun type => some (wrap.apply (someType type))
  | .array elem size =>
    (read elem).map fun type => some (.array (someType type) (String.ofList size))
  | .primitive name => .ok (some (.primitive name))
  | .named => .ok (some (.named (String.ofList sig)))
  | .unrecognized => .ok (some (.unread (String.ofList sig)))

/-- Reading parameters depends only on how their texts are read. -/
theorem readParams_congr {f g : List Char → Reading} {params : List (Param (List Char))}
    (h : ∀ p ∈ params, f p.type = g p.type) : readParams f params = readParams g params := by
  induction params with
  | nil => rfl
  | cons p params ih =>
    rw [readParams, readParams, h p (by simp), ih fun q hq => h q (by simp [hq])]

/-- What a form spells depends only on how its parts are read, which is what lets the guard of
`parse` go. -/
theorem Form.interpret_congr {sig : List Char} {f g : List Char → Reading} {form : Form}
    (h : ∀ part ∈ form.parts, f part = g part) : form.interpret sig f = form.interpret sig g := by
  cases form with
  | function result params =>
    have hparams : readParams f params = readParams g params :=
      readParams_congr fun p hp =>
        h p.type (List.mem_cons_of_mem _ (List.mem_map_of_mem hp))
    simp only [interpret, h result (by simp [parts]), hparams]
  | wrapped wrap inner => simp only [interpret, h inner (by simp [parts])]
  | array elem size => simp only [interpret, h elem (by simp [parts])]
  | _ => rfl

/-- Reads a signature; `none` means `void`.  The guard is there for termination only and always
holds. -/
def parse (text : List Char) : Reading :=
  (Form.of (trim text)).interpret (trim text) fun part =>
    if _h : part.length < text.length then parse part else .ok none
termination_by text.length

/-- **One step of reading**: find the form, read its parts, and put them together.  Every proof
about the reader unfolds it by this equation. -/
theorem parse_eq (text : List Char) :
    parse text = (Form.of (trim text)).interpret (trim text) parse := by
  rw [parse]
  refine Form.interpret_congr fun part hpart => ?_
  rw [dif_pos (Nat.lt_of_lt_of_le (length_lt_of_mem_parts hpart) (length_trim_le text))]

/-- **Induction as the reader goes**: what holds of a text if it holds of all parts that are read
for it holds of every text. -/
@[elab_as_elim]
theorem parts_induction {motive : List Char → Prop} (text : List Char)
    (step : ∀ text, (∀ part ∈ (Form.of (trim text)).parts, motive part) → motive text) :
    motive text :=
  step text fun part _hpart => parts_induction part step
termination_by text.length
decreasing_by exact Nat.lt_of_lt_of_le (length_lt_of_mem_parts _hpart) (length_trim_le text)

/-- The pieces no rule applied to, where `pieces` gives those of the parts.  Nothing is read after
the first part that fails, so nothing behind it is listed. -/
def Form.unrecognizedParts (sig : List Char) (pieces : List Char → List String) :
    Form → List String
  | .function result params =>
    (result :: params.map (·.type)).foldr
      (fun part rest => pieces part ++ match parse part with
        | .error _ => []
        | .ok _ => rest) []
  | .wrapped _ inner => pieces inner
  | .array elem _ => pieces elem
  | .unrecognized => [String.ofList sig]
  | _ => []

/-- The pieces of a signature that no rule applied to, in the order of reading.  The loader reports
them, and the type that is read holds them as unknown. -/
def unrecognized (text : List Char) : List String :=
  (Form.of (trim text)).unrecognizedParts (trim text) fun part =>
    if _h : part.length < text.length then unrecognized part else []
termination_by text.length

/-- Reads a signature; `none` means `void`.  This is the reader of the loader, on strings. -/
def ofText (text : String) : Reading :=
  parse text.toList

end FrameworkBindings.Signature
