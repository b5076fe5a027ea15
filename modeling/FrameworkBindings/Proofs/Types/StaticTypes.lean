import FrameworkBindings.Bridge
import FrameworkBindings.Proofs.Text.Conversions

/-!
# The static types of casts

A cast to the host is the text of a Go expression over an object of the bridge, and Go gives that
expression a type of its own.

**Expressions.**  `GoExpression` has what casts are made of: methods that read an object,
conversions of numbers and the wrappers of classes.  `HasType` are the rules of Go for these.  A
text has a type (`HasGoType`) if it can be read as an expression of that type, and then it has no
other, whatever the text of the object is (`HasGoType.unique`).

**Casts.**  `bottom` is what a type is under all its pointers, arrays and qualifiers, and that is
the type of a cast (`hasGoType_toHost`).  The Go name of the type has `marks` in front of that name
(`spelling_eq_bottom`), and these are for pointers and arrays only (`marks_eq_empty_iff`).

**Texts are not parsed.**  An expression gives a text, and two expressions might give the same one.
That they do not is shown by counting parentheses (`count_paren`): each call puts one pair into the
text, and what is called is the text in front of the first of them (`callee_inj`).  The text of the
object may hold anything, so nothing is said about it but that it is the same on both sides.
-/

namespace FrameworkBindings

open Text

/-- A Go expression over an object of the bridge, as far as casts make use of such. -/
inductive GoExpression where
  /-- The object itself. -/
  | object
  /-- What a method of the bridge reads from an object. -/
  | read (x : GoExpression) (reader : String)
  /-- A number as one of another type. -/
  | convert (type : String) (x : GoExpression)
  /-- An object in the wrapper of a class. -/
  | wrap (name : String) (x : GoExpression)

namespace GoExpression

/-- The type of the objects of the bridge, which all readers take. -/
def objectType : String := "objc.Object"

/-- The methods of the bridge that read an object, with the types of what they return. -/
def readers : List (String × String) :=
  [("Bool", "bool"), ("Int", "int64"), ("Uint", "uint64"), ("Float", "float64"),
    ("Pointer", "uintptr"), ("String", "string")]

/-- The types that Go converts into each other. -/
def numbers : List String :=
  ["int", "int8", "int16", "int32", "int64", "uint", "uint8", "uint16", "uint32", "uint64", "byte",
    "uintptr", "float32", "float64"]

/-- The text of the expression, if that of the object is `object`, which is put in unchanged. -/
def text (object : String) : GoExpression → String
  | .object => object
  | .read x reader => x.text object ++ "." ++ reader ++ "()"
  | .convert type x => type ++ "(" ++ x.text object ++ ")"
  | .wrap name x => "As" ++ name ++ "(" ++ x.text object ++ ")"

/-- The type that Go gives the expression.  A reader wants an object and a conversion a number. -/
inductive HasType : GoExpression → String → Prop where
  | object : HasType .object objectType
  | read {x : GoExpression} {reader type : String} (hx : HasType x objectType)
    (hreader : (reader, type) ∈ readers) : HasType (.read x reader) type
  | convert {x : GoExpression} {source type : String} (hx : HasType x source)
    (hsource : source ∈ numbers) (htype : type ∈ numbers) : HasType (.convert type x) type
  | wrap {x : GoExpression} {name : String} (hx : HasType x objectType)
    (hname : ∀ c ∈ name.toList, isWordChar c = true) : HasType (.wrap name x) name

end GoExpression

/-- The text is an expression of the type, if that of the object is `object`.  The expression is not
told, only that there is one. -/
def HasGoType (object text type : String) : Prop :=
  ∃ x : GoExpression, x.text object = text ∧ x.HasType type

namespace GoExpression

variable {x y : GoExpression} {object τ σ name reader : String}

/-! ## Unique types -/

lemma ne_objectType_of_word (h : ∀ c ∈ name.toList, isWordChar c = true) : name ≠ objectType := by
  rintro rfl
  exact absurd (h '.' (by decide)) (by decide +kernel)

/-- Only the object has the type of objects: every other expression has made something of it. -/
lemma HasType.eq_object (h : x.HasType objectType) : x = .object := by
  cases h with
  | object => rfl
  | read hx hreader => exact absurd hreader (by simp [readers, objectType])
  | convert hx hsource htype => exact absurd htype (by decide)
  | wrap hx hname => exact absurd rfl (ne_objectType_of_word hname)

lemma paren_notMem_of_mem_numbers (h : τ ∈ numbers) : '(' ∉ τ.toList := by
  have htable : ∀ number ∈ numbers, '(' ∉ number.toList := by decide
  exact htable τ h

lemma paren_notMem_of_word (h : ∀ c ∈ name.toList, isWordChar c = true) :
    '(' ∉ name.toList :=
  fun hmem => absurd (h '(' hmem) (by decide +kernel)

/-- How many calls there are in the expression. -/
def calls : GoExpression → Nat
  | .object => 0
  | .read x _ | .convert _ x | .wrap _ x => x.calls + 1

/-- Each call has its parenthesis, and there are no others but those of the object. -/
lemma HasType.count_paren (h : x.HasType τ) :
    (x.text object).toList.count '(' = object.toList.count '(' + x.calls := by
  induction h with
  | object => rfl
  | read hx hreader ih =>
      have htable : ∀ entry ∈ readers, entry.1.toList.count '(' = 0 := by decide
      simp [text, calls, ih, htable _ hreader, Nat.add_assoc]
  | convert hx hsource htype ih =>
      have htype := List.count_eq_zero.2 (paren_notMem_of_mem_numbers htype)
      simp [text, calls, ih, htype]
      omega
  | wrap hx hname ih =>
      have hname := List.count_eq_zero.2 (paren_notMem_of_word hname)
      simp [text, calls, ih, hname]
      omega

/-- What is called is the text up to the first parenthesis, so it can be told from the whole
text. -/
lemma callee_inj {f g a b : String} (hf : '(' ∉ f.toList) (hg : '(' ∉ g.toList)
    (h : f ++ "(" ++ a ++ ")" = g ++ "(" ++ b ++ ")") : f = g := by
  have htoList (f a : String) :
      (f ++ "(" ++ a ++ ")").toList = f.toList ++ '(' :: (a.toList ++ [')']) := by simp
  have h := congrArg String.toList h
  rw [htoList, htoList] at h
  exact String.toList_injective (first_mark_inj hf hg h).1

lemma paren_notMem_wrapper (h : ∀ c ∈ name.toList, isWordChar c = true) :
    '(' ∉ ("As" ++ name).toList := by
  simpa using paren_notMem_of_word h

lemma HasType.text_ne_of_read_convert {source : String} (hx : x.HasType objectType)
    (hy : y.HasType source) (hsource : source ∈ numbers) (hτ : τ ∈ numbers)
    (hreader : (reader, σ) ∈ readers) :
    text object (.read x reader) ≠ text object (.convert τ y) := by
  intro h
  have hcount := congrArg (fun e : String => e.toList.count '(') h
  rw [(HasType.read hx hreader).count_paren, (HasType.convert hy hsource hτ).count_paren, calls,
    calls, hx.eq_object, calls] at hcount
  -- nothing else is called, so that it is the object that is converted
  cases hy with
  | object => exact absurd hsource (by decide)
  | read | convert | wrap =>
      simp only [calls] at hcount
      omega

lemma HasType.text_ne_of_read_wrap (hx : x.HasType objectType) (hy : y.HasType objectType)
    (hname : ∀ c ∈ name.toList, isWordChar c = true) :
    text object (.read x reader) ≠ text object (.wrap name y) := by
  intro h
  have hdot : name.toList.count '.' = 0 :=
    List.count_eq_zero.2 fun hmem => absurd (hname '.' hmem) (by decide +kernel)
  have hcount := congrArg (fun e : String => e.toList.count '.') h
  simp [hx.eq_object, hy.eq_object, text, hdot] at hcount

lemma text_ne_of_convert_wrap (hτ : τ ∈ numbers)
    (hname : ∀ c ∈ name.toList, isWordChar c = true) :
    text object (.convert τ x) ≠ text object (.wrap name y) := by
  intro h
  have htable : ∀ number ∈ numbers, number.toList.head? ≠ some 'A' := by decide
  have hcallee : τ = "As" ++ name :=
    callee_inj (paren_notMem_of_mem_numbers hτ) (paren_notMem_wrapper hname) h
  exact htable τ hτ (by simp [hcallee])

end GoExpression

open GoExpression

/-- **A text has one type**, whatever the text of the object, so a cast cannot be read in two
ways. -/
theorem HasGoType.unique {object e τ σ : String} (h : HasGoType object e τ)
    (h' : HasGoType object e σ) : τ = σ := by
  obtain ⟨x, rfl, hx⟩ := h
  obtain ⟨y, htext, hy⟩ := h'
  have hcalls := congrArg (fun e : String => e.toList.count '(') htext
  rw [hx.count_paren, hy.count_paren, Nat.add_left_cancel_iff] at hcalls
  cases hx with
  | object =>
      cases hy with
      | object => rfl
      | read | convert | wrap => contradiction
  | read hx hreader =>
      cases hy with
      | object => contradiction
      | read hy hreader' =>
          have htable : ∀ a ∈ readers, ∀ b ∈ readers, a.1 = b.1 → a = b := by decide
          rw [hx.eq_object, hy.eq_object] at htext
          have hsame := htable _ hreader _ hreader' (by
            simpa [text, String.append_assoc] using htext.symm)
          exact congrArg Prod.snd hsame
      | convert hy hsource hσ =>
          exact absurd htext.symm (hx.text_ne_of_read_convert hy hsource hσ hreader)
      | wrap hy hname => exact absurd htext.symm (hx.text_ne_of_read_wrap hy hname)
  | convert hx hsource hτ =>
      cases hy with
      | object => contradiction
      | read hy hreader =>
          exact absurd htext (hy.text_ne_of_read_convert hx hsource hτ hreader)
      | convert hy hsource' hσ =>
          exact callee_inj (paren_notMem_of_mem_numbers hτ)
            (paren_notMem_of_mem_numbers hσ) htext.symm
      | wrap hy hname => exact absurd htext.symm (text_ne_of_convert_wrap hτ hname)
  | wrap hx hname =>
      cases hy with
      | object => contradiction
      | read hy hreader => exact absurd htext (hy.text_ne_of_read_wrap hx hname)
      | convert hy hsource hσ =>
          exact absurd htext (text_ne_of_convert_wrap hσ hname)
      | wrap hy hname' =>
          have hcallee : "As" ++ τ = "As" ++ σ :=
            callee_inj (paren_notMem_wrapper hname)
              (paren_notMem_wrapper hname') htext.symm
          simpa using hcallee

/-! ## Casts -/

lemma HasGoType.read {object type : String} (reader : String) (h : (reader, type) ∈ readers) :
    HasGoType object (object ++ ("." ++ reader ++ "()")) type := by
  refine ⟨.read .object reader, ?_, .read .object h⟩
  simp only [text, String.append_assoc]

lemma HasGoType.convert {object type : String} (reader : String)
    (hreader : ∃ source ∈ numbers, (reader, source) ∈ readers) (htype : type ∈ numbers) :
    HasGoType object (type ++ "(" ++ object ++ "." ++ reader ++ "())") type := by
  obtain ⟨source, hsource, hreader⟩ := hreader
  refine ⟨.convert type (.read .object reader), ?_, .convert (.read .object hreader) hsource htype⟩
  simp only [text, String.append_assoc]
  rfl

/-- Names in Go are made of word characters, so there are no parentheses in them. -/
lemma isWordChar_of_hostName {head : Declaration} {name : String}
    (h : head.hostName = some name) : ∀ c ∈ name.toList, isWordChar c = true := by
  rw [Declaration.hostName, Option.ite_none_left_eq_some] at h
  obtain ⟨-, h⟩ := h
  cases h
  exact (Identifier.isClean_sanitize head.name).wordChars

namespace NativeType

variable {store : Store} {object e name : String}

/-- The type under all pointers, arrays and qualifiers, which is what is cast. -/
def bottom : NativeType → NativeType
  | .pointer e | .array e _ | .const e | .strong e | .external e | .nullable e _ => e.bottom
  | t => t

/-- What the name of a type has in front of that of its bottom: nothing for a qualifier. -/
def marks : NativeType → String
  | .pointer e => "*" ++ e.marks
  | .array e size => "[" ++ size ++ "]" ++ e.marks
  | .const e | .strong e | .external e | .nullable e _ => e.marks
  | _ => ""

/-- The type is a built-in one, a string or a class or C struct under pointers, arrays and
qualifiers. -/
def IsConcrete (store : Store) : NativeType → Prop
  | .primitive _ | .string => True
  | .entity id => ∃ d, store.entity? id = some (.record d)
  | .pointer e | .array e _ | .const e | .strong e | .external e | .nullable e _ =>
    e.IsConcrete store
  | .named _ | .unknown _ _ | .function _ _ => False

lemma spelling_eq_bottom (t : NativeType) :
    t.spelling store = (t.bottom.spelling store).after t.marks := by
  induction t using NativeType.recursion with
  | pointer _ ih | array _ _ ih =>
    rw [spelling, ih, bottom, marks]
    simp [Spelling.after, String.append_assoc]
  | const _ ih | strong _ ih | external _ ih | nullable _ _ ih =>
    rw [spelling, ih, bottom, marks]
  | _ => simp [bottom, marks, Spelling.after]

/-- There are marks for pointers and arrays only, which are what a cast passes over. -/
lemma marks_eq_empty_iff {t : NativeType} : t.marks = "" ↔ t.unqualified.elem? = none := by
  induction t using NativeType.recursion with
  | pointer _ ih | array _ _ ih => simp [marks, unqualified, elem?]
  | const _ ih | strong _ ih | external _ ih | nullable _ _ ih =>
    rw [marks, ih, unqualified]
  | _ => simp [marks, unqualified, elem?]

/-- A built-in type is read as what it is, or as its widest relative and converted. -/
lemma hasGoType_primitiveToHost (h : primitiveToHost name object = some e) :
    HasGoType object e name := by
  unfold primitiveToHost at h
  split at h
  -- in the order of the definition: what is read directly, what is converted, and the rest
  case h_1 => exact Option.some.inj h ▸ .read "Bool" (by decide)
  case h_2 => exact Option.some.inj h ▸ .read "Int" (by decide)
  case h_7 => exact Option.some.inj h ▸ .read "Uint" (by decide)
  case h_13 => exact Option.some.inj h ▸ .read "Float" (by decide)
  case h_15 => exact Option.some.inj h ▸ .read "Pointer" (by decide)
  case h_3 | h_4 | h_5 | h_6 => exact Option.some.inj h ▸ .convert "Int" (by decide) (by decide)
  case h_8 | h_9 | h_10 | h_11 | h_12 =>
    exact Option.some.inj h ▸ .convert "Uint" (by decide) (by decide)
  case h_14 => exact Option.some.inj h ▸ .convert "Float" (by decide) (by decide)
  case h_16 => contradiction

/-- A cast has the type that its bottom is called, by the shape of the cast at the leaf. -/
lemma hasGoType_toHost {t : NativeType} (ht : t.IsConcrete store)
    (h : t.toHost store object = some e) :
    ∃ τ, t.bottom.spelling store = .exact τ ∧ HasGoType object e τ := by
  induction t using NativeType.recursion with
  | primitive name => exact ⟨name, rfl, hasGoType_primitiveToHost h⟩
  | string =>
      cases h
      exact ⟨"string", rfl, .read "String" (by decide)⟩
  | entity id =>
      obtain ⟨d, hd⟩ := ht
      have hwrap : d.head.hostName.map (fun name => "As" ++ name ++ "(" ++ object ++ ")") =
          some e := by
        simpa [toHost, hd, Entity.toHost] using h
      obtain ⟨name, hname, rfl⟩ := Option.map_eq_some_iff.1 hwrap
      refine ⟨name, ?_, .wrap name .object, rfl, .wrap .object (isWordChar_of_hostName hname)⟩
      simp [bottom, spelling, Store.spelling, hd, Declaration.spelling, Entity.head, hname]
  | named _ | unknown _ _ => exact ht.elim
  | function _ _ _ _ => simp [IsConcrete] at ht
  | pointer _ ih | array _ _ ih | const _ ih | strong _ ih | external _ ih | nullable _ _ ih =>
      rw [IsConcrete] at ht
      rw [toHost] at h
      exact ih ht h

end NativeType

end FrameworkBindings
