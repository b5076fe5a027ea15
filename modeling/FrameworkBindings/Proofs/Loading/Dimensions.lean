import FrameworkBindings.Bridge
import FrameworkBindings.Proofs.Loading.Effect
import FrameworkBindings.Proofs.Signature.Spelling

/-!
# Dimensions of arrays

Behind the name of a parameter or of a field may stand sizes in brackets.  The two are read in
different ways: what is behind a parameter becomes one array, whose size is the text between the
outermost brackets, and what is behind a field becomes an array for each size.

* `dimensions` — sizes in brackets.
* `parse_append_dimensions` — behind a type they make arrays of arrays, the last size outermost.
* `arraySize_dimensions` — behind a parameter they are one size.
* `Declares` — the Go names of a parameter and of a field of the same type with the same sizes.
* **`declares_dimensions`** — the name of the parameter has the sizes in order and that of the field
  has them in reverse.

**Why the two differ.**  For a parameter the brackets at the two ends are taken off and put back by
the Go name, so the brackets in between survive as text.  For a field the reader takes one `[size]`
after the other off the end, so the last size becomes the outermost array, and the Go name writes
the outermost one first.

**When they agree.**  One size is the same in either order.  Several sizes without blanks at their
ends agree just if they read the same backwards, which follows because sizes without brackets can be
told from each other in the name (`dimensions_injective`).

**Blanks.**  A parameter keeps the blanks around inner brackets and a field trims every size.  The
statement gives both names as they are, and compares them for trimmed sizes.
-/

namespace FrameworkBindings

open Document Loading Text

namespace Loading

/-- Sizes in brackets, as they stand behind a name, the first one first. -/
def dimensions (sizes : List String) : String :=
  String.join (sizes.map fun size => "[" ++ size ++ "]")

/-- The text without the blanks at its ends, as the reader takes it for a size. -/
def trimmed (text : String) : String := String.ofList (trim text.toList)

/-- The sizes have no brackets in them, neither square nor round. -/
def Unbracketed (sizes : List String) : Prop :=
  ∀ size ∈ sizes, ∀ c ∈ size.toList, Signature.isBracket c = false

variable {sizes : List String}

@[simp]
lemma dimensions_nil : dimensions [] = "" := rfl

@[simp]
lemma dimensions_cons (size : String) (sizes : List String) :
    dimensions (size :: sizes) = "[" ++ size ++ "]" ++ dimensions sizes := by
  simp [dimensions]

/-- The last size stands at the end, where the reader looks for it. -/
lemma dimensions_concat (sizes : List String) (size : String) :
    dimensions (sizes ++ [size]) = dimensions sizes ++ ("[" ++ size ++ "]") := by
  simp [dimensions]

/-- Sizes without brackets can be told from each other in the text that they make. -/
lemma dimensions_injective {others : List String} (hsizes : Unbracketed sizes)
    (hothers : Unbracketed others) (h : dimensions sizes = dimensions others) : sizes = others := by
  have hclosed {size : String} (hsize : ∀ c ∈ size.toList, Signature.isBracket c = false) :
      ']' ∉ size.toList := fun hmem => absurd (hsize ']' hmem) (by decide)
  have htext (size : String) (sizes : List String) : (dimensions (size :: sizes)).toList =
      '[' :: (size.toList ++ ']' :: (dimensions sizes).toList) := by simp
  induction sizes generalizing others with
  | nil =>
      cases others with
      | nil => rfl
      | cons other others =>
          have hnil := congrArg String.toList h
          rw [htext] at hnil
          exact absurd hnil (by simp)
  | cons size sizes ih =>
      cases others with
      | nil =>
          have hnil := congrArg String.toList h
          rw [htext] at hnil
          exact absurd hnil (by simp)
      | cons other others =>
          have hlists := congrArg String.toList h
          rw [htext, htext, List.cons_inj_right] at hlists
          obtain ⟨hfirst, hrest⟩ := first_mark_inj (hclosed (hsizes size (by simp)))
            (hclosed (hothers other (by simp))) hlists
          rw [String.toList_injective hfirst, ih (fun s hs => hsizes s (by simp [hs]))
            (fun s hs => hothers s (by simp [hs])) (String.toList_injective hrest)]

/-! ## Behind a parameter -/

/-- What stands between the outermost brackets, with the inner ones in it. -/
def between (sizes : List String) : List Char :=
  [']', '['].intercalate (sizes.map String.toList)

lemma between_cons_cons (size next : String) (sizes : List String) :
    between (size :: next :: sizes) = size.toList ++ ']' :: '[' :: between (next :: sizes) := by
  simp [between, List.intercalate]

/-- Sizes in brackets are their inside in one pair of brackets. -/
lemma toList_dimensions (hne : sizes ≠ []) :
    (dimensions sizes).toList = '[' :: (between sizes ++ [']']) := by
  induction sizes with
  | nil => contradiction
  | cons size sizes ih =>
      cases sizes with
      | nil => simp [between]
      | cons next sizes =>
          rw [dimensions_cons, String.toList_append, ih (by simp), between_cons_cons]
          simp

/-- The inside begins like a size, or with a bracket that closes. -/
lemma head_between {c : Char} (hc : c ∈ (between sizes).head?) :
    (∃ size ∈ sizes, c ∈ size.toList.head?) ∨ c = ']' := by
  cases sizes with
  | nil => simp [between] at hc
  | cons size sizes =>
      cases hsize : size.toList with
      | nil =>
          cases sizes with
          | nil => simp [between, hsize] at hc
          | cons next sizes =>
              rw [between_cons_cons, hsize] at hc
              exact .inr (Option.some.inj hc).symm
      | cons d rest =>
          have hhead : (between (size :: sizes)).head? = some d := by
            cases sizes with
            | nil => simp [between, hsize]
            | cons next sizes => rw [between_cons_cons, hsize]; rfl
          rw [hhead] at hc
          exact .inl ⟨size, by simp, by rw [hsize]; exact hc⟩

/-- The inside ends like a size, or with a bracket that opens. -/
lemma last_between {c : Char} (hc : c ∈ (between sizes).getLast?) :
    (∃ size ∈ sizes, c ∈ size.toList.getLast?) ∨ c = '[' := by
  induction sizes with
  | nil => simp [between] at hc
  | cons size sizes ih =>
      cases sizes with
      | nil => exact .inl ⟨size, by simp, by simpa [between] using hc⟩
      | cons next sizes =>
          rw [between_cons_cons, List.getLast?_append_cons, List.getLast?_cons_cons] at hc
          by_cases hnone : between (next :: sizes) = []
          · rw [hnone] at hc
            exact .inr (Option.some.inj hc).symm
          · rw [List.getLast?_cons_of_ne_nil hnone] at hc
            refine (ih hc).imp_left fun ⟨last, hlast, hend⟩ => ⟨last, by simp [hlast], hend⟩

/-- The inside begins with no opening bracket, so that taking off all of them in front takes off
one. -/
lemma head_between_not_opening (hsizes : Unbracketed sizes) :
    ∀ c ∈ (between sizes).head?, (c == '[') = false := by
  intro c hc
  rw [beq_eq_false_iff_ne]
  rintro rfl
  rcases head_between hc with ⟨size, hsize, hopens⟩ | hopens
  · exact absurd (hsizes size hsize '[' (List.mem_of_head? hopens)) (by decide)
  · contradiction

lemma last_between_not_closing (hsizes : Unbracketed sizes) :
    ∀ c ∈ (between sizes).getLast?, (c == ']') = false := by
  intro c hc
  rw [beq_eq_false_iff_ne]
  rintro rfl
  rcases last_between hc with ⟨size, hsize, hcloses⟩ | hcloses
  · exact absurd (hsizes size hsize ']' (List.mem_of_getLast? hcloses)) (by decide)
  · contradiction

/-- One bracket is taken off at each end, as the next character is none of the kind. -/
lemma arraySize_of_enclosed {suffix : String} {inner : List Char}
    (hsuffix : suffix.toList = '[' :: (inner ++ [']']))
    (hhead : ∀ c ∈ inner.head?, (c == '[') = false)
    (hlast : ∀ c ∈ inner.getLast?, (c == ']') = false) :
    arraySize suffix = String.ofList (trim inner) := by
  have htrim : trim suffix.toList = '[' :: (inner ++ [']']) := by
    rw [hsuffix]
    refine trim_eq_self (by simp; decide) fun c hc => ?_
    rw [← List.cons_append, List.getLast?_concat] at hc
    cases hc
    decide
  have hopened : (inner ++ [']']).dropWhile (· == '[') = inner ++ [']'] := by
    refine dropWhile_eq_self_of_head? fun c hc => ?_
    cases inner with
    | nil =>
        cases hc
        decide
    | cons d inner => exact hhead c hc
  have hclosed : inner.reverse.dropWhile (· == ']') = inner.reverse :=
    dropWhile_eq_self_of_head? (by rwa [List.head?_reverse])
  rw [arraySize, htrim, List.dropWhile_cons_of_pos rfl, hopened, List.reverse_append,
    List.reverse_singleton, List.singleton_append, List.dropWhile_cons_of_pos rfl, hclosed,
    List.reverse_reverse]

/-- The size of a parameter with sizes behind it is the inside, trimmed as a whole. -/
lemma arraySize_dimensions (hne : sizes ≠ []) (hsizes : Unbracketed sizes) :
    arraySize (dimensions sizes) = String.ofList (trim (between sizes)) :=
  arraySize_of_enclosed (toList_dimensions hne) (head_between_not_opening hsizes)
    (last_between_not_closing hsizes)

/-- Sizes without blanks at their ends are kept as they are. -/
lemma arraySize_dimensions_of_trimmed (hne : sizes ≠ []) (hsizes : Unbracketed sizes)
    (htrimmed : ∀ size ∈ sizes, trimmed size = size) :
    "[" ++ arraySize (dimensions sizes) ++ "]" = dimensions sizes := by
  have hvisible : ∀ size ∈ sizes, trim size.toList = size.toList := fun size hsize => by
    rw [← String.toList_ofList (l := trim size.toList), ← trimmed, htrimmed size hsize]
  have htrim : trim (between sizes) = between sizes := by
    refine trim_eq_self (fun c hc => ?_) fun c hc => ?_
    · rcases head_between hc with ⟨size, hsize, hstarts⟩ | rfl
      · exact (visible_of_trim_eq_self (hvisible size hsize)).1 c hstarts
      · decide
    · rcases last_between hc with ⟨size, hsize, hends⟩ | rfl
      · exact (visible_of_trim_eq_self (hvisible size hsize)).2 c hends
      · decide
  refine String.toList_injective ?_
  rw [arraySize_dimensions hne hsizes, htrim, toList_dimensions hne]
  simp

end Loading

/-! ## Behind a field -/

namespace Signature

variable {sizes : List String}

/-- Sizes behind a text make arrays of what the text is, the last outermost.  By induction on the
sizes from their end. -/
lemma parse_append_dimensions {s : List Char} {t : NativeType}
    (hlead : leadWord s ∉ leadingMarks) (hhead : ∀ c ∈ s.head?, isBlank c = false) (hne : s ≠ [])
    (hnested : Nested s) (hparse : parse s = .ok (some t)) (hsizes : Unbracketed sizes) :
    parse (s ++ (dimensions sizes).toList) =
      .ok (some (sizes.foldl (fun t size => .array t (trimmed size)) t)) := by
  have hdimensions {sizes : List String} (hsizes : Unbracketed sizes) :
      Nested (dimensions sizes).toList := by
    induction sizes with
    | nil => exact .of_plain (by simp)
    | cons size sizes ih =>
        have hfirst : Nested size.toList := .of_plain (hsizes size (by simp))
        have hrest := ih fun other hother => hsizes other (by simp [hother])
        simpa using hfirst.brackets.append hrest
  induction sizes using List.reverseRecOn with
  | nil => simpa using hparse
  | append_singleton sizes size ih =>
      have hsize := hsizes size (by simp)
      have hread := ih fun other hother => hsizes other (by simp [hother])
      have hwhole : s ++ (dimensions (sizes ++ [size])).toList =
          (s ++ (dimensions sizes).toList) ++ ('[' :: size.toList ++ [']']) := by
        rw [dimensions_concat]
        simp
      have hlead' : leadWord (s ++ (dimensions sizes).toList) ∉ leadingMarks := by
        cases sizes with
        | nil => simpa using hlead
        | cons first rest =>
            rw [toList_dimensions (by simp), leadWord_append_cons s (by simp)]
            exact hlead
      have hbalance := (hnested.append (hdimensions hsizes)).imbalance?_eq_none
      rw [hwhole] at hbalance ⊢
      rw [parse_append_size (not_led hlead') (by rwa [List.head?_append_of_ne_nil _ hne])
        (by simp [hne])
        (fun hmem => absurd (hsize '[' hmem) (by decide)) hbalance, hread, List.foldl_concat]
      rfl

end Signature

namespace Loading

variable {sizes : List String}

/-- The name of an array of arrays has the sizes from the outermost to the innermost. -/
lemma spelling_foldl_array (store : Store) (t : NativeType) (sizes : List String) :
    (sizes.foldl (fun t size => .array t (trimmed size)) t).spelling store =
      (t.spelling store).after (dimensions (sizes.reverse.map trimmed)) := by
  induction sizes using List.reverseRecOn with
  | nil => simp [Spelling.after]
  | append_singleton sizes size ih =>
      rw [List.foldl_concat, NativeType.spelling, ih, List.reverse_concat, List.map_cons,
        dimensions_cons]
      simp [Spelling.after, String.append_assoc]

/-! ## Elements -/

/-- The text is a word or the spelling of a primitive type, but not `void`.  These are the elements
that can stand in front of sizes without the sizes belonging to a part of them. -/
structure IsElement (text : String) : Prop where
  known : Signature.isIdentifier text.toList = true ∨ ∃ name, (text, name) ∈ Signature.primitives
  ne_void : text ≠ "void"

namespace IsElement

open Signature

variable {text : String}

/-- A word has characters, and they are characters of words. -/
lemma ne_nil_and_isWordChar {w : List Char} (h : isIdentifier w = true) :
    w ≠ [] ∧ ∀ c ∈ w, isWordChar c = true := by
  simpa [isIdentifier] using h

lemma head_visible (h : IsElement text) : ∀ c ∈ text.toList.head?, isBlank c = false := by
  rcases h.known with hword | ⟨name, hprimitive⟩
  · exact fun c hc =>
      isBlank_eq_false_of_isWordChar ((ne_nil_and_isWordChar hword).2 c (List.mem_of_head? hc))
  · have htable : ∀ p ∈ primitives, ∀ c ∈ p.1.toList.head?, isBlank c = false := by decide
    exact htable _ hprimitive

lemma toList_ne_nil (h : IsElement text) : text.toList ≠ [] := by
  rcases h.known with hword | ⟨name, hprimitive⟩
  · exact (ne_nil_and_isWordChar hword).1
  · have htable : ∀ p ∈ primitives, p.1.toList ≠ [] := by decide
    exact htable _ hprimitive

lemma nested (h : IsElement text) : Nested text.toList := by
  refine .of_plain ?_
  rcases h.known with hword | ⟨name, hprimitive⟩
  · exact fun c hc => isBracket_eq_false_of_isWordChar ((ne_nil_and_isWordChar hword).2 c hc)
  · have htable : ∀ p ∈ primitives, ∀ c ∈ p.1.toList, isBracket c = false := by decide
    exact htable _ hprimitive

lemma leadWord_notMem (h : IsElement text) (hunmarked : text.toList ∉ leadingMarks) :
    leadWord text.toList ∉ leadingMarks := by
  rcases h.known with hword | ⟨name, hprimitive⟩
  · rwa [leadWord_eq_self (ne_nil_and_isWordChar hword).2]
  · have htable : ∀ p ∈ primitives, leadWord p.1.toList ∉ leadingMarks := by decide +kernel
    exact htable _ hprimitive

/-- An element is read as a type, a primitive or an entity that is known by name. -/
lemma exists_parse (h : IsElement text) : ∃ t, parse text.toList = .ok (some t) := by
  rcases h.known with hword | ⟨name, hprimitive⟩
  · obtain ⟨hne, hword⟩ := ne_nil_and_isWordChar hword
    have hvisible : ∀ c ∈ text.toList, isBlank c = false := fun c hc =>
      isBlank_eq_false_of_isWordChar (hword c hc)
    have hvoid : text.toList ≠ "void".toList := fun heq => h.ne_void (String.toList_inj.1 heq)
    have htrim : trim text.toList = text.toList :=
      trim_eq_self (fun c hc => hvisible c (List.mem_of_head? hc)) fun c hc =>
        hvisible c (List.mem_of_getLast? hc)
    cases hpreset : preset? text.toList with
    | some t =>
        have hform : Form.of text.toList = .preset t := by
          rw [Form.of, squeeze_of_visible hvisible, if_neg hvoid, hpreset]
        exact ⟨t, by rw [parse_eq, htrim, hform, Form.interpret]⟩
    | none =>
        cases hprimitive : primitive? text.toList with
        | some name =>
            have hmem : (text, name) ∈ primitives := by
              rw [primitive?, String.ofList_toList] at hprimitive
              obtain ⟨before, after, hsplit, -⟩ := List.lookup_eq_some_iff.1 hprimitive
              simp [hsplit]
            exact ⟨_, parse_of_primitive hmem⟩
        | none => exact ⟨_, parse_of_word hword hne hvoid hpreset hprimitive⟩
  · exact ⟨_, parse_of_primitive hprimitive⟩

end IsElement

/-! ## Names -/

/-- What the name of a parameter has in front of that of the element. -/
def parameterMarks (sizes : List String) : String := "[" ++ trimmed ("][".intercalate sizes) ++ "]"

/-- What the name of a field has in front of that of the element. -/
def fieldMarks (sizes : List String) : String := dimensions (sizes.reverse.map trimmed)

/-- What the declarations of a parameter and of a field with the same sizes mean: the one element,
the name on each path, and when the two names are the same. -/
structure Declares (text : String) (sizes : List String) (t : NativeType) : Prop where
  element : Signature.ofText text = .ok (some t)
  parameter : ∀ (l : Loader) (m : Member) isStatic (i : ℕ) (p : Parameter), m.params[i]? = some p →
    p.type = some ⟨text, []⟩ → p.array = dimensions sizes →
    ∃ q : Param NativeType, (l.buildRoutine m isStatic).1.prototype.params[i]? = some q ∧
      ∀ store, q.type.spelling store = (t.spelling store).after (parameterMarks sizes)
  field : ∀ (session : Session) (m : Member), m.type = some ⟨text, []⟩ →
    m.argsstring = dimensions sizes →
    ∃ u, (session.resolveMember m).1 = .ok (some u) ∧
      ∀ store, u.spelling store = (t.spelling store).after (fieldMarks sizes)
  /-- A single size is the same for both. -/
  single : sizes.length = 1 → fieldMarks sizes = parameterMarks sizes
  /-- Several sizes, without blanks around them, are in order for the parameter, and so for the
  field just if they are the same in reverse. -/
  ordered : (∀ size ∈ sizes, trimmed size = size) → parameterMarks sizes = dimensions sizes ∧
    (fieldMarks sizes = dimensions sizes ↔ sizes.reverse = sizes)

/-- With a size there is a suffix, so the loader looks at it. -/
lemma dimensions_ne_empty (hne : sizes ≠ []) : dimensions sizes ≠ "" := by
  intro h
  have hlist := congrArg String.toList h
  rw [toList_dimensions hne] at hlist
  exact absurd hlist (by simp)

/-- What the loader keeps as one size makes these marks in the name. -/
lemma parameterMarks_eq (hne : sizes ≠ []) (hsizes : Unbracketed sizes) :
    "[" ++ arraySize (dimensions sizes) ++ "]" = parameterMarks sizes := by
  rw [arraySize_dimensions hne hsizes, parameterMarks, trimmed, String.toList_intercalate]
  rfl

/-- What is built for a parameter is an array of the element. -/
lemma spelling_parameter {text : String} {t : NativeType}
    (ht : Signature.parse text.toList = .ok (some t)) (hne : sizes ≠ [])
    (hsizes : Unbracketed sizes) (l : Loader) (m : Member) (isStatic : Bool) {i : ℕ} {p : Parameter}
    (hp : m.params[i]? = some p) (htype : p.type = some ⟨text, []⟩)
    (harray : p.array = dimensions sizes) :
    ∃ q : Param NativeType, (l.buildRoutine m isStatic).1.prototype.params[i]? = some q ∧
      ∀ store, q.type.spelling store = (t.spelling store).after (parameterMarks sizes) := by
  obtain ⟨hroutine, -⟩ := l.buildRoutine_gives m isStatic (Store.numberedBy_numbering _)
  generalize (l.buildRoutine m isStatic).2.store.numbering = ν at hroutine
  have hread : linkedType? ν p.type "" = some t := by
    have htext : (text ++ " " ++ "").toList = text.toList ++ [' '] := by simp
    rw [linkedType?, htype, readLinked, Signature.ofText, htext,
      Signature.parse_append_blank _ (by decide), ht]
    rfl
  have hparam : (paramOf ν p).type = .array t (arraySize (dimensions sizes)) := by
    rw [paramOf, hread, harray, Loader.paramType, if_neg (dimensions_ne_empty hne)]
    rfl
  refine ⟨paramOf ν p, ?_, fun store => ?_⟩
  · rw [hroutine, routineOf, List.getElem?_map, hp]
    rfl
  · rw [hparam, NativeType.spelling, parameterMarks_eq hne hsizes]

/-- What is read for a field is an array of arrays of the element. -/
lemma spelling_field {text : String} {t : NativeType}
    (ht : Signature.parse text.toList = .ok (some t)) (htext : IsElement text)
    (hunmarked : text.toList ∉ Signature.leadingMarks) (hsizes : Unbracketed sizes)
    (session : Session) {m : Member}
    (htype : m.type = some ⟨text, []⟩) (hargs : m.argsstring = dimensions sizes) :
    ∃ u, (session.resolveMember m).1 = .ok (some u) ∧
      ∀ store, u.spelling store = (t.spelling store).after (fieldMarks sizes) := by
  have hlead : Signature.leadWord (text.toList ++ [' ']) ∉ Signature.leadingMarks := by
    rw [Signature.leadWord_append_cons _ (by simp)]
    exact htext.leadWord_notMem hunmarked
  have hhead : ∀ c ∈ (text.toList ++ [' ']).head?, isBlank c = false := by
    rw [List.head?_append_of_ne_nil _ htext.toList_ne_nil]
    exact htext.head_visible
  have hparse : Signature.parse (text.toList ++ [' ']) = .ok (some t) := by
    rw [Signature.parse_append_blank _ (by decide), ht]
  have hread := Signature.parse_append_dimensions hlead hhead (by simp)
    (htext.nested.append (.of_plain (by decide))) hparse hsizes
  refine ⟨_, ?_, fun store => spelling_foldl_array store t sizes⟩
  have hwhole : (text ++ " " ++ dimensions sizes).toList =
      text.toList ++ [' '] ++ (dimensions sizes).toList := by simp
  rw [Session.resolveMember, htype, hargs, ← hread, ← hwhole]
  rfl

/-- **The sizes of a parameter are in order, and those of a field in reverse.**  The element is
named as it would be alone, and both names are given for all sizes, so that they can be compared. -/
theorem declares_dimensions {text : String} (hsizes : Unbracketed sizes) (hne : sizes ≠ [])
    (htext : IsElement text) (hunmarked : text.toList ∉ Signature.leadingMarks) :
    ∃ t, Declares text sizes t := by
  obtain ⟨t, ht⟩ := htext.exists_parse
  refine ⟨t, ht, ?_, ?_, ?_, ?_⟩
  · intro l m isStatic i p hp htype harray
    exact spelling_parameter ht hne hsizes l m isStatic hp htype harray
  · intro session m htype hargs
    exact spelling_field ht htext hunmarked hsizes session htype hargs
  · intro hlength
    obtain ⟨size, rfl⟩ := List.length_eq_one_iff.1 hlength
    simp [fieldMarks, parameterMarks]
  · intro htrimmed
    have hparameter : parameterMarks sizes = dimensions sizes := by
      rw [← parameterMarks_eq hne hsizes, arraySize_dimensions_of_trimmed hne hsizes htrimmed]
    have hfield : sizes.reverse.map trimmed = sizes.reverse :=
      (List.map_congr_left fun size hsize => htrimmed size (List.mem_reverse.1 hsize)).trans
        (List.map_id' _)
    refine ⟨hparameter, ?_⟩
    rw [fieldMarks, hfield]
    constructor
    · exact dimensions_injective (fun size hsize => hsizes size (List.mem_reverse.1 hsize)) hsizes
    · exact congrArg dimensions

/-- A field with two sizes. -/
def grid : Member where
  kind := "variable"
  name := "grid"
  type := some ⟨"uint8_t", []⟩
  argsstring := "[2][3]"

/-- A function with a parameter that is declared like the field. -/
def paint : Member where
  kind := "function"
  name := "paint"
  definition := "void paint"
  type := some ⟨"void", []⟩
  params := [{ declname := "grid", type := some ⟨"uint8_t", []⟩, array := "[2][3]" }]

/-- The element of the two is a primitive, and not `void`. -/
lemma isElement_uint8 : IsElement "uint8_t" := ⟨.inr ⟨"uint8", by decide⟩, by decide⟩

/-- The sizes of both are plain numbers, without brackets. -/
lemma unbracketed_grid : Unbracketed ["2", "3"] := by
  unfold Unbracketed
  decide

/-- Two different sizes: the parameter has them in order, and the field has not. -/
theorem declares_dimensions_grid :
    Unbracketed ["2", "3"] ∧ ["2", "3"] ≠ [] ∧ IsElement "uint8_t" ∧
      "uint8_t".toList ∉ Signature.leadingMarks ∧ parameterMarks ["2", "3"] = "[2][3]" ∧
      fieldMarks ["2", "3"] ≠ "[2][3]" := by
  have hunmarked : "uint8_t".toList ∉ Signature.leadingMarks := by decide +kernel
  obtain ⟨t, ht⟩ := declares_dimensions unbracketed_grid (by simp) isElement_uint8 hunmarked
  obtain ⟨hparameter, hfield⟩ := ht.ordered (by decide)
  refine ⟨unbracketed_grid, by simp, isElement_uint8, hunmarked, hparameter, fun h => ?_⟩
  exact absurd (hfield.1 h) (by decide)

/-- A parameter and a field of two sizes have different types, though the two are declared alike. -/
theorem grid_differs :
    ∃ (q : Param NativeType) (u : NativeType),
      (({} : Loader).buildRoutine paint false).1.prototype.params[0]? = some q ∧
      (({} : Session).resolveMember grid).1 = .ok (some u) ∧
      (q.type.spelling {}).name? = some "[2][3]uint8" ∧
      (u.spelling {}).name? = some "[3][2]uint8" := by
  have hunmarked : "uint8_t".toList ∉ Signature.leadingMarks := by decide +kernel
  have ht : Signature.parse "uint8_t".toList = .ok (some (.primitive "uint8")) :=
    Signature.parse_of_primitive (by decide)
  obtain ⟨q, hq, hparameter⟩ := spelling_parameter ht (by simp) unbracketed_grid {} paint false
    (i := 0) rfl rfl rfl
  obtain ⟨u, hu, hfield⟩ := spelling_field ht isElement_uint8 hunmarked unbracketed_grid {}
    (m := grid) rfl rfl
  refine ⟨q, u, hq, hu, ?_, ?_⟩
  · rw [hparameter]
    decide +kernel
  · rw [hfield]
    decide +kernel

end Loading

end FrameworkBindings
