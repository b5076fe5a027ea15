import FrameworkBindings.NativeType
import FrameworkBindings.Signature.Balance
import FrameworkBindings.Text.Affix
import FrameworkBindings.Text.Alphanumeric
import FrameworkBindings.Text.Blank

/-!
# Forms of signatures

The rules by which a signature is taken apart, each applied once.  They are tried in a fixed order
and the first that applies wins:

1. texts with a meaning of their own, blanks apart (`presets`, and `void` for no type at all);
2. function pointers and blocks, `result (*)(parameters)`;
3. qualifiers in front or behind, one at a time (`qualifiers`);
4. a closing `[size]`;
5. the primitive types of C (`primitives`);
6. a bare identifier;
7. anything else, which is kept as it is.

`Form.of` finds the rule; `length_lt_of_mem_parts` says that what is left to read is always shorter.

**The order.**  The rules overlap, so their order is part of what they mean.  `NSString *` is a
preset and not a pointer; a function pointer may carry qualifiers on its result, which must not be
taken for those of the whole; and the star is looked up among the qualifiers, at its own place in
the table, so that `const` in front of a pointer is the outer one of the two.

**Texts and types.**  A form names its parts by their texts and says nothing of how these are read.
One step of the reader is then a function without recursion, with lemmas of its own, and the reader
itself is a few lines over it; that it ends is the one fact about the rules that it needs.

**Balance.**  Parentheses and brackets are looked at once, after the presets.  From there on texts
balance as a whole, but their parts need not: cutting at a bracket can part it from its partner, and
then the part is refused when its turn comes.
-/

namespace FrameworkBindings.Signature

open Text

/-! ## Vocabulary -/

/-- Signatures with a meaning of their own, which the other rules would read otherwise: they are
looked up before anything is taken apart. -/
def presets : List (String × NativeType) := [
  ("", .primitive NativeType.anyName),
  ("id", .primitive NativeType.anyName),
  ("instancetype", .primitive NativeType.anyName),
  ("void *", .primitive "uintptr"),
  ("__strong void *", .primitive "uintptr"),
  ("const void *", .primitive "uintptr"),
  ("char *", .array (.primitive "byte") ""),
  ("NSString *", .string),
  ("NSInteger", .primitive "int"),
  ("NSUInteger", .primitive "uint"),
  ("CGFloat", .primitive "float64")]

/-- The primitive types of C on a 64-bit target, with their Go names. -/
def primitives : List (String × String) := [
  ("BOOL", "bool"), ("bool", "bool"),
  ("char", "byte"),
  ("signed char", "int8"), ("int8_t", "int8"),
  ("unsigned char", "uint8"), ("uint8_t", "uint8"),
  ("short", "int16"), ("int16_t", "int16"),
  ("unsigned short", "uint16"), ("uint16_t", "uint16"),
  ("int32_t", "int32"),
  ("uint32_t", "uint32"),
  ("int64_t", "int64"),
  ("uint64_t", "uint64"),
  ("int", "int"), ("signed int", "int"), ("signed", "int"),
  ("unsigned", "uint"), ("unsigned int", "uint"),
  ("long", "int64"), ("long long", "int64"), ("signed long", "int64"),
  ("unsigned long", "uint64"), ("unsigned long long", "uint64"), ("size_t", "uint64"),
  ("float", "float32"),
  ("double", "float64"),
  ("uintptr_t", "uintptr")]

/-- The meaning of a squeezed signature that has one of its own; spaces between words count as
one. -/
def preset? (plain : List Char) : Option NativeType :=
  presets.lookup (String.ofList plain)

/-- The Go name of a squeezed signature that is a primitive type, all its words together. -/
def primitive? (plain : List Char) : Option String :=
  primitives.lookup (String.ofList plain)

/-- Whether the text is one word, and so may be the name of an entity. -/
def isIdentifier (text : List Char) : Bool :=
  !text.isEmpty && text.all isWordChar

/-! ## Qualifiers -/

/-- What a qualifier makes of the type it qualifies.  The star is among them: it is taken off like a
word. -/
inductive Wrap where
  | external
  | nullable
  | nonnull
  | const
  | strong
  | pointer
  /-- The qualifier says nothing. -/
  | silent
deriving DecidableEq

/-- The qualified type; a silent qualifier leaves the type as it is. -/
def Wrap.apply : Wrap → NativeType → NativeType
  | external, t => .external t
  | nullable, t => .nullable t true
  | nonnull, t => .nullable t false
  | const, t => .const t
  | strong, t => .strong t
  | pointer, t => .pointer t
  | silent, t => t

/-- Where a qualifier stands: in front of what it qualifies or behind. -/
inductive Affix where
  | leading (text : String)
  | trailing (text : String)
deriving DecidableEq

namespace Affix

/-- The text of the qualifier. -/
def text : Affix → String
  | leading text => text
  | trailing text => text

/-- The signature without the qualifier.  A word at the end must not be the end of a longer word,
nor the whole.  One in front needs no such test, since its text ends in a blank. -/
def strip : Affix → List Char → Option (List Char)
  | leading mark, sig => stripLeading mark.toList sig
  | trailing mark, sig =>
    (stripTrailing mark.toList sig).filter fun rest =>
      !(mark.toList.head?.any isWordChar && rest.getLast?.all isWordChar)

end Affix

/-- The qualifiers, in the order in which they are looked for.  The order is part of the meaning: a
text may have one in front and another behind, and the first of the table is the outer one. -/
def qualifiers : List (Affix × Wrap) := [
  (.leading "APPKIT_EXTERN ", .external),
  (.leading "FOUNDATION_EXPORT ", .external),
  (.leading "extern ", .external),
  (.leading "__nullable ", .nullable),
  (.leading "nullable ", .nullable),
  (.leading "_Nullable ", .nullable),
  (.trailing "_Nullable", .nullable),
  (.trailing "__nullable", .nullable),
  (.leading "const ", .const),
  (.leading "__strong ", .strong),
  (.leading "__weak ", .strong),
  (.leading "__unsafe_unretained ", .strong),
  (.trailing "*", .pointer),
  (.trailing "__nonnull", .nonnull),
  (.trailing "_Nonnull", .nonnull),
  (.trailing "const", .const),
  (.leading "__null_unspecified ", .silent),
  (.trailing "__null_unspecified", .silent),
  (.trailing "_Null_unspecified", .silent)]

/-- The first qualifier that applies, and what it qualifies; that may have more of them. -/
def qualified? (sig : List Char) : Option (Wrap × List Char) :=
  qualifiers.findSome? fun q => (q.1.strip sig).map fun inner => (q.2, inner)

/-! ## Functions -/

/-- What stands between the result of a function pointer or block and its parameters.  With a name
in the middle it is none of these. -/
def functionMarkers : List String := ["(* )(", "(*)(", "(^)(", "(^ )("]

/-- The rest after a function marker at the beginning of `text`. -/
def afterMarker? (text : List Char) : Option (List Char) :=
  functionMarkers.findSome? fun marker => stripLeading marker.toList text

/-- The text before and after the first function marker that stands at depth zero; `depth` is that
of the beginning of `text`.  Markers inside parentheses belong to parameters.  The depth needs no
more than 32 bits on texts of fewer than 2³¹ characters. -/
def splitAtMarker (depth : Int) : List Char → Option (List Char × List Char)
  | [] => none
  | c :: text =>
    match if depth = 0 then afterMarker? (c :: text) else none with
    | some after => some ([], after)
    | none =>
      (splitAtMarker (depth + nesting c) text).map fun parts => (c :: parts.1, parts.2)

/-- The pieces of `text` between the commas at depth zero; those of a nested list stay together.
Texts of fewer than 2³¹ characters keep the depth within 32 bits. -/
def splitAtCommas (depth : Int) : List Char → List (List Char)
  | [] => [[]]
  | c :: text =>
    if c = ',' ∧ depth = 0 then [] :: splitAtCommas depth text
    else
      match splitAtCommas (depth + nesting c) text with
      | piece :: pieces => (c :: piece) :: pieces
      | [] => [[c]]

/-- The parameters in a parameter list, without those that are blank; `void` alone means that there
are none. -/
def parameterTexts (text : List Char) : List (List Char) :=
  let pieces := ((splitAtCommas 0 text).map trim).filter (! ·.isEmpty)
  if pieces = ["void".toList] then [] else pieces

/-- Words at the end of a parameter that are qualifiers and never its name, though they stand where
a name would. -/
def qualifierWords : List String := [
  "const", "_Nullable", "__nullable", "_Nonnull", "__nonnull", "_Null_unspecified",
  "__null_unspecified"]

/-- A parameter as name and type: the last word is the name, unless it belongs to the type. -/
def splitName (text : List Char) : Param (List Char) :=
  let unnamed := ⟨"", text⟩
  let plain := squeeze text
  if (primitive? plain).isSome || (preset? plain).isSome then unnamed
  else
    let word := (text.reverse.takeWhile isWordChar).reverse
    let before := trim (text.reverse.dropWhile isWordChar).reverse
    if word.isEmpty || before.isEmpty || qualifierWords.contains (String.ofList word) then unnamed
    else ⟨String.ofList word, before⟩

/-- A parameter as name and type; a closing `[]` behind the name belongs to the type and is put next
to it. -/
def readParameter (text : List Char) : Param (List Char) :=
  match stripTrailing ['[', ']'] text with
  | none => splitName text
  | some body =>
    let param := splitName (trimEnd body)
    { param with type := param.type ++ ['[', ']'] }

/-- The result and the parameters of a function pointer or block.  The closing parenthesis of the
text is taken for that of the parameters. -/
def functionParts? (sig : List Char) : Option (List Char × List (Param (List Char))) :=
  if sig.getLast? = some ')' then
    (splitAtMarker 0 sig).map fun parts =>
      (parts.1, (parameterTexts parts.2.dropLast).map readParameter)
  else none

/-! ## Arrays -/

/-- The text before and after the last occurrence of `mark`, wherever it is nested. -/
def splitAtLast (mark : Char) (text : List Char) : Option (List Char × List Char) :=
  match text.reverse.dropWhile (· != mark) with
  | [] => none
  | _ :: before => some (before.reverse, (text.reverse.takeWhile (· != mark)).reverse)

/-! ## Forms -/

/-- What a signature is at its outermost, with the texts of its parts, which have not been read
yet. -/
inductive Form where
  | void
  | preset (type : NativeType)
  | malformed (fault : Fault)
  | function (result : List Char) (params : List (Param (List Char)))
  | wrapped (wrap : Wrap) (inner : List Char)
  | array (elem size : List Char)
  | primitive (name : String)
  | named
  | unrecognized

namespace Form

/-- The form of a signature that is neither a preset nor malformed nor a function nor qualified.
The brackets balance at this point, but the last opening one need not be the partner of the last
closing one. -/
def ofPlain (sig : List Char) : Form :=
  match stripTrailing [']'] sig with
  | some inner =>
    match splitAtLast '[' inner with
    | some (elem, size) => .array elem (trim size)
    | none => .malformed .brackets
  | none =>
    match primitive? (squeeze sig) with
    | some name => .primitive name
    | none => if isIdentifier sig then .named else .unrecognized

/-- The form of a signature without blanks at its ends.  The order of the tests is that of the rules
above; balance is checked between the first two. -/
def of (sig : List Char) : Form :=
  if squeeze sig = "void".toList then .void
  else
    match preset? (squeeze sig) with
    | some type => .preset type
    | none =>
      match imbalance? sig with
      | some fault => .malformed fault
      | none =>
        match functionParts? sig with
        | some (result, params) => .function result params
        | none =>
          match qualified? sig with
          | some (wrap, inner) => .wrapped wrap inner
          | none => ofPlain sig

/-- The texts that are left to read, in the order in which they are read. -/
def parts : Form → List (List Char)
  | .function result params => result :: params.map (·.type)
  | .wrapped _ inner => [inner]
  | .array elem _ => [elem]
  | _ => []

end Form

/-! ## Parts are shorter -/

theorem length_lt_of_stripLeading {lead text rest : List Char} (hlead : lead ≠ [])
    (h : stripLeading lead text = some rest) : rest.length < text.length := by
  have := List.length_pos_iff.2 hlead
  rw [stripLeading_eq_some_iff.1 h, List.length_append]
  omega

theorem length_lt_of_stripTrailing {trail text rest : List Char} (htrail : trail ≠ [])
    (h : stripTrailing trail text = some rest) : rest.length < text.length := by
  have := List.length_pos_iff.2 htrail
  rw [stripTrailing_eq_some_iff.1 h, List.length_append]
  omega

/-- Each rule leaves less than it found.  This and the lemmas around it say so one rule at a
time. -/
theorem length_lt_of_strip {affix : Affix} {sig inner : List Char} (hne : affix.text.toList ≠ [])
    (h : affix.strip sig = some inner) : inner.length < sig.length := by
  cases affix with
  | leading mark => exact length_lt_of_stripLeading hne h
  | trailing mark =>
    simp only [Affix.strip, Option.filter_eq_some_iff] at h
    exact length_lt_of_stripTrailing hne h.1

theorem length_lt_of_qualified? {sig inner : List Char} {wrap : Wrap}
    (h : qualified? sig = some (wrap, inner)) : inner.length < sig.length := by
  obtain ⟨q, hq, hstrip⟩ := List.exists_of_findSome?_eq_some h
  obtain ⟨rest, hrest, heq⟩ := Option.map_eq_some_iff.1 hstrip
  have hne : ∀ q ∈ qualifiers, q.1.text.toList ≠ [] := by decide
  cases heq
  exact length_lt_of_strip (hne q hq) hrest

theorem length_lt_of_splitAtLast {mark : Char} {text before after : List Char}
    (h : splitAtLast mark text = some (before, after)) : before.length < text.length := by
  unfold splitAtLast at h
  split at h
  · contradiction
  · rename_i c rest hdrop
    cases h
    have := (List.dropWhile_sublist (l := text.reverse) (· != mark)).length_le
    rw [hdrop] at this
    simp only [List.length_cons, List.length_reverse] at this ⊢
    omega

theorem length_lt_of_afterMarker? {text after : List Char} (h : afterMarker? text = some after) :
    after.length < text.length := by
  obtain ⟨marker, hmarker, hstrip⟩ := List.exists_of_findSome?_eq_some h
  have hne : ∀ m ∈ functionMarkers, m.toList ≠ [] := by decide
  exact length_lt_of_stripLeading (hne marker hmarker) hstrip

theorem length_lt_of_splitAtMarker {depth : Int} {text before after : List Char}
    (h : splitAtMarker depth text = some (before, after)) :
    before.length + after.length < text.length := by
  induction text generalizing depth before after with
  | nil => simp [splitAtMarker] at h
  | cons c text ih =>
    rw [splitAtMarker] at h
    split at h
    · rename_i rest hif
      cases h
      split at hif
      · simpa using length_lt_of_afterMarker? hif
      · contradiction
    · obtain ⟨⟨before', after'⟩, hrest, heq⟩ := Option.map_eq_some_iff.1 h
      cases heq
      have := ih hrest
      simp only [List.length_cons]
      omega

theorem length_le_of_mem_splitAtCommas {depth : Int} {text piece : List Char}
    (h : piece ∈ splitAtCommas depth text) : piece.length ≤ text.length := by
  induction text generalizing depth piece with
  | nil => simp_all [splitAtCommas]
  | cons c text ih =>
    rw [splitAtCommas] at h
    split at h
    · rcases List.mem_cons.1 h with rfl | h
      · simp
      · exact Nat.le_succ_of_le (ih h)
    · split at h
      · rename_i head tail heq
        rcases List.mem_cons.1 h with rfl | h
        · have : head ∈ splitAtCommas (depth + nesting c) text := by simp [heq]
          simpa using ih this
        · have : piece ∈ splitAtCommas (depth + nesting c) text := by simp [heq, h]
          exact Nat.le_succ_of_le (ih this)
      · simp_all

theorem length_le_of_mem_parameterTexts {text piece : List Char} (h : piece ∈ parameterTexts text) :
    piece.length ≤ text.length := by
  unfold parameterTexts at h
  simp only at h
  split at h
  · contradiction
  · obtain ⟨raw, hraw, rfl⟩ := List.mem_map.1 (List.mem_filter.1 h).1
    exact Nat.le_trans (length_trim_le raw) (length_le_of_mem_splitAtCommas hraw)

theorem length_splitName_le (text : List Char) : (splitName text).type.length ≤ text.length := by
  unfold splitName
  simp only
  split
  · exact Nat.le_refl _
  · split
    · exact Nat.le_refl _
    · refine Nat.le_trans (length_trim_le _) ?_
      simpa using (List.dropWhile_sublist (l := text.reverse) isWordChar).length_le

theorem length_readParameter_le (text : List Char) :
    (readParameter text).type.length ≤ text.length := by
  unfold readParameter
  split
  · exact length_splitName_le text
  · rename_i body hbody
    have hsplit := length_splitName_le (trimEnd body)
    have htrim := length_trimEnd_le body
    rw [stripTrailing_eq_some_iff.1 hbody]
    simp only [List.length_append]
    omega

theorem length_lt_of_functionParts? {sig result : List Char} {params : List (Param (List Char))}
    (h : functionParts? sig = some (result, params)) :
    result.length < sig.length ∧ ∀ p ∈ params, p.type.length < sig.length := by
  unfold functionParts? at h
  split at h
  · obtain ⟨⟨before, after⟩, hsplit, heq⟩ := Option.map_eq_some_iff.1 h
    cases heq
    have hlt := length_lt_of_splitAtMarker hsplit
    refine ⟨by simp only; omega, fun p hp => ?_⟩
    obtain ⟨piece, hpiece, rfl⟩ := List.mem_map.1 hp
    have h1 := length_readParameter_le piece
    have h2 := length_le_of_mem_parameterTexts hpiece
    simp only [List.length_dropLast] at h2
    omega
  · contradiction

/-- **Every part of a form is shorter than the signature.**  This is all that reading needs to end,
and the only fact about the rules that the definition of the reader uses. -/
theorem length_lt_of_mem_parts {sig part : List Char} (h : part ∈ (Form.of sig).parts) :
    part.length < sig.length := by
  unfold Form.of at h
  split at h
  · contradiction
  split at h
  · contradiction
  split at h
  · contradiction
  split at h
  · rename_i result params hfun
    obtain ⟨hresult, hparams⟩ := length_lt_of_functionParts? hfun
    rcases List.mem_cons.1 h with rfl | h
    · exact hresult
    · obtain ⟨p, hp, rfl⟩ := List.mem_map.1 h
      exact hparams p hp
  split at h
  · rename_i wrap inner hqual
    cases List.mem_singleton.1 h
    exact length_lt_of_qualified? hqual
  unfold Form.ofPlain at h
  split at h
  · rename_i inner hinner
    have hlt := length_lt_of_stripTrailing (by simp) hinner
    split at h
    · rename_i elem size hlast
      cases List.mem_singleton.1 h
      exact Nat.lt_trans (length_lt_of_splitAtLast hlast) hlt
    · contradiction
  · split at h
    · contradiction
    · split at h <;> contradiction

end FrameworkBindings.Signature
