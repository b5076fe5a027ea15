import FrameworkBindings.Output.Crossing
import FrameworkBindings.Proofs.Output.Literals
import FrameworkBindings.Proofs.Text.Conversions

/-!
# Line feeds

How many line feeds a text has.  Putting texts together adds them up, and what goes into the output
as an identifier or as a string literal has none, whatever it is made from.

* `lineFeeds` — the number; `lineFeeds_append`, `lineFeeds_join`, `lineFeeds_intercalate` and
  `lineFeeds_unlines` for texts put together.
* `lineFeeds_sanitize`, `lineFeeds_exported`, `lineFeeds_unexported` — identifiers.
* `lineFeeds_goLiteral` — literals.

**A count and not a test.**  To say that a method is on as many lines as it should be, it is not
enough to know which texts have line feeds.  With a number that adds up, the lines of a text follow
from those of its parts, and the lemmas are tagged for the simplifier.

**Identifiers.**  They consist of word characters, but for those that a change of case brings in.
That none of these is a line feed is checked on the table of the characters that are marked.
-/

namespace FrameworkBindings

namespace Text

/-- How many line feeds a text has. -/
def lineFeeds (text : String) : Nat := text.toList.count '\n'

/-- A text has none just if the character is not in it. -/
lemma lineFeeds_eq_zero_iff {text : String} : lineFeeds text = 0 ↔ '\n' ∉ text.toList :=
  List.count_eq_zero

@[simp]
lemma lineFeeds_append (text more : String) :
    lineFeeds (text ++ more) = lineFeeds text + lineFeeds more := by
  rw [lineFeeds, String.toList_append, List.count_append]
  rfl

@[simp]
lemma lineFeeds_join (texts : List String) :
    lineFeeds (String.join texts) = (texts.map lineFeeds).sum := by
  induction texts with
  | nil => rfl
  | cons text texts ih => rw [String.join_cons, lineFeeds_append, ih, List.map_cons, List.sum_cons]

lemma lineFeeds_intercalate {separator : String} (h : lineFeeds separator = 0)
    (texts : List String) :
    lineFeeds (separator.intercalate texts) = (texts.map lineFeeds).sum := by
  induction texts with
  | nil => rfl
  | cons text texts ih =>
      cases texts with
      | nil => simp [String.intercalate_singleton]
      | cons other texts =>
          rw [String.intercalate_cons_of_ne_nil (List.cons_ne_nil _ _), lineFeeds_append,
            lineFeeds_append, h, ih, Nat.add_zero]
          rfl

/-- Texts on lines have their own line feeds and one more each, at the end of the line. -/
lemma lineFeeds_unlines (lines : List String) :
    lineFeeds (Output.unlines lines) = lines.length + (lines.map lineFeeds).sum := by
  induction lines with
  | nil => rfl
  | cons line lines ih =>
      have hline : lineFeeds (line ++ "\n") = lineFeeds line + 1 := by
        rw [lineFeeds_append]
        rfl
      rw [Output.unlines, lineFeeds_join] at ih ⊢
      rw [List.map_cons, List.map_cons, List.sum_cons, ih, hline, List.map_cons, List.sum_cons,
        List.length_cons]
      omega

lemma isWordChar_lineFeed : isWordChar '\n' = false := by decide +kernel

lemma lineFeeds_of_wordChars {text : String} (h : ∀ c ∈ text.toList, isWordChar c = true) :
    lineFeeds text = 0 :=
  lineFeeds_eq_zero_iff.2 fun hmem => Bool.eq_false_iff.1 isWordChar_lineFeed (h '\n' hmem)

@[simp]
lemma lineFeeds_toString (n : Nat) : lineFeeds (toString n) = 0 := by
  rw [lineFeeds_eq_zero_iff]
  exact fun hmem => absurd (isDigit_of_mem_toString hmem) (by decide)

end Text

open Text

/-! ## Identifiers -/

namespace Identifier

variable {change : Char → List Char} {marked : List Nat}

@[simp]
lemma lineFeeds_sanitize (name : String) : lineFeeds (sanitize name) = 0 :=
  lineFeeds_of_wordChars (isClean_sanitize name).wordChars

/-- The image of a word character has no line feed: it is made of word characters, or the character
is one of those that are marked. -/
lemma lineFeed_not_mem_change (h : MarksOf change marked)
    (hmarked : ∀ code ∈ marked, '\n' ∉ change (Char.ofNat code)) {c : Char}
    (hc : isWordChar c = true) : '\n' ∉ change c := by
  by_cases hcode : c.toNat ∈ marked
  · have himage := hmarked c.toNat hcode
    rwa [Char.ofNat_toNat] at himage
  · exact fun hmem =>
      Bool.eq_false_iff.1 isWordChar_lineFeed ((h.isWordChar_iff c hc).2 hcode '\n' hmem)

/-- A name that is kept apart from the keywords gets at most a mark. -/
lemma lineFeeds_avoidKeyword {name : String} (h : lineFeeds name = 0) :
    lineFeeds (avoidKeyword name) = 0 := by
  by_cases hname : name ∈ keywords
  · exact lineFeeds_of_wordChars
      ((wordChars_avoidKeyword_iff name).2 (isClean_of_mem_keywords hname).wordChars)
  · rwa [avoidKeyword_of_not_mem hname]

lemma lineFeeds_recased (h : MarksOf change marked)
    (hmarked : ∀ code ∈ marked, '\n' ∉ change (Char.ofNat code)) (name : String) :
    lineFeeds (recased change name) = 0 := by
  refine lineFeeds_avoidKeyword ?_
  have hclean := (isClean_sanitize name).wordChars
  rw [lineFeeds_eq_zero_iff, String.toList_ofList]
  cases hsanitized : (sanitize name).toList with
  | nil => exact List.not_mem_nil
  | cons letter rest =>
      rw [hsanitized] at hclean
      obtain ⟨hletter, hrest⟩ := List.forall_mem_cons.1 hclean
      rw [recase, List.mem_append, not_or]
      exact ⟨lineFeed_not_mem_change h hmarked hletter,
        fun hmem => Bool.eq_false_iff.1 isWordChar_lineFeed (hrest '\n' hmem)⟩

@[simp]
lemma lineFeeds_exported (name : String) : lineFeeds (exported name) = 0 :=
  lineFeeds_recased marksOf_upper (by decide +kernel) name

@[simp]
lemma lineFeeds_unexported (name : String) : lineFeeds (unexported name) = 0 :=
  lineFeeds_recased marksOf_lower (by decide +kernel) name

end Identifier

lemma Declaration.lineFeeds_hostName {head : Declaration} {name : String}
    (h : head.hostName = some name) : lineFeeds name = 0 := by
  unfold hostName at h
  split at h
  · contradiction
  · cases h
    exact Identifier.lineFeeds_sanitize _

/-! ## Literals -/

namespace Output

/-- A literal has none, as each line feed of the text is written as an escape. -/
@[simp]
lemma lineFeeds_goLiteral (text : String) : lineFeeds (goLiteral text) = 0 := by
  have hcontrol : isControl '\n' = true := by decide
  rw [lineFeeds_eq_zero_iff, goLiteral, String.toList_ofList, List.mem_append, List.mem_cons]
  rintro ((hquote | hmem) | hquote)
  · exact absurd hquote (by decide)
  · obtain ⟨c, -, hc⟩ := List.mem_flatMap.1 hmem
    rw [isControl_of_mem_literalChar hc] at hcontrol
    contradiction
  · exact absurd hquote (by decide)

end Output

end FrameworkBindings
