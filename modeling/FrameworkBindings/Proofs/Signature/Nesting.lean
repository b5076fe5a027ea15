import Mathlib.Algebra.Ring.Int.Defs
import FrameworkBindings.Proofs.Text.Words
import FrameworkBindings.Signature.Parse

/-!
# Nested texts and the scans over them

Three scans of the reader count open brackets: the check of the balance, the search for a function
marker, and the cut at commas.  This module says what they do on properly nested text.

**Nesting.**  `Nested` is the grammar of texts whose parentheses and square brackets match, each
kind inside the other.  Such a text passes the check of the balance (`Nested.imbalance?_eq_none`)
and leaves every count as it found it (`Nested.imbalanceFrom_append`, `Nested.depth_eq_zero`).

**Cutting.**  Inside brackets the cut at commas runs over nested text without cutting
(`Nested.runsOver`).  A text that is not cut at depth zero either is `Unbroken`; unbroken texts
joined by commas are the parameters that a parameter list is taken apart into
(`parameterTexts_intercalate`).

**Markers.**  Where no parenthesis opens, no function marker is found
(`splitAtMarker_append_of_no_paren`).

**A grammar and not a test.**  The check of the balance lets `([)]` pass, so being in balance is too
weak for statements on parts: a piece of a text in balance need not be in balance.  Nested texts are
closed under the things that are done to signatures, and each scan is followed by induction on the
grammar.  Whatever is proved of what passes the check and is not nested is proved elsewhere, by
other means.
-/

namespace FrameworkBindings.Signature

open Text

/-! ## Nesting -/

/-- Whether `c` opens or closes, whatever the kind. -/
def isBracket (c : Char) : Bool :=
  c == '(' || c == ')' || c == '[' || c == ']'

/-- The grammar of properly nested texts.  It is ambiguous, which does no harm, as nothing is read
off a derivation. -/
inductive Nested : List Char → Prop
  | nil : Nested []
  | plain {c : Char} (h : isBracket c = false) : Nested [c]
  | append {s t : List Char} (hs : Nested s) (ht : Nested t) : Nested (s ++ t)
  | parens {s : List Char} (h : Nested s) : Nested ('(' :: s ++ [')'])
  | brackets {s : List Char} (h : Nested s) : Nested ('[' :: s ++ [']'])

lemma isBracket_eq_false_of_isBlank {c : Char} (h : isBlank c = true) : isBracket c = false := by
  by_contra hbracket
  simp only [isBracket, Bool.not_eq_false, Bool.or_eq_true, beq_iff_eq] at hbracket
  rcases hbracket with ((rfl | rfl) | rfl) | rfl <;> exact absurd h (by decide)

lemma isBracket_eq_false_of_isWordChar {c : Char} (h : isWordChar c = true) :
    isBracket c = false := by
  by_contra hbracket
  simp only [isBracket, Bool.not_eq_false, Bool.or_eq_true, beq_iff_eq] at hbracket
  rcases hbracket with ((rfl | rfl) | rfl) | rfl <;> simp at h

/-- Text without brackets is nested, character by character. -/
lemma Nested.of_plain {s : List Char} (h : ∀ c ∈ s, isBracket c = false) : Nested s := by
  induction s with
  | nil => exact .nil
  | cons c s ih =>
      exact .append (.plain (h c (by simp))) (ih fun d hd => h d (by simp [hd]))

lemma countStep_eq_zero {c : Char} (h : isBracket c = false) :
    countStep '(' ')' c = 0 ∧ countStep '[' ']' c = 0 := by
  simp only [isBracket, Bool.or_eq_false_iff, beq_eq_false_iff_ne] at h
  simp [countStep, h]

lemma nesting_eq_zero {c : Char} (h : isBracket c = false) : nesting c = 0 := by
  simp [nesting, countStep_eq_zero h]

/-- The check of the balance passes over nested text with its counts unchanged, and so finds no
fault in it. -/
lemma Nested.imbalanceFrom_append {s : List Char} (h : Nested s) {p b : Int} (hp : 0 ≤ p)
    (hb : 0 ≤ b) (rest : List Char) : imbalanceFrom p b (s ++ rest) = imbalanceFrom p b rest := by
  induction h generalizing p b rest with
  | nil => rfl
  | plain hc =>
      obtain ⟨h1, h2⟩ := countStep_eq_zero hc
      simp [imbalanceFrom, h1, h2, Int.not_lt.2 hp, Int.not_lt.2 hb]
  | append _ _ ihs iht => rw [List.append_assoc, ihs hp hb, iht hp hb]
  | parens _ ih =>
      rw [List.append_assoc, List.cons_append, imbalanceFrom]
      simp only [show countStep '(' ')' '(' = 1 from rfl, show countStep '[' ']' '(' = 0 from rfl]
      rw [if_neg (by omega), if_neg (by omega), ih (by omega) (by omega), List.singleton_append,
        imbalanceFrom]
      simp only [show countStep '(' ')' ')' = -1 from rfl, show countStep '[' ']' ')' = 0 from rfl]
      rw [if_neg (by omega), if_neg (by omega)]
      congr 1 <;> omega
  | brackets _ ih =>
      rw [List.append_assoc, List.cons_append, imbalanceFrom]
      simp only [show countStep '(' ')' '[' = 0 from rfl, show countStep '[' ']' '[' = 1 from rfl]
      rw [if_neg (by omega), if_neg (by omega), ih (by omega) (by omega), List.singleton_append,
        imbalanceFrom]
      simp only [show countStep '(' ')' ']' = 0 from rfl, show countStep '[' ']' ']' = -1 from rfl]
      rw [if_neg (by omega), if_neg (by omega)]
      congr 1 <;> omega

/-- Nested text is in balance, so the check finds nothing to report in it. -/
lemma Nested.imbalance?_eq_none {s : List Char} (h : Nested s) : imbalance? s = none := by
  simpa [imbalance?, imbalanceFrom] using h.imbalanceFrom_append (Int.le_refl 0) (Int.le_refl 0) []

/-- A text that is not in balance has a bracket in it; so it is no word and no preset. -/
lemma exists_bracket_of_imbalance {s : List Char} {fault : Fault} (h : imbalance? s = some fault) :
    ∃ c ∈ s, isBracket c = true := by
  by_contra hplain
  push Not at hplain
  have hnested : Nested s := .of_plain fun c hc => by simpa using hplain c hc
  rw [hnested.imbalance?_eq_none] at h
  contradiction

/-- Nested texts are nested when they are listed, with commas between them. -/
lemma nested_intercalate {texts : List (List Char)} (h : ∀ t ∈ texts, Nested t) :
    Nested ([',', ' '].intercalate texts) := by
  induction texts with
  | nil => exact .nil
  | cons s texts ih =>
      cases texts with
      | nil => simpa using h s (by simp)
      | cons t texts =>
          rw [List.intercalate_cons_cons]
          exact ((h s (by simp)).append (.of_plain (by decide))).append
            (ih fun u hu => h u (by simp_all))

/-- The depth that a text ends at, from the depth zero.  It is between minus and plus the length of
the text, so 32 bits hold it for texts of fewer than 2³¹ characters. -/
def depth (s : List Char) : Int := (s.map nesting).sum

@[simp]
lemma depth_append (s t : List Char) : depth (s ++ t) = depth s + depth t := by
  simp [depth]

/-- Nested text ends at the depth it began at. -/
lemma Nested.depth_eq_zero {s : List Char} (h : Nested s) : depth s = 0 := by
  induction h with
  | nil => rfl
  | plain hc => simp [depth, nesting_eq_zero hc]
  | append _ _ ihs iht => rw [depth_append, ihs, iht, Int.add_zero]
  | @parens s _ ih =>
      calc depth ('(' :: s ++ [')']) = 1 + depth s + -1 := by
            simp [depth, show nesting '(' = 1 from rfl, show nesting ')' = -1 from rfl]
        _ = 0 := by rw [ih]; rfl
  | @brackets s _ ih =>
      calc depth ('[' :: s ++ [']']) = 1 + depth s + -1 := by
            simp [depth, show nesting '[' = 1 from rfl, show nesting ']' = -1 from rfl]
        _ = 0 := by rw [ih]; rfl

/-! ## Cutting at commas -/

lemma splitAtCommas_ne_nil (d : Int) (s : List Char) : splitAtCommas d s ≠ [] := by
  induction s generalizing d with
  | nil => simp [splitAtCommas]
  | cons c s ih =>
      rw [splitAtCommas]
      split
      · simp
      · split <;> simp

/-- A character that is no cut goes to the first piece, of which there always is one. -/
lemma splitAtCommas_cons {d : Int} {c : Char} (h : ¬(c = ',' ∧ d = 0)) (s : List Char) :
    splitAtCommas d (c :: s) = (splitAtCommas (d + nesting c) s).modifyHead (c :: ·) := by
  rw [splitAtCommas, if_neg h]
  cases hs : splitAtCommas (d + nesting c) s with
  | nil => exact absurd hs (splitAtCommas_ne_nil _ _)
  | cons piece pieces => rfl

/-- The cut at commas, begun at depth `d`, runs over `s` without cutting, whatever comes behind
it. -/
def RunsOver (d : Int) (s : List Char) : Prop :=
  ∀ rest, splitAtCommas d (s ++ rest) = (splitAtCommas d rest).modifyHead (s ++ ·)

lemma RunsOver.nil (d : Int) : RunsOver d [] := by
  intro rest
  cases h : splitAtCommas d rest <;> simp [h]

lemma RunsOver.append {d : Int} {s t : List Char} (hs : RunsOver d s) (ht : RunsOver d t) :
    RunsOver d (s ++ t) := by
  intro rest
  rw [List.append_assoc, hs, ht, List.modifyHead_modifyHead]
  simp [Function.comp_def]

/-- Brackets around a text make the depth one more inside. -/
lemma RunsOver.enclose {d : Int} {s : List Char} {l r : Char} (hl : nesting l = 1)
    (hr : nesting r = -1) (hs : RunsOver (d + 1) s) : RunsOver d (l :: s ++ [r]) := by
  intro rest
  have hlc : l ≠ ',' := by rintro rfl; exact absurd hl (by decide)
  have hrc : r ≠ ',' := by rintro rfl; exact absurd hr (by decide)
  rw [List.append_assoc, List.cons_append, splitAtCommas_cons (by simp [hlc]), hl, hs,
    List.singleton_append, splitAtCommas_cons (by simp [hrc]), hr, show d + 1 + -1 = d by omega]
  simp [List.modifyHead_modifyHead, Function.comp_def]

/-- Inside brackets nothing is cut: the commas of a nested list belong to that list. -/
lemma Nested.runsOver {s : List Char} (h : Nested s) {d : Int} (hd : 1 ≤ d) : RunsOver d s := by
  induction h generalizing d with
  | nil => exact .nil d
  | plain hc =>
      intro rest
      rw [List.singleton_append, splitAtCommas_cons (by omega), nesting_eq_zero hc, Int.add_zero]
      rfl
  | append _ _ ihs iht => exact (ihs hd).append (iht hd)
  | parens _ ih => exact .enclose rfl rfl (ih (by omega))
  | brackets _ ih => exact .enclose rfl rfl (ih (by omega))

/-- A text that is never cut at its commas, at whatever depth it stands.  Types are of this kind. -/
def Unbroken (s : List Char) : Prop := ∀ d, 0 ≤ d → RunsOver d s

lemma Unbroken.append {s t : List Char} (hs : Unbroken s) (ht : Unbroken t) : Unbroken (s ++ t) :=
  fun d hd => (hs d hd).append (ht d hd)

/-- Text without brackets and commas is unbroken, at every depth. -/
lemma Unbroken.of_plain {s : List Char} (h : ∀ c ∈ s, isBracket c = false ∧ c ≠ ',') :
    Unbroken s := by
  intro d _ rest
  induction s with
  | nil => exact RunsOver.nil d rest
  | cons c s ih =>
      obtain ⟨hc, hcomma⟩ := h c (by simp)
      rw [List.cons_append, splitAtCommas_cons (by simp [hcomma]), nesting_eq_zero hc, Int.add_zero,
        ih fun e he => h e (by simp [he]), List.modifyHead_modifyHead]
      rfl

lemma Nested.unbroken_parens {s : List Char} (h : Nested s) : Unbroken ('(' :: s ++ [')']) :=
  fun _ hd => .enclose rfl rfl (h.runsOver (by omega))

lemma Nested.unbroken_brackets {s : List Char} (h : Nested s) : Unbroken ('[' :: s ++ [']']) :=
  fun _ hd => .enclose rfl rfl (h.runsOver (by omega))

/-- Unbroken texts with `, ` between them are cut at these commas and nowhere else; the blank stays
with the piece behind it. -/
lemma splitAtCommas_intercalate {s : List Char} {texts : List (List Char)}
    (h : ∀ t ∈ s :: texts, Unbroken t) :
    splitAtCommas 0 ([',', ' '].intercalate (s :: texts)) = s :: texts.map (' ' :: ·) := by
  induction texts generalizing s with
  | nil => simpa [splitAtCommas] using h s (by simp) 0 (Int.le_refl 0) []
  | cons t texts ih =>
      have hs : RunsOver 0 s := h s (by simp) 0 (Int.le_refl 0)
      have hcut : ∀ rest, splitAtCommas 0 (',' :: rest) = [] :: splitAtCommas 0 rest := by
        intro rest; rw [splitAtCommas, if_pos ⟨rfl, rfl⟩]
      have hblank : (0 : Int) + nesting ' ' = 0 := rfl
      rw [List.intercalate_cons_cons, List.append_assoc, hs, List.cons_append,
        List.singleton_append, hcut, splitAtCommas_cons (by simp), hblank,
        ih fun u hu => h u (by simp_all)]
      simp

/-- A parameter list is taken apart into the unbroken, trimmed texts that it was joined from, but
for `void` alone, which is no parameter. -/
lemma parameterTexts_intercalate {texts : List (List Char)}
    (h : ∀ t ∈ texts, Unbroken t ∧ trim t = t ∧ t ≠ []) (hvoid : texts ≠ ["void".toList]) :
    parameterTexts ([',', ' '].intercalate texts) = texts := by
  have hpieces : ((splitAtCommas 0 ([',', ' '].intercalate texts)).map trim).filter (! ·.isEmpty)
      = texts := by
    cases texts with
    | nil => rfl
    | cons s texts =>
        rw [splitAtCommas_intercalate fun t ht => (h t ht).1]
        have htrim : ∀ t ∈ texts, trim (' ' :: t) = t := by
          intro t ht
          have hblank : trim (' ' :: t) = trim t := by
            simp [trim, trimStart, show isBlank ' ' = true from rfl]
          rw [hblank]
          exact (h t (by simp [ht])).2.1
        rw [List.map_cons, List.map_map, (h s (by simp)).2.1,
          List.map_congr_left (g := id) (by simpa using htrim), List.map_id,
          List.filter_eq_self.2]
        simpa using fun t ht => (h t ht).2.2
  unfold parameterTexts
  simp only [hpieces, if_neg hvoid]

/-! ## Function markers -/

/-- Every function marker opens with a parenthesis, so none begins elsewhere. -/
lemma afterMarker?_cons_of_ne {c : Char} (h : c ≠ '(') (s : List Char) :
    afterMarker? (c :: s) = none := by
  simp [afterMarker?, functionMarkers, stripLeading, Ne.symm h]

/-- Where no parenthesis opens, the search for a marker goes on behind the text, at the depth that
it ends at. -/
lemma splitAtMarker_append_of_no_paren {s : List Char} (h : '(' ∉ s) (d : Int) (rest : List Char) :
    splitAtMarker d (s ++ rest) =
      (splitAtMarker (d + depth s) rest).map fun parts => (s ++ parts.1, parts.2) := by
  induction s generalizing d with
  | nil => simp [depth]
  | cons c s ih =>
      simp only [List.mem_cons, not_or] at h
      have hdepth : d + depth (c :: s) = d + nesting c + depth s := by simp [depth, Int.add_assoc]
      rw [List.cons_append, splitAtMarker, afterMarker?_cons_of_ne (Ne.symm h.1), ite_self, ih h.2,
        Option.map_map, hdepth]
      rfl

end FrameworkBindings.Signature
