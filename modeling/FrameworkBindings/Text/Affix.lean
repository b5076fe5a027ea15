/-!
# Leading and trailing pieces

Cutting a known piece off either end of a text, and splitting a text at the first place where a
mark stands.

* `stripLeading`, `stripTrailing` — the rest after (before) a given piece, if the text has it there.
* `splitOnce` — what stands before and after the first occurrence of a mark.

The two ends are handled alike: the end of a text is the beginning of its reverse.  For proofs the
recursion does not matter.  `stripLeading_eq_some_iff` and `stripTrailing_eq_some_iff` say that the
piece and the rest make up the text, and everything else is shown from these equations.
-/

namespace FrameworkBindings.Text

/-- The rest of `text` after `lead`, if `text` begins with it. -/
def stripLeading : (lead text : List Char) → Option (List Char)
  | [], text => some text
  | _ :: _, [] => none
  | l :: lead, c :: text => if l = c then stripLeading lead text else none

/-- What stands before `trail`, if `text` ends with it.  An empty piece is found at the end of any
text. -/
def stripTrailing (trail text : List Char) : Option (List Char) :=
  (stripLeading trail.reverse text.reverse).map List.reverse

/-- The text before and after the first occurrence of `mark`.  Occurrences may overlap; the one that
begins first counts. -/
def splitOnce (mark : List Char) : List Char → Option (List Char × List Char)
  | [] => (stripLeading mark []).map fun after => ([], after)
  | c :: text =>
    match stripLeading mark (c :: text) with
    | some after => some ([], after)
    | none => (splitOnce mark text).map fun parts => (c :: parts.1, parts.2)

theorem stripLeading_eq_some_iff {lead text rest : List Char} :
    stripLeading lead text = some rest ↔ text = lead ++ rest := by
  induction lead generalizing text with
  | nil => simp [stripLeading]
  | cons l lead ih =>
    cases text with
    | nil => simp [stripLeading]
    | cons c text =>
      by_cases h : l = c
      · simp [stripLeading, h, ih]
      · simp [stripLeading, h, Ne.symm h]

theorem stripTrailing_eq_some_iff {trail text rest : List Char} :
    stripTrailing trail text = some rest ↔ text = rest ++ trail := by
  constructor
  · intro h
    obtain ⟨cut, hcut, rfl⟩ := Option.map_eq_some_iff.1 h
    have := congrArg List.reverse (stripLeading_eq_some_iff.1 hcut)
    simpa using this
  · rintro rfl
    have : stripLeading trail.reverse (rest ++ trail).reverse = some rest.reverse := by
      simp [stripLeading_eq_some_iff]
    rw [stripTrailing, this, Option.map_some, List.reverse_reverse]

end FrameworkBindings.Text
