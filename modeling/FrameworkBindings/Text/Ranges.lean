/-!
# Ranges of code points

A character class is given by the closed ranges of code points it consists of.

* `Ranges.contains` — a code point lies in one of the ranges, with `Ranges.contains_iff` for proofs.

The classes that are needed here, white space, word characters and characters that do not show, all
come from tables of Unicode, where classes are listed in this form.
-/

namespace FrameworkBindings.Text

/-- Closed ranges of code points, first and last of each. -/
abbrev Ranges := List (Nat × Nat)

/-- Whether `code` lies in one of the ranges, which need not be sorted or apart. -/
def Ranges.contains (ranges : Ranges) (code : Nat) : Bool :=
  ranges.any fun range => range.1 ≤ code && code ≤ range.2

/-- Membership in a class is membership in one of its ranges, which is how a proof enters the
table. -/
theorem Ranges.contains_iff {ranges : Ranges} {code : Nat} :
    ranges.contains code = true ↔ ∃ range ∈ ranges, range.1 ≤ code ∧ code ≤ range.2 := by
  simp [Ranges.contains]

end FrameworkBindings.Text
