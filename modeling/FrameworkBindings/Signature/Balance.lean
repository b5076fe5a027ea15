/-!
# Balance of parentheses and brackets

A signature is refused if its parentheses or its square brackets do not balance.  The two kinds are
counted side by side and do not see each other: `([)]` passes.

* `Fault` — the kind that does not balance.
* `imbalance?` — the first fault that a scan from the left meets.
* `nesting` — what a character does to the depth when both kinds count as one.

**Two ways to count.**  The check of a whole signature keeps one count for each kind, so that it can
say which of them is at fault.  Where a signature is cut, at a marker or at a comma, one depth for
both kinds is enough: the text has passed the check by then, and all that matters is whether a place
is inside of anything.

**The size of the counts.**  Depths are integers without a bound here.  A character changes a count
by at most one, so on a text of fewer than 2³¹ characters no count leaves the range of 32 bits, and
counters of that size go through the same values.  Longer texts are beyond what they can hold.
-/

namespace FrameworkBindings.Signature

/-- The kind of bracket that does not balance, as a message names it. -/
inductive Fault where
  | parentheses
  | brackets
deriving DecidableEq

/-- The fault in words, for the message about a malformed signature. -/
def Fault.reason : Fault → String
  | parentheses => "unbalanced parentheses"
  | brackets => "unbalanced brackets"

/-- What `c` does to the count of open `left`: one more, one less, or nothing if it is another
character. -/
def countStep (left right c : Char) : Int :=
  if c = left then 1 else if c = right then -1 else 0

/-- What `c` does to the depth of nesting, whatever the kind.  It is -1, 0 or 1; the sum over fewer
than 2³¹ characters therefore fits in 32 bits, and sums of that size agree with these. -/
def nesting (c : Char) : Int :=
  countStep '(' ')' c + countStep '[' ']' c

/-- Scans on with the given numbers of open parentheses and brackets.  A count below zero ends the
scan at once, since nothing that follows can make up for it. -/
def imbalanceFrom (parentheses brackets : Int) : List Char → Option Fault
  | [] =>
    if parentheses ≠ 0 then some .parentheses
    else if brackets ≠ 0 then some .brackets
    else none
  | c :: text =>
    let parentheses := parentheses + countStep '(' ')' c
    let brackets := brackets + countStep '[' ']' c
    if parentheses < 0 then some .parentheses
    else if brackets < 0 then some .brackets
    else imbalanceFrom parentheses brackets text

/-- The first fault in the balance of `text`: a kind closed before it was opened, or left open at
the end, parentheses first.  Both counts stay between minus one and the number of characters read,
so for texts of fewer than 2³¹ characters 32 bits are enough for them. -/
def imbalance? (text : List Char) : Option Fault :=
  imbalanceFrom 0 0 text

end FrameworkBindings.Signature
