import FrameworkBindings.Declaration

/-!
# Kept Go names

A declaration is asked for its Go name again and again, so the name is worked out once and kept.

* `Declaration.Detail` — what a declaration can be given besides its name.
* `Declaration.Memo` — a declaration with the Go name that it keeps, if it has been asked for one.
* `Memo.hostName` — the Go name, and the declaration that keeps it from then on.

**When a kept name goes stale.**  It is right as long as the name does not change.  `rename` forgets
it for this reason, and it is the only operation that has to: a detail has no part in the Go name,
and a copy has the name of the original when it is made.  Original and copy keep their names apart
from then on, so a later change of one does not show in the other.

Asking changes the declaration, so `hostName` gives back an answer and a declaration.  Whether the
answer is always that of `Declaration.hostName` is a question on sequences of calls, over all
declarations that were copied from one another, and is answered as such.
-/

namespace FrameworkBindings

namespace Declaration

/-- What a declaration can be given besides its name. -/
inductive Detail where
  | access (access : Access)
  | location (location : Option Location)
  | extent (extent : Option Extent)

/-- The same declaration with another detail in place of the one it had. -/
def withDetail (head : Declaration) : Detail → Declaration
  | .access access => { head with access }
  | .location location => { head with location }
  | .extent extent => { head with extent }

/-- A declaration that keeps its Go name.  Whoever copies it copies the name that it has kept, which
saves the copy the work. -/
structure Memo extends Declaration where
  kept : Option String := none

namespace Memo

/-- A declaration that has not been asked for its Go name and keeps none yet. -/
def ofName (refid name : String) : Memo :=
  { refid, name }

/-- A reference to something not yet seen; it has no name, and so no Go name to keep. -/
def placeholder (refid : String) : Memo :=
  ofName refid ""

/-- The Go name, if there is one, and the declaration that keeps it.  It is worked out only when
none is kept. -/
def hostName (memo : Memo) : Option String × Memo :=
  if memo.name = "" then (none, memo)
  else
    match memo.kept with
    | some host => (some host, memo)
    | none =>
        let host := Identifier.sanitize memo.name
        (some host, { memo with kept := some host })

/-- The same declaration under another name, whose Go name has yet to be worked out. -/
def rename (memo : Memo) (name : String) : Memo :=
  { memo.toDeclaration.rename name with kept := none }

/-- The same declaration with another detail; it keeps its Go name. -/
def withDetail (memo : Memo) (detail : Detail) : Memo :=
  { memo.toDeclaration.withDetail detail with kept := memo.kept }

end Memo

end Declaration

end FrameworkBindings
