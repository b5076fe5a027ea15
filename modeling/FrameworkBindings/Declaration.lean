import FrameworkBindings.Identifier

/-!
# Declarations

What entities, functions and files of the documentation have in common: the reference id, the name,
who may use it, and where it is declared.

* `Location`, `Extent` — the place of a declaration, and the lines of its body.
* `Declaration` — the common head; `Declaration.hostName` is its name as a Go identifier.

**Identity.**  The reference id says what is declared; it is unique in the documentation and names
are not.  Something that has only been referred to has a reference id and no name yet, and this is
the one way for a name to be empty: `hostName_eq_none_iff` is used all over to tell the two apart.

**Go names.**  Here the Go name is worked out from the name each time it is asked for.
`Declaration.Memo` works it out once and keeps it, and is shown to answer as `hostName` does.
-/

namespace FrameworkBindings

/-- Who may use a member.  It is kept with the declaration, and nothing that is written depends on
it. -/
inductive Access where
  | everyone
  | derived
  | owner
  | package
deriving DecidableEq

namespace Access

/-- The word by which the documentation calls it. -/
def word : Access → String
  | everyone => "public"
  | derived => "protected"
  | owner => "private"
  | package => "package"

/-- The access meant by a word of the documentation; none for any other word. -/
def ofWord? (word : String) : Option Access :=
  [everyone, derived, owner, package].find? fun access => access.word == word

/-- Each access is found by its own word, so no two share one. -/
theorem ofWord?_word (access : Access) : ofWord? access.word = some access := by
  cases access <;> decide

end Access

/-- A place in a header, which the documentation gives for most declarations. -/
structure Location where
  file : String
  line : UInt32
  column : UInt32
deriving DecidableEq

/-- The place as text; the first column goes without saying, as does one that is not given. -/
def Location.text (place : Location) : String :=
  let lineText := place.file ++ ":" ++ toString place.line.toNat
  if place.column ≤ 1 then lineText else lineText ++ ":" ++ toString place.column.toNat

/-- The lines of a body, from the first to the last. -/
structure Extent where
  file : String
  firstLine : UInt32
  lastLine : UInt32
deriving DecidableEq

/-- The head of everything that is declared.  Only a reference to something not yet seen has an
empty name. -/
structure Declaration where
  refid : String
  name : String
  access : Access := .everyone
  location : Option Location := none
  extent : Option Extent := none

namespace Declaration

/-- The name as a Go identifier, if there is one.  The case of its first letter stays as it is, and
a keyword stays a keyword. -/
def hostName (head : Declaration) : Option String :=
  if head.name = "" then none else some (Identifier.sanitize head.name)

/-- The same declaration under another name. -/
def rename (head : Declaration) (name : String) : Declaration :=
  { head with name }

/-- A declaration has a Go name as soon as it has a name, whatever characters it is made of. -/
theorem hostName_eq_none_iff {head : Declaration} : head.hostName = none ↔ head.name = "" := by
  simp [hostName]

end Declaration

end FrameworkBindings
