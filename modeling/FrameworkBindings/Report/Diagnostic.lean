/-!
# Diagnostics

What a run could not do as well as one would like, collected while it goes on.

* `Diagnostic` — a category, a place and a message.
* `Collector` — diagnostics in order, with the entity that is being worked on: it becomes the entity
  of a diagnostic that names none.
* `Collector.summary` — the diagnostics by category, at most ten of each.

**Where a diagnostic comes from.**  What finds a fault knows the member but not always the entity it
works for, so the entity is kept as a context that is entered and left.  It is put into a diagnostic
when that is added; what is done to the context later changes nothing in what was collected.

**Diagnostics and outcomes.**  The report of a run says what became of each member and this says
why, sorted by what one would have to do about it.  Nothing is dropped: the summary shows ten of a
category and counts all of them.
-/

namespace FrameworkBindings

/-- The sorts of diagnostics, in the order of the summary; each calls for another remedy. -/
inductive Category where
  /-- A type has no Go spelling. -/
  | unrepresentableType
  /-- A type has a Go spelling, but nothing carries its values across the bridge. -/
  | missingCast
  /-- The entity has no Go layout. -/
  | noHostLayout
  /-- The Go name is taken. -/
  | duplicate
  /-- A member of a kind that is not translated. -/
  | unsupported
deriving DecidableEq

namespace Category

/-- The categories in order, each of them once. -/
def all : List Category :=
  [unrepresentableType, missingCast, noHostLayout, duplicate, unsupported]

/-- The heading of a category, as the summary shows it. -/
def word : Category → String
  | unrepresentableType => "UNREPRESENTABLE_TYPE"
  | missingCast => "MISSING_CAST"
  | noHostLayout => "NO_HOST_LAYOUT"
  | duplicate => "DUPLICATE"
  | unsupported => "UNSUPPORTED"

/-- The category of a heading; none for other words. -/
def ofWord? (word : String) : Option Category :=
  all.find? (·.word == word)

end Category

/-- Something a run could not do well, and where. -/
structure Diagnostic where
  category : Category
  message : String
  entity : Option String := none
  member : Option String := none
deriving DecidableEq

namespace Diagnostic

/-- The place of a diagnostic, as far as it is known: entity, member, both or neither. -/
def place (d : Diagnostic) : String :=
  match d.entity, d.member with
  | some entity, some member => entity ++ "." ++ member
  | some entity, none => entity
  | none, some member => member
  | none, none => "<unknown location>"

/-- The diagnostic on one line: category, place, message. -/
def line (d : Diagnostic) : String :=
  "[" ++ d.category.word ++ "] at " ++ d.place ++ ": " ++ d.message

/-- The diagnostic placed in an entity, unless it names one itself.  A context that is not there
places nothing. -/
def within (context : Option String) (d : Diagnostic) : Diagnostic :=
  { d with entity := d.entity.or context }

end Diagnostic

/-- Diagnostics in order, and the entity being worked on. -/
structure Collector where
  entries : List Diagnostic := []
  context : Option String := none
deriving DecidableEq

namespace Collector

/-- Goes on to an entity, whose diagnostics will be placed in it from now on. -/
def enter (c : Collector) (entity : String) : Collector :=
  { c with context := some entity }

/-- Leaves the entity; what is added next is placed nowhere, unless it names an entity. -/
def leave (c : Collector) : Collector :=
  { c with context := none }

/-- Adds a diagnostic at the end, placed in the entity that is being worked on. -/
def add (c : Collector) (d : Diagnostic) : Collector :=
  { c with entries := c.entries ++ [d.within c.context] }

/-- Adds diagnostics at the end, in order, all placed in the entity that is being worked on. -/
def addAll (c : Collector) (ds : List Diagnostic) : Collector :=
  { c with entries := c.entries ++ ds.map (·.within c.context) }

/-- Adds a diagnostic on a member of the entity. -/
def addMember (c : Collector) (category : Category) (member message : String) : Collector :=
  c.add { category, message, member := some member }

/-- The collector of the next run: what was collected is gone, and so is the entity that was being
worked on.  Nothing of the old one is kept, not even the context. -/
def clear (_ : Collector) : Collector := {}

/-- Whether nothing was collected since the collector was last cleared. -/
def isEmpty (c : Collector) : Bool := c.entries.isEmpty

/-- The diagnostics of a category, in order. -/
def ofCategory (c : Collector) (category : Category) : List Diagnostic :=
  c.entries.filter (·.category == category)

/-- How many diagnostics of a category the summary shows; a long run would drown the others
otherwise. -/
def shownPerCategory : Nat := 10

/-- The lines of a category in the summary, none if it has no diagnostics.  The heading counts all
of them, and a last line those that are not shown. -/
def group (c : Collector) (category : Category) : List String :=
  let found := c.ofCategory category
  if found.isEmpty then []
  else
    ["## " ++ category.word ++ " (" ++ toString found.length ++ "):"]
      ++ (found.take shownPerCategory).map (fun d => "  - " ++ d.line)
      ++ (if found.length > shownPerCategory then
          ["  ... and " ++ toString (found.length - shownPerCategory) ++ " more"] else [])
      ++ [""]

/-- The diagnostics by category, in the order of the categories and not in that of the run. -/
def summary (c : Collector) : String :=
  if c.isEmpty then "No diagnostics"
  else
    "\n".intercalate
      (["Found " ++ toString c.entries.length ++ " diagnostic(s):", ""]
        ++ Category.all.flatMap c.group)

/-- Adding several diagnostics is adding them one by one, as the context does not change on the
way. -/
theorem addAll_cons (c : Collector) (d : Diagnostic) (ds : List Diagnostic) :
    c.addAll (d :: ds) = (c.add d).addAll ds := by
  simp [addAll, add]

end Collector

end FrameworkBindings
