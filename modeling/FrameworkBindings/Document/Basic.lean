import FrameworkBindings.Entity
import FrameworkBindings.Text.Affix

/-!
# The documentation

What the extractor writes about a framework: an index of entries, and for each entry a compound with
sections of members.  Types are texts with references in them.

* `IndexEntry`, `Compound`, `Section`, `Member` and what is in them.
* `CompoundKind`, `SectionKind` — what the words for kinds mean to a loader.
* `Placement.location`, `Placement.extent` — the places that are really known.

**Words and kinds.**  Kinds are words in the documentation and stay words in these records, as the
extractor has more of them than a loader knows; what is not known has to survive being read and
written again.  `compoundKind` and `sectionKind` turn them into cases when a loader asks.

**Places.**  The extractor fills in something for every place, known or not.  An empty file name or
a line out of range says that nothing is known, and `location` and `extent` make that explicit.

**Members.**  One record serves for functions, properties and attributes alike, with fields that
only some of them use.  Members and sections say independently of each other what they are, so a
member may be of a kind that its section does not expect; then the loader notes it.
-/

namespace FrameworkBindings.Document

/-- An entry of the index: what it is, what it is called, and where its compound is found. -/
structure IndexEntry where
  refid : String
  name : String
  kind : String
deriving DecidableEq

/-- Where something is declared, as the extractor writes it: an empty file means that the place is
not known, and a body that is not there has lines out of range. -/
structure Placement where
  file : String := ""
  line : UInt32 := 0
  column : UInt32 := 0
  bodyFile : String := ""
  bodyStart : Int64 := 0
  bodyEnd : Int64 := 0
deriving DecidableEq

/-- A reference inside a text, to an entity by its reference id. -/
structure Reference where
  refid : String := ""
  text : String := ""
deriving DecidableEq

/-- A text with references in it, in the order in which they occur. -/
structure LinkedText where
  text : String := ""
  refs : List Reference := []
deriving DecidableEq

/-- A parameter of a function; `array` is a suffix such as `[16]`. -/
structure Parameter where
  declname : String := ""
  type : Option LinkedText := none
  array : String := ""
deriving DecidableEq

/-- A member of a section.  Which of the fields mean something depends on its kind. -/
structure Member where
  id : String := ""
  kind : String := ""
  name : String := ""
  access : Access := .everyone
  isStatic : Bool := false
  placement : Option Placement := none
  type : Option LinkedText := none
  argsstring : String := ""
  /-- The qualified definition, such as `(void) NSAlert::layout`. -/
  definition : String := ""
  readable : Bool := false
  writable : Bool := false
  params : List Parameter := []
deriving DecidableEq

/-- A group of members; `kind` is the tag that says which. -/
structure Section where
  kind : String := ""
  members : List Member := []
deriving DecidableEq

/-- The documentation of an entry, without its name, which the index has. -/
structure Compound where
  access : Access := .everyone
  language : String := ""
  placement : Option Placement := none
  sections : List Section := []
deriving DecidableEq

/-! ## Places -/

/-- A body line that fits in a line number; the extractor writes minus one where there is none. -/
def lineNumber? (line : Int64) : Option UInt32 :=
  if 0 ≤ line.toInt ∧ line.toInt.toNat < UInt32.size then some (UInt32.ofNat line.toInt.toNat)
  else none

namespace Placement

/-- The place of the declaration, if a file is given. -/
def location (p : Placement) : Option Location :=
  if p.file = "" then none else some ⟨p.file, p.line, p.column⟩

/-- The lines of the body, if a file is given and both lines are in range. -/
def extent (p : Placement) : Option Extent :=
  if p.bodyFile = "" then none
  else
    match lineNumber? p.bodyStart, lineNumber? p.bodyEnd with
    | some first, some last => some ⟨p.bodyFile, first, last⟩
    | _, _ => none

end Placement

/-- The place of a declaration, where there is a placement. -/
def locationOf (p : Option Placement) : Option Location := p.bind Placement.location

/-- The lines of a body, where there is a placement. -/
def extentOf (p : Option Placement) : Option Extent := p.bind Placement.extent

/-! ## Kinds -/

/-- What an entry of the index is, to a loader.  An interface is what this language calls a
class. -/
inductive CompoundKind where
  | struct
  | objectClass
  | interface
  | protocol
  | union
  | file
  | other
deriving DecidableEq

namespace CompoundKind

/-- The word for a kind; `other` has one only for messages. -/
def word : CompoundKind → String
  | struct => "struct"
  | objectClass => "class"
  | interface => "interface"
  | protocol => "protocol"
  | union => "union"
  | file => "file"
  | other => "other"

/-- The kind meant by a word; a word that is not known means any other kind. -/
def ofWord (word : String) : CompoundKind :=
  ([struct, objectClass, interface, protocol, union, file].find? (·.word == word)).getD other

end CompoundKind

/-- What a section holds, with what its tag says of all members in it. -/
inductive SectionKind where
  | attributes (access : Access) (isStatic : Bool)
  | properties
  | functions (isStatic : Bool)
  | other
deriving DecidableEq

namespace SectionKind

/-- The section meant by a tag that ends in `-attrib`, from what stands before: an access, perhaps
with a mark for static members. -/
def ofAttributeTag (tag : List Char) : SectionKind :=
  let (word, isStatic) :=
    match Text.stripTrailing "-static".toList tag with
    | some word => (word, true)
    | none => (tag, false)
  match Access.ofWord? (String.ofList word) with
  | some access => attributes access isStatic
  | none => other

/-- The section meant by a tag; a tag that is not known means any other section, which is passed
over. -/
def ofTag (tag : String) : SectionKind :=
  if tag = "property" then properties
  else if tag = "func" ∨ tag = "public-func" then functions false
  else if tag = "public-static-func" then functions true
  else
    match Text.stripTrailing "-attrib".toList tag.toList with
    | some rest => ofAttributeTag rest
    | none => other

/-- What an entity must be able to hold for such a section; nothing for a section that is passed
over. -/
def capability? : SectionKind → Option Capability
  | attributes _ _ => some .attributes
  | properties => some .properties
  | functions _ => some .methods
  | other => none

end SectionKind

/-- What the section holds, by its tag alone: its members are not looked at. -/
def Section.sectionKind (s : Section) : SectionKind := .ofTag s.kind

/-- What the entry is. -/
def IndexEntry.compoundKind (entry : IndexEntry) : CompoundKind := .ofWord entry.kind

end FrameworkBindings.Document
