import FrameworkBindings.Document.Basic
import FrameworkBindings.Json.Reader
import FrameworkBindings.Json.Record

/-!
# Documents in JSON

Each part of the documentation is a record in JSON, with a default for every field; only the three
fields of an index entry must be there.  For each part there is a `decode` from JSON and, for what
is written again, an `encode` to JSON with every field.

* `Compound.decode`, `Compound.encode` — the documentation of an entry.
* `IndexEntry.decode`, `decodeIndex` — the index.
* `Location.decode`, `Extent.decode` — places, with all fields.

**Tolerance.**  A default is for a field that is missing.  A field with a value of the wrong kind
makes the whole record unreadable, and with it the document: documentation that was written by
another version should be noticed and not be half understood.  The names of fields are listed once
for each record (`fieldNames`), in the order that the array form has them.

Writing puts in every field, defaults included, so that what is written does not depend on what the
defaults are; reading it gives back the same compound.
-/

namespace FrameworkBindings

open Json

/-- Reads the word for an access, alone or as the only key of an object that says `null`. -/
def Access.decode : Value → Option Access
  | .object [(some word, .scalar .null)] => ofWord? word
  | value => value.text?.bind ofWord?

/-- Reads a place; no field may be missing. -/
def Location.decode (value : Value) : Option Location := do
  let fields ← value.fields? ["file", "line", "column"]
  let file ← required fields "file" Value.text?
  let line ← required fields "line" Value.uint32?
  let column ← required fields "column" Value.uint32?
  return { file, line, column }

/-- Reads the lines of a body; no field may be missing. -/
def Extent.decode (value : Value) : Option Extent := do
  let fields ← value.fields? ["file", "start_line", "end_line"]
  let file ← required fields "file" Value.text?
  let firstLine ← required fields "start_line" Value.uint32?
  let lastLine ← required fields "end_line" Value.uint32?
  return { file, firstLine, lastLine }

namespace Document

/-- A number of 32 bits, as a whole number. -/
def encodeUInt32 (n : UInt32) : Value := .integer n.toNat

/-- A number of 64 bits, as a whole number. -/
def encodeInt64 (n : Int64) : Value := .integer n.toInt

/-- A value, or `null` where there is none, so that a field is written in any case. -/
def encodeOption {α : Type} (encode : α → Value) (value : Option α) : Value :=
  value.elim .null encode

namespace Placement

/-- The fields of a placement, in the order of its array form. -/
def fieldNames : List String := ["file", "line", "column", "bodyfile", "bodystart", "bodyend"]

/-- Reads a placement; without any field it says that no place is known. -/
def decode (value : Value) : Option Placement := do
  let fields ← value.fields? fieldNames
  let file ← optional fields "file" "" Value.text?
  let line ← optional fields "line" 0 Value.uint32?
  let column ← optional fields "column" 0 Value.uint32?
  let bodyFile ← optional fields "bodyfile" "" Value.text?
  let bodyStart ← optional fields "bodystart" 0 Value.int64?
  let bodyEnd ← optional fields "bodyend" 0 Value.int64?
  return { file, line, column, bodyFile, bodyStart, bodyEnd }

/-- Writes a placement. -/
def encode (p : Placement) : Value :=
  .record [
    ("file", .text p.file),
    ("line", encodeUInt32 p.line),
    ("column", encodeUInt32 p.column),
    ("bodyfile", .text p.bodyFile),
    ("bodystart", encodeInt64 p.bodyStart),
    ("bodyend", encodeInt64 p.bodyEnd)]

end Placement

namespace Reference

/-- The fields of a reference. -/
def fieldNames : List String := ["refid", "text"]

/-- Reads a reference. -/
def decode (value : Value) : Option Reference := do
  let fields ← value.fields? fieldNames
  let refid ← optional fields "refid" "" Value.text?
  let text ← optional fields "text" "" Value.text?
  return { refid, text }

/-- Writes a reference. -/
def encode (r : Reference) : Value :=
  .record [("refid", .text r.refid), ("text", .text r.text)]

end Reference

namespace LinkedText

/-- The fields of a text with references. -/
def fieldNames : List String := ["text", "refs"]

/-- Reads a text with references; each of these must be readable. -/
def decode (value : Value) : Option LinkedText := do
  let fields ← value.fields? fieldNames
  let text ← optional fields "text" "" Value.text?
  let refs ← optional fields "refs" [] (Value.list? Reference.decode)
  return { text, refs }

/-- Writes a text with references. -/
def encode (t : LinkedText) : Value :=
  .record [("text", .text t.text), ("refs", .array (t.refs.map Reference.encode))]

end LinkedText

namespace Parameter

/-- The fields of a parameter. -/
def fieldNames : List String := ["declname", "type", "array"]

/-- Reads a parameter, whose type may be missing or `null`. -/
def decode (value : Value) : Option Parameter := do
  let fields ← value.fields? fieldNames
  let declname ← optional fields "declname" "" Value.text?
  let type ← optional fields "type" none (Value.nullable? LinkedText.decode)
  let array ← optional fields "array" "" Value.text?
  return { declname, type, array }

/-- Writes a parameter. -/
def encode (p : Parameter) : Value :=
  .record [
    ("declname", .text p.declname),
    ("type", encodeOption LinkedText.encode p.type),
    ("array", .text p.array)]

end Parameter

namespace Member

/-- The fields of a member, in the order of its array form, under the names that the extractor
uses. -/
def fieldNames : List String := [
  "id", "kind", "name", "prot", "static", "location", "type", "argsstring", "definition",
  "readable", "writable", "params"]

/-- Reads a member.  All fields have defaults, whatever the kind of the member is. -/
def decode (value : Value) : Option Member := do
  let fields ← value.fields? fieldNames
  let id ← optional fields "id" "" Value.text?
  let kind ← optional fields "kind" "" Value.text?
  let name ← optional fields "name" "" Value.text?
  let access ← optional fields "prot" .everyone Access.decode
  let isStatic ← optional fields "static" false Value.bool?
  let placement ← optional fields "location" none (Value.nullable? Placement.decode)
  let type ← optional fields "type" none (Value.nullable? LinkedText.decode)
  let argsstring ← optional fields "argsstring" "" Value.text?
  let definition ← optional fields "definition" "" Value.text?
  let readable ← optional fields "readable" false Value.bool?
  let writable ← optional fields "writable" false Value.bool?
  let params ← optional fields "params" [] (Value.list? Parameter.decode)
  return {
    id, kind, name, access, isStatic, placement, type, argsstring, definition, readable, writable,
    params }

/-- Writes a member, those of its fields included that mean nothing for its kind. -/
def encode (m : Member) : Value :=
  .record [
    ("id", .text m.id),
    ("kind", .text m.kind),
    ("name", .text m.name),
    ("prot", .text m.access.word),
    ("static", .bool m.isStatic),
    ("location", encodeOption Placement.encode m.placement),
    ("type", encodeOption LinkedText.encode m.type),
    ("argsstring", .text m.argsstring),
    ("definition", .text m.definition),
    ("readable", .bool m.readable),
    ("writable", .bool m.writable),
    ("params", .array (m.params.map Parameter.encode))]

end Member

namespace Section

/-- The fields of a section. -/
def fieldNames : List String := ["kind", "members"]

/-- Reads a section; one member that cannot be read makes it unreadable. -/
def decode (value : Value) : Option Section := do
  let fields ← value.fields? fieldNames
  let kind ← optional fields "kind" "" Value.text?
  let members ← optional fields "members" [] (Value.list? Member.decode)
  return { kind, members }

/-- Writes a section. -/
def encode (s : Section) : Value :=
  .record [("kind", .text s.kind), ("members", .array (s.members.map Member.encode))]

end Section

namespace Compound

/-- The fields of a compound. -/
def fieldNames : List String := ["prot", "language", "location", "sections"]

/-- Reads the documentation of an entry, all sections and members included. -/
def decode (value : Value) : Option Compound := do
  let fields ← value.fields? fieldNames
  let access ← optional fields "prot" .everyone Access.decode
  let language ← optional fields "language" "" Value.text?
  let placement ← optional fields "location" none (Value.nullable? Placement.decode)
  let sections ← optional fields "sections" [] (Value.list? Section.decode)
  return { access, language, placement, sections }

/-- Writes the documentation of an entry. -/
def encode (c : Compound) : Value :=
  .record [
    ("prot", .text c.access.word),
    ("language", .text c.language),
    ("location", encodeOption Placement.encode c.placement),
    ("sections", .array (c.sections.map Section.encode))]

/-- The documentation of an entry, from the text of its file: none if the text is no JSON, or JSON
of another shape. -/
def ofText? (text : String) : Option Compound :=
  (Json.read text).bind decode

end Compound

namespace IndexEntry

/-- Reads an entry of the index; no field may be missing. -/
def decode (value : Value) : Option IndexEntry := do
  let fields ← value.fields? ["refid", "name", "kind"]
  let refid ← required fields "refid" Value.text?
  let name ← required fields "name" Value.text?
  let kind ← required fields "kind" Value.text?
  return { refid, name, kind }

end IndexEntry

/-- Reads the index: the entries under `compounds`.  Other keys of an index do not count. -/
def decodeIndex (value : Value) : Option (List IndexEntry) := do
  let fields ← value.fields? ["compounds"]
  optional fields "compounds" [] (Value.list? IndexEntry.decode)

/-- The entries of an index, from the text of its file. -/
def indexOfText? (text : String) : Option (List IndexEntry) :=
  (Json.read text).bind decodeIndex

end Document

end FrameworkBindings
