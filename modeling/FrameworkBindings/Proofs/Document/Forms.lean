import FrameworkBindings.Document.Decode
import FrameworkBindings.Json.Writer
import FrameworkBindings.Proofs.Json.Records

/-!
# The forms of a documentation

The documentation of an entry is a tree of records, and each record in it may have any of its forms.

* `faithful_text`, `faithful_int64` and the like — what stands in a field without parts.
* `Reference.faithful`, `Member.faithful` and the like — the records, from the inside out.
* **`Compound.ofText?_form`** — the documentation is read from the text of each of its forms.

Each record is treated in the same way: its fields with what may stand in them (`fields`), the forms
that follow (`Form`), and that they are all read alike (`faithful`), which is `faithful_record` for
this list of fields.  A record that gains a field needs one more entry in its list and no other
change here.

**Numbers.**  Lines and columns have 32 bits without sign, and bodies 64 bits with sign.  What is
written of them is in range, as they are of that width from the start.

**Freedom.**  A form may leave out what has its default value, put the keys in any order, add keys
that nobody knows or give up keys for a list of the fields, and this at every level on its own.
Reading all of these back is more than reading back what was written: the extractor is a program of
its own, and keeps to the fields but not to their order.
-/

namespace FrameworkBindings.Document

open Json

/-! ## Fields without parts -/

lemma faithful_text : Faithful Value.text? Value.text (Plain Value.text) :=
  faithful_plain (fun _ => rfl) fun _ => .scalar trivial

lemma faithful_bool : Faithful Value.bool? Value.bool (Plain Value.bool) :=
  faithful_plain (fun _ => rfl) fun _ => .scalar trivial

/-- How an access is written: as the word for it. -/
def encodeAccess (access : Access) : Value := .text access.word

lemma faithful_access : Faithful Access.decode encodeAccess (Plain encodeAccess) :=
  faithful_plain Access.ofWord?_word fun _ => .scalar trivial

lemma faithful_uint32 : Faithful Value.uint32? encodeUInt32 (Plain encodeUInt32) := by
  refine faithful_plain (fun n => ?_) fun _ => .scalar trivial
  have hn : (0 : ℤ) ≤ (n.toNat : ℤ) ∧ ((n.toNat : ℤ)).toNat < UInt32.size :=
    ⟨Int.natCast_nonneg _, n.toNat_lt_size⟩
  show (if _ then some (UInt32.ofNat _) else none) = _
  rw [if_pos hn, Int.toNat_natCast, UInt32.ofNat_toNat]

lemma faithful_int64 : Faithful Value.int64? encodeInt64 (Plain encodeInt64) := by
  refine faithful_plain (fun n => ?_) fun _ => .scalar trivial
  show (if _ then some (Int64.ofInt n.toInt) else none) = _
  rw [if_pos ⟨n.minValue_le_toInt, n.toInt_le⟩, Int64.ofInt_toInt]

/-! ## Records -/

namespace Placement

/-- The fields of a placement and what may stand in them. -/
def fields (p : Placement) : List Field := [
  faithful_text.field "file" "" p.file,
  faithful_uint32.field "line" 0 p.line,
  faithful_uint32.field "column" 0 p.column,
  faithful_text.field "bodyfile" "" p.bodyFile,
  faithful_int64.field "bodystart" 0 p.bodyStart,
  faithful_int64.field "bodyend" 0 p.bodyEnd]

/-- The forms of a placement. -/
def Form (p : Placement) : Value → Prop := Records p.fields

lemma faithful : Faithful decode encode Form := by
  refine faithful_record (show fieldNames.Nodup by decide) (fun _ => rfl) (fun _ => rfl) ?_
  intro p v get hget hfields
  simp only [fields, List.forall_mem_cons] at hfields
  obtain ⟨hfile, hline, hcolumn, hbodyFile, hbodyStart, hbodyEnd, _⟩ := hfields
  simp only [decode, hget, Option.bind_eq_bind, Option.bind_some, faithful_text.optional hfile,
    faithful_uint32.optional hline, faithful_uint32.optional hcolumn,
    faithful_text.optional hbodyFile, faithful_int64.optional hbodyStart,
    faithful_int64.optional hbodyEnd]
  rfl

end Placement

namespace Reference

/-- The fields of a reference and what may stand in them. -/
def fields (r : Reference) : List Field := [
  faithful_text.field "refid" "" r.refid,
  faithful_text.field "text" "" r.text]

/-- The forms of a reference. -/
def Form (r : Reference) : Value → Prop := Records r.fields

lemma faithful : Faithful decode encode Form := by
  refine faithful_record (show fieldNames.Nodup by decide) (fun _ => rfl) (fun _ => rfl) ?_
  intro r v get hget hfields
  simp only [fields, List.forall_mem_cons] at hfields
  obtain ⟨hrefid, htext, _⟩ := hfields
  simp only [decode, hget, Option.bind_eq_bind, Option.bind_some, faithful_text.optional hrefid,
    faithful_text.optional htext]
  rfl

end Reference

namespace LinkedText

/-- The fields of a text with references and what may stand in them. -/
def fields (t : LinkedText) : List Field := [
  faithful_text.field "text" "" t.text,
  Reference.faithful.items.field "refs" [] t.refs]

/-- The forms of a text with references. -/
def Form (t : LinkedText) : Value → Prop := Records t.fields

lemma faithful : Faithful decode encode Form := by
  refine faithful_record (show fieldNames.Nodup by decide) (fun _ => rfl) (fun _ => rfl) ?_
  intro t v get hget hfields
  simp only [fields, List.forall_mem_cons] at hfields
  obtain ⟨htext, hrefs, _⟩ := hfields
  simp only [decode, hget, Option.bind_eq_bind, Option.bind_some, faithful_text.optional htext,
    Reference.faithful.items.optional hrefs]
  rfl

end LinkedText

namespace Parameter

/-- The fields of a parameter and what may stand in them. -/
def fields (p : Parameter) : List Field := [
  faithful_text.field "declname" "" p.declname,
  (LinkedText.faithful.nullable rfl).field "type" none p.type,
  faithful_text.field "array" "" p.array]

/-- The forms of a parameter. -/
def Form (p : Parameter) : Value → Prop := Records p.fields

lemma faithful : Faithful decode encode Form := by
  refine faithful_record (show fieldNames.Nodup by decide) (fun _ => rfl) (fun _ => rfl) ?_
  intro p v get hget hfields
  simp only [fields, List.forall_mem_cons] at hfields
  obtain ⟨hdeclname, htype, harray, _⟩ := hfields
  simp only [decode, hget, Option.bind_eq_bind, Option.bind_some,
    faithful_text.optional hdeclname, (LinkedText.faithful.nullable rfl).optional htype,
    faithful_text.optional harray]
  rfl

end Parameter

namespace Member

/-- The fields of a member and what may stand in them, in the order of the array form. -/
def fields (m : Member) : List Field := [
  faithful_text.field "id" "" m.id,
  faithful_text.field "kind" "" m.kind,
  faithful_text.field "name" "" m.name,
  faithful_access.field "prot" .everyone m.access,
  faithful_bool.field "static" false m.isStatic,
  (Placement.faithful.nullable rfl).field "location" none m.placement,
  (LinkedText.faithful.nullable rfl).field "type" none m.type,
  faithful_text.field "argsstring" "" m.argsstring,
  faithful_text.field "definition" "" m.definition,
  faithful_bool.field "readable" false m.readable,
  faithful_bool.field "writable" false m.writable,
  Parameter.faithful.items.field "params" [] m.params]

/-- The forms of a member. -/
def Form (m : Member) : Value → Prop := Records m.fields

lemma faithful : Faithful decode encode Form := by
  refine faithful_record (show fieldNames.Nodup by decide) (fun _ => rfl) (fun _ => rfl) ?_
  intro m v get hget hfields
  simp only [fields, List.forall_mem_cons] at hfields
  obtain ⟨hid, hkind, hname, haccess, hstatic, hplacement, htype, hargsstring, hdefinition,
    hreadable, hwritable, hparams, _⟩ := hfields
  simp only [decode, hget, Option.bind_eq_bind, Option.bind_some, faithful_text.optional hid,
    faithful_text.optional hkind, faithful_text.optional hname, faithful_access.optional haccess,
    faithful_bool.optional hstatic, (Placement.faithful.nullable rfl).optional hplacement,
    (LinkedText.faithful.nullable rfl).optional htype, faithful_text.optional hargsstring,
    faithful_text.optional hdefinition, faithful_bool.optional hreadable,
    faithful_bool.optional hwritable, Parameter.faithful.items.optional hparams]
  rfl

end Member

namespace Section

/-- The fields of a section and what may stand in them. -/
def fields (s : Section) : List Field := [
  faithful_text.field "kind" "" s.kind,
  Member.faithful.items.field "members" [] s.members]

/-- The forms of a section. -/
def Form (s : Section) : Value → Prop := Records s.fields

lemma faithful : Faithful decode encode Form := by
  refine faithful_record (show fieldNames.Nodup by decide) (fun _ => rfl) (fun _ => rfl) ?_
  intro s v get hget hfields
  simp only [fields, List.forall_mem_cons] at hfields
  obtain ⟨hkind, hmembers, _⟩ := hfields
  simp only [decode, hget, Option.bind_eq_bind, Option.bind_some, faithful_text.optional hkind,
    Member.faithful.items.optional hmembers]
  rfl

end Section

namespace Compound

/-- The fields of a compound and what may stand in them. -/
def fields (c : Compound) : List Field := [
  faithful_access.field "prot" .everyone c.access,
  faithful_text.field "language" "" c.language,
  (Placement.faithful.nullable rfl).field "location" none c.placement,
  Section.faithful.items.field "sections" [] c.sections]

/-- The forms of the documentation of an entry, those of everything in it included. -/
def Form (c : Compound) : Value → Prop := Records c.fields

lemma faithful : Faithful decode encode Form := by
  refine faithful_record (show fieldNames.Nodup by decide) (fun _ => rfl) (fun _ => rfl) ?_
  intro c v get hget hfields
  simp only [fields, List.forall_mem_cons] at hfields
  obtain ⟨haccess, hlanguage, hplacement, hsections, _⟩ := hfields
  simp only [decode, hget, Option.bind_eq_bind, Option.bind_some, faithful_access.optional haccess,
    faithful_text.optional hlanguage, (Placement.faithful.nullable rfl).optional hplacement,
    Section.faithful.items.optional hsections]
  rfl

/-- **The documentation of an entry is read from the text of each of its forms**: from what is
written, whether indented or not, and from all else that says the same.  Text, value and records are
taken one after the other, each with a theorem of its own. -/
theorem ofText?_form (c : Compound) :
    ofText? (write c.encode) = some c ∧ ofText? (writePretty c.encode) = some c ∧
      ∀ v, c.Form v → ofText? (write v) = some c ∧ ofText? (writePretty v) = some c := by
  have hform : ∀ v, c.Form v → ofText? (write v) = some c ∧ ofText? (writePretty v) = some c := by
    intro v hv
    have hreadable := faithful.readable_of_form hv
    rw [ofText?, ofText?, read_write hreadable, read_writePretty hreadable, Option.bind_some]
    exact ⟨faithful.decode_of_form hv, faithful.decode_of_form hv⟩
  obtain ⟨hwrite, hpretty⟩ := hform c.encode (faithful.form_encode c)
  exact ⟨hwrite, hpretty, hform⟩

/-- A class with one method, for an example of a form. -/
def windowClass : Compound where
  access := .owner
  sections := [
    { kind := "func", members := [{ name := "close", type := some { text := "void" } }] }]

/-- The same with its section and its type as lists, the other records as objects with their keys in
another order, a key that means nothing, and no field that has its default. -/
def windowForm : Value :=
  .object [
    (some "sections", .array [
      .array [.text "func", .array [
        .object [(some "type", .array [.text "void"]), (some "name", .text "close")]]]]),
    (some "compiler", .integer 7),
    (some "prot", .text "private")]

/-- A form in which arrays and objects are mixed and a key means nothing is read as the class that
it is a form of: almost all fields are missing and have their defaults. -/
theorem ofText?_form_window :
    windowClass.Form windowForm ∧
      write windowForm =
        "\x7b\"sections\":[[\"func\",[\x7b\"type\":[\"void\"],\"name\":\"close\"\x7d]]]," ++
          "\"compiler\":7,\"prot\":\"private\"\x7d" ∧
      ofText? (write windowForm) = some windowClass := by
  have htype : LinkedText.Form { text := "void" } (.array [.text "void"]) :=
    .array (.item rfl (.stop (List.forall_mem_singleton.2 rfl)))
  have hmember : Member.Form { name := "close", type := some { text := "void" } }
      (.object [(some "type", .array [.text "void"]), (some "name", .text "close")]) := by
    refine Gives.records ?_ (.swap _ _ _)
    exact .dropped rfl <| .dropped rfl <| .given rfl <| .dropped rfl <| .dropped rfl <|
      .dropped rfl <| .given htype <| .dropped rfl <| .dropped rfl <| .dropped rfl <|
      .dropped rfl <| .dropped rfl .nil
  have hsections : Items Section.Form windowClass.sections (.array [.array [.text "func", _]]) :=
    ⟨_, rfl, .cons (.array (.item rfl (.item ⟨_, rfl, .cons hmember .nil⟩ (.stop nofun)))) .nil⟩
  have hunknown : ∀ m ∈ [(some "compiler", Value.integer 7)], IsUnknown windowClass.fields m :=
    List.forall_mem_singleton.2 ⟨"compiler", .integer 7, rfl, trivial, by decide⟩
  have hform : windowClass.Form windowForm :=
    .object (.given rfl (.dropped rfl (.dropped rfl (.given hsections .nil)))) hunknown
      (@List.perm_append_comm _ [_, _] [_])
  exact ⟨hform, by decide +kernel, ((ofText?_form windowClass).2.2 windowForm hform).1⟩

end Compound

end FrameworkBindings.Document
