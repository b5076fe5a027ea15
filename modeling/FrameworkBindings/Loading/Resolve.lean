import FrameworkBindings.Document.Basic
import FrameworkBindings.Session
import FrameworkBindings.Signature.Parse

/-!
# Types of documented members

A type in the documentation is a text with references.  A single reference is the type itself,
whatever the text says; without references the text is a signature; several references are not
understood.

* `Session.resolve` — the type of a text, with a suffix that belongs to it.
* `Session.resolveMember` — the type of a field or a property with the array suffix behind its name.

**References.**  The extractor links a text to an entity if it knows one by that name.  The entity
need not have been loaded, so its reference id gets a slot and the type is that slot.  A text with
several references is a composed type that the signature reader would take apart by names alone; it
is kept as it was written, with the reference ids in the comment.
-/

namespace FrameworkBindings

open Document

/-- Reference ids as they are shown in messages. -/
def quotedList (texts : List String) : String :=
  "[" ++ ", ".intercalate (texts.map Text.quoted) ++ "]"

namespace Session

/-- Reads a signature and notes what was not understood, one event for each piece. -/
def readSignature (session : Session) (text : String) : Signature.Reading × Session :=
  (Signature.ofText text,
    session.sayAll .trace
      ((Signature.unrecognized text.toList).map fun piece =>
        "unrecognized signature " ++ Text.quoted piece))

/-- The type that a text with references means; `suffix` stands behind the text and counts only
where the text is a signature. -/
def resolve (session : Session) (type : Option LinkedText) (suffix : String) :
    Signature.Reading × Session :=
  match type with
  | none => (.ok (some (.unread "")), session)
  | some linked =>
    match linked.refs with
    | [] => session.readSignature (linked.text ++ " " ++ suffix)
    | [reference] =>
      let (id, session) := session.intern reference.refid
      (.ok (some (.entity id)), session)
    | references =>
      (.ok (some (.unknown linked.text "ref type")),
        session.say .warn
          ("mixed reference tokens in " ++ Text.quoted linked.text ++ ": "
            ++ quotedList (references.map (·.refid))))

/-- The type of a member that is a field or a property. -/
def resolveMember (session : Session) (member : Member) : Signature.Reading × Session :=
  session.resolve member.type member.argsstring

end Session

end FrameworkBindings
