import FrameworkBindings.Journal
import FrameworkBindings.Store

/-!
# Sessions

A store together with the journal of how it was filled.  The operations here do to the store what
those of `Store` do, and note what is worth telling: a reference to something not yet defined, and a
method that is declared twice.

* `Session.intern`, `Session.define`, `Session.attach`, each with a lemma that says what it does to
  the store (`store_intern`, `store_say`).

The journal is never read by what fills the store, so every fact about stores carries over: a proof
takes the store out of the session by these lemmas and does not mention events again.  They are
tagged for simplification for that purpose.
-/

namespace FrameworkBindings

/-- A store and the journal of what happened to it, which grow together. -/
structure Session where
  store : Store := {}
  journal : Journal := #[]

namespace Session

/-- Notes an event behind those that are there. -/
def say (session : Session) (level : Level) (message : String) : Session :=
  { session with journal := session.journal.push ⟨level, message⟩ }

/-- Notes several events of one level, in order. -/
def sayAll (session : Session) (level : Level) (messages : List String) : Session :=
  messages.foldl (·.say level ·) session

/-- Notes that a reference id got a slot before its definition, and which one.  Only the first
mention is noted. -/
def noteReference (session : Session) (refid : String) : Session :=
  match session.store.lookup refid with
  | some _ => session
  | none =>
    session.say .trace
      ("forward reference " ++ refid ++ " -> " ++ EntityId.label ⟨session.store.size⟩)

/-- The slot of a reference id; a new one, if it is mentioned for the first time. -/
def intern (session : Session) (refid : String) : EntityId × Session :=
  let (id, store) := session.store.intern refid
  (id, { session.noteReference refid with store })

/-- Fills the slot of an entity, which must not have been defined before. -/
def define (session : Session) (entity : Entity) : Except StoreError EntityId × Session :=
  match session.store.define entity with
  | .ok (id, store) => (.ok id, { session.noteReference entity.refid with store })
  | .error e => (.error e, session)

/-- Notes a method that was not added because one of its name was there. -/
def noteAttachment (session : Session) (owner method : String) : Attachment → Session
  | .duplicate =>
    session.say .warn
      ("redeclaration of " ++ Text.quoted owner ++ "." ++ Text.quoted method
        ++ ", keeping the first")
  | _ => session

/-- Offers a method to the entity in a slot, and tells what became of it.  What is refused leaves no
event here; the loader counts it. -/
def attach (session : Session) (id : EntityId) (method : Routine) : Attachment × Session :=
  match session.store.entity? id with
  | none => (.refused, session)
  | some entity =>
    let outcome := (entity.attach method).2
    let session := session.noteAttachment entity.name method.name outcome
    (outcome, { session with store := session.store.attach id method })

/-! ## What happens to the store -/

@[simp]
theorem store_say (session : Session) (level : Level) (message : String) :
    (session.say level message).store = session.store := rfl

@[simp]
theorem store_sayAll (session : Session) (level : Level) (messages : List String) :
    (session.sayAll level messages).store = session.store := by
  induction messages generalizing session with
  | nil => rfl
  | cons m messages ih => exact ih (session.say level m)

@[simp]
theorem store_intern (session : Session) (refid : String) :
    (session.intern refid).2.store = (session.store.intern refid).2 := rfl

@[simp]
theorem id_intern (session : Session) (refid : String) :
    (session.intern refid).1 = (session.store.intern refid).1 := rfl

end Session

end FrameworkBindings
