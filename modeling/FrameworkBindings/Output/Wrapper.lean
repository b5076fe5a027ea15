import FrameworkBindings.Output.Crossing
import FrameworkBindings.Output.Literal

/-!
# Wrappers of classes

A class becomes a Go struct around an object of the bridge, with two constructors, a setter for each
property that can be written, and a method or function for each of its methods.

* `setter`, `method` — one member with its verdict and its text.
* `wrap` — the whole class.

**Members.**  Each member is judged by itself: its types decide, and not what else is in the class.
The verdict and the text are made together, so that the report cannot say of a member what the file
does not show.  A member that is refused has the empty text, and the text of the class is that of
all its members put together.

**Results.**  A result that has a Go name and no cast is left as a comment, and so is one that has
not even a name; the message is sent either way, and whoever calls the method gets nothing back.
Only an argument that does not get across keeps a method from being written.
-/

namespace FrameworkBindings.Output

/-- The type of a wrapper and its constructors: one for a new object, one around an object there
is. -/
def wrapperText (head : Declaration) (name : String) : String :=
  unlines [
    "",
    comment head,
    "type " ++ name ++ " struct \x7b",
    "\tobjc.Object",
    "\x7d",
    "",
    "func New" ++ name ++ "() " ++ name ++ " \x7b",
    "\treturn As" ++ name ++ "(objc.GetClass(" ++ goLiteral head.name
      ++ ").SendMsg(\"alloc\").SendMsg(\"init\"))",
    "\x7d",
    "",
    "func As" ++ name ++ "(v objc.Object) " ++ name ++ " \x7b",
    "\treturn " ++ name ++ "\x7bv\x7d",
    "\x7d"]

/-- The text of a setter, which sends one message. -/
def setterText (receiver property selector goType passed : String) : String :=
  unlines [
    "",
    "func (o " ++ receiver ++ ") Set" ++ Identifier.exported property ++ "(v " ++ goType
      ++ ") \x7b",
    "\to.SendMsg(" ++ goLiteral selector ++ ", " ++ passed ++ ")",
    "\x7d"]

/-- The setter of a property, on the wrapper called `receiver`.  It is refused if the type has no
complete name or no cast to the native side. -/
def setter (store : Store) (receiver : String) (property : Property) : Handled :=
  let selector := Identifier.setterSelector property.name
  let spelling := property.type.spelling store
  if spelling.complete then
    match property.type.toNative store "v" with
    | some passed =>
      ⟨selector, .written, setterText receiver property.name selector spelling.text passed⟩
    | none =>
      .refuse selector
        ⟨.missingCast, "property type " ++ spelling.text ++ " has no bridge cast"⟩
  else
    .refuse selector
      ⟨.unrepresentableType, "property type has no Go spelling: " ++ spelling.text⟩

/-- What a method is declared as, up to its parameters.  Class methods become functions of the
package. -/
def methodHead (receiver : String) (f : Routine) : String :=
  if f.isStatic then "func " ++ receiver ++ Identifier.methodName f.name
  else "func (o " ++ receiver ++ ") " ++ Identifier.methodName f.name

/-- What a message is sent to: the class for a class method, the object for any other. -/
def messageTarget (className : String) (f : Routine) : String :=
  if f.isStatic then "objc.GetClass(" ++ goLiteral className ++ ")" else "o"

/-- The message that a method sends, with its arguments as they get across. -/
def messageSend (className : String) (f : Routine) (arguments : List Argument) : String :=
  messageTarget className f ++ ".SendMsg(" ++ goLiteral f.name
    ++ String.join (arguments.map fun a => ", " ++ a.passed) ++ ")"

/-- The lines of a method from the parameters on, without the last.  They differ with what is known
of the result. -/
def methodLines (store : Store) (declared sent : String) : Result → List String
  | .void => [declared ++ " \x7b", "\t" ++ sent]
  | .typed goType type =>
    [declared ++ " " ++ goType ++ " \x7b",
      "\t" ++ (type.toHost store sent).elim sent ("return " ++ ·)]
  | .untyped goType => [declared ++ " /* TODO: " ++ goType ++ " */ \x7b", "\t" ++ sent]
  | .unspelled text => [declared ++ " \x7b", "\t" ++ sent, "\t// FIXME: return " ++ text]

/-- The text of a method: what it is declared as, the message it sends, and what becomes of the
result. -/
def methodText (store : Store) (receiver className : String) (f : Routine) (crossing : Crossing) :
    String :=
  let declared := methodHead receiver f ++ "(" ++ crossing.parameters ++ ")"
  let sent := messageSend className f crossing.arguments
  unlines ([""] ++ methodLines store declared sent crossing.result ++ ["\x7d"])

/-- A method of the class `className`, on the wrapper called `receiver`.  It is refused just if one
of its arguments does not get across. -/
def method (store : Store) (receiver className : String) (f : Routine) : Handled :=
  match f.prototype.cross store .call with
  | .error refusal => .refuse f.name refusal
  | .ok crossing =>
    ⟨f.name, crossing.result.verdict, methodText store receiver className f crossing⟩

/-- The members of a class that can be in the output: setters, then methods, each in the order of
the documentation. -/
def classMembers (store : Store) (receiver : String) (d : RecordDef) : List Handled :=
  (d.properties.filter (·.writable)).map (setter store receiver)
    ++ d.methods.map (method store receiver d.head.name)

/-- The output for a class; without a name there is nothing to call the wrapper by. -/
def wrap (store : Store) (d : RecordDef) : EntityOutput :=
  match d.head.hostName with
  | none => .nameless (.record d)
  | some name =>
    let members := classMembers store name d
    .ofMembers (.record d) (wrapperText d.head name ++ String.join (members.map (·.text))) members

end FrameworkBindings.Output
