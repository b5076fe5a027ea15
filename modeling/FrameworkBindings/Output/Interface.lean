import FrameworkBindings.Output.Crossing
import FrameworkBindings.Output.Literal

/-!
# Interfaces of protocols

A protocol becomes a Go interface, a struct that forwards each message to a value of the interface,
and the registration of that struct with the runtime.  The three have the same methods in the same
order: those that `accept` takes.

* `accept` — a method of a protocol with its verdict and, if it is taken, how it crosses.
* `interfaceLines`, `forwarder`, `registration` — one method in each of the three.
* `bind` — the whole protocol.

**One list for all three.**  Go refuses a file in which a forwarder calls a method that is not in
the interface, and the runtime would send a message to what is not registered.  So it is decided
once which methods are taken, and the three parts are maps over that list; none of them can leave
out a method or add one.

**The other way round.**  Here the runtime calls and Go answers: arguments come in and have to be
made into Go values, and the result goes out.  The names of arguments and results are the same as in
a wrapper, and the casts are the opposite ones.
-/

namespace FrameworkBindings.Output

/-- A method that is taken, and how it crosses. -/
structure Accepted where
  method : Routine
  crossing : Crossing

/-- A method of a protocol, if it can be implemented by a Go value: one of its objects, whose
arguments get across. -/
def accept (store : Store) (f : Routine) : Except Refusal Accepted :=
  if f.isStatic then
    .error ⟨.unsupported, "class methods cannot be implemented by a Go value"⟩
  else (f.prototype.cross store .callback).map fun crossing => ⟨f, crossing⟩

/-- What becomes of a method of a protocol.  Its text is not here but in the three parts. -/
def handle (store : Store) (f : Routine) : Handled :=
  match accept store f with
  | .error refusal => .refuse f.name refusal
  | .ok a => ⟨f.name, a.crossing.result.verdict, ""⟩

/-- The methods that are taken, in the order of the documentation. -/
def acceptedMethods (store : Store) (methods : List Routine) : List Accepted :=
  methods.filterMap fun f => (accept store f).toOption

namespace Accepted

/-- The Go name of the method, which is the same in all three parts of the protocol. -/
def goName (a : Accepted) : String := Identifier.protocolMethodName a.method.name

end Accepted

/-- The lines of a method in the interface; a remark on the result is a line or a comment of its
own. -/
def interfaceLines (a : Accepted) : List String :=
  let declared := "\t" ++ a.goName ++ "(" ++ a.crossing.parameters ++ ")"
  match a.crossing.result with
  | .void => [declared]
  | .typed goType _ => [declared ++ " " ++ goType]
  | .untyped goType => [declared ++ " /* TODO: " ++ goType ++ " */"]
  | .unspelled text => ["\t// FIXME: return " ++ text, declared]

/-- The interface, with the methods in the order of the protocol and one to be told its object. -/
def interfaceText (head : Declaration) (name : String) (accepted : List Accepted) : String :=
  unlines (
    ["", comment head, "type " ++ name ++ " interface \x7b", "\tobjc.Object",
      "\tSetObjcRef(v objc.Object)"]
    ++ (if accepted.isEmpty then [] else [""])
    ++ accepted.flatMap interfaceLines
    ++ ["\x7d"])

/-- The struct that forwards to a value of the interface. -/
def forwarderType (head : Declaration) (name : String) : String :=
  unlines [
    "",
    "type go" ++ name ++ " struct \x7b",
    "\tobjc.Object `objc:\"go" ++ name ++ " : " ++ head.name ++ "\"`",
    "\tv " ++ name,
    "\x7d"]

/-- The type that a forwarder returns: a value that had to be converted is a plain object, and
another one goes out as it is. -/
def forwardedType (goType sent returned : String) : String :=
  if returned = sent then goType else "objc.Object"

/-- A method of the struct that forwards: it takes plain objects, hands them on as Go values, and
sends back what it gets. -/
def forwarder (store : Store) (name : String) (a : Accepted) : String :=
  let parameters :=
    ", ".intercalate (a.crossing.arguments.map fun arg => arg.name ++ " objc.Object")
  let sent :=
    "o.v." ++ a.goName ++ "(" ++ ", ".intercalate (a.crossing.arguments.map (·.passed)) ++ ")"
  let declared := "func (o go" ++ name ++ ") " ++ a.goName ++ "(" ++ parameters ++ ")"
  match a.crossing.result with
  | .typed goType type =>
    let returned := (type.toNative store sent).getD sent
    unlines [
      "",
      declared ++ " " ++ forwardedType goType sent returned ++ " \x7b",
      "\treturn " ++ returned,
      "\x7d"]
  | _ => unlines ["", declared ++ " \x7b", "\t" ++ sent, "\x7d"]

/-- The line that registers a method: its selector, and the method that forwards. -/
def registration (name : String) (a : Accepted) : String :=
  "\tc.AddMethod(" ++ goLiteral a.method.name ++ ", go" ++ name ++ "." ++ a.goName ++ ")"

/-- The registration of the struct with the runtime, when the package is loaded. -/
def registrationText (name : String) (accepted : List Accepted) : String :=
  unlines (
    ["", "func init() \x7b", "\tc := objc.NewClass(go" ++ name ++ "\x7b\x7d)"]
    ++ accepted.map (registration name)
    ++ ["\tobjc.RegisterClass(c)", "\x7d"])

/-- The output for a protocol; without a name there is nothing to call the interface by. -/
def bind (store : Store) (d : ProtocolDef) : EntityOutput :=
  match d.head.hostName with
  | none => .nameless (.protocol d)
  | some name =>
    let accepted := acceptedMethods store d.methods
    .ofMembers (.protocol d)
      (interfaceText d.head name accepted
        ++ forwarderType d.head name
        ++ String.join (accepted.map (forwarder store name))
        ++ registrationText name accepted)
      (d.methods.map (handle store))

end FrameworkBindings.Output
