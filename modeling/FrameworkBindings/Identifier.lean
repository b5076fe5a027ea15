import FrameworkBindings.Text.Alphanumeric
import FrameworkBindings.Text.Affix
import FrameworkBindings.Text.Case

/-!
# Go identifiers

Names of the documented frameworks become Go identifiers: characters that cannot stand in one
become `_`, the first letter decides whether the name is exported, and a name that would be a
keyword of Go is changed.

## The conversions

* `sanitize` — any name, with `_` for what is no word character and in front of a leading digit.
* `exported`, `unexported` — the name as a member of a package or a type, and as a parameter.
* `methodName`, `protocolMethodName` — the method for a selector, on a class and on a protocol.
* `setterSelector` — the selector that sets a property.

**Order of the steps.**  A name is sanitized first, then the case of its first character is changed,
and keywords are looked for last, since a change of case may lead to one or away from one.  A case
map may turn one character into several, and not all of them need be word characters; nothing is
sanitized again after it.

**Two spellings of a selector.**  A selector with one argument ends in a colon.  On a class the
colon becomes `_`, so that `count` and `count:` stay apart; an interface drops it, which is how Go
programmers expect its methods to be called.
-/

namespace FrameworkBindings.Identifier

open Text

/-- The keywords of Go.  All begin with a letter that has an upper case, so no exported name is one
of them. -/
def keywords : List String := [
  "break", "case", "chan", "const", "continue", "default", "defer", "else", "fallthrough", "for",
  "func", "go", "goto", "if", "import", "interface", "map", "package", "range", "return", "select",
  "struct", "switch", "type", "var"]

/-- Keywords that read better shortened than with a mark behind them, as names of parameters. -/
def shortened : List (String × String) :=
  [("type", "typ"), ("select", "sel"), ("range", "rng")]

/-- A name that is no keyword: some keywords are shortened, the others get a trailing `_`. -/
def avoidKeyword (name : String) : String :=
  match shortened.lookup name with
  | some short => short
  | none => if keywords.contains name then name ++ "_" else name

/-- Puts `_` in front of a leading decimal digit, with which no identifier can begin. -/
def guardDigit : List Char → List Char
  | [] => []
  | c :: rest => if c.isDigit then '_' :: c :: rest else c :: rest

/-- The name with `_` for every character that is no word character, and not led by a digit.
Letters of other scripts are word characters and stay. -/
def sanitize (name : String) : String :=
  String.ofList (guardDigit (name.toList.map fun c => if isWordChar c then c else '_'))

/-- Changes the first character by a case map, which may give several characters for it. -/
def recase (map : Char → List Char) : List Char → List Char
  | [] => []
  | c :: rest => map c ++ rest

/-- The identifier for `name` whose first letter went through `map`; exported and unexported names
differ in the map only. -/
def recased (map : Char → List Char) (name : String) : String :=
  avoidKeyword (String.ofList (recase map (sanitize name).toList))

/-- The exported identifier for `name`, that is, one that begins with an upper case letter if it
can. -/
def exported (name : String) : String :=
  recased upper name

/-- The identifier for `name` as a parameter, which begins with a lower case letter if it can. -/
def unexported (name : String) : String :=
  recased lower name

/-- The method that sends `selector` to an object of a class. -/
def methodName (selector : String) : String :=
  exported selector

/-- The method of an interface that answers `selector`; one closing `:` is dropped. -/
def protocolMethodName (selector : String) : String :=
  match stripTrailing [':'] selector.toList with
  | some name => exported (String.ofList name)
  | none => exported selector

/-- The selector that sets `property`: as usual on the native side, `set`, the name with a capital
letter, and a colon for the argument. -/
def setterSelector (property : String) : String :=
  match property.toList with
  | [] => ""
  | c :: rest => "set" ++ String.ofList (upper c ++ rest) ++ ":"

end FrameworkBindings.Identifier
