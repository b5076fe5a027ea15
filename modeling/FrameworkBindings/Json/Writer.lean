import FrameworkBindings.Json.Value

/-!
# Writing JSON

* `write` — the shortest text, on one line.
* `writePretty` — one item a line, two spaces deeper in each container; empty containers stay
  closed.

Both keep the order of members.  Controls have short escapes or `\u` with four digits; all other
characters stand for themselves.

The recursion through containers is written out, with a function each for items and for members, and
each level gives back the texts of its parts before they are joined.  So a proof about a text can go
by induction on the value, and meets the commas and the margins in one place only.
-/

namespace FrameworkBindings.Json

/-- A code point below `0x10000` as four lower-case hexadecimal digits, zeros in front included. -/
def fourHexDigits (code : Nat) : List Char :=
  [code / 4096, code / 256 % 16, code / 16 % 16, code % 16].map Nat.digitChar

/-- How one character is written inside a string: only quotes, backslashes and controls are
changed. -/
def escaped (c : Char) : List Char :=
  if c = '"' then ['\\', '"']
  else if c = '\\' then ['\\', '\\']
  else if c = '\x08' then ['\\', 'b']
  else if c = '\x0c' then ['\\', 'f']
  else if c = '\n' then ['\\', 'n']
  else if c = '\r' then ['\\', 'r']
  else if c = '\t' then ['\\', 't']
  else if c.toNat < 0x20 then ['\\', 'u'] ++ fourHexDigits c.toNat
  else [c]

/-- A text as a JSON string. -/
def writeText (text : String) : String :=
  String.ofList ('"' :: text.toList.flatMap escaped ++ ['"'])

/-- A string literal; one that stands for no text is written as half of a surrogate pair. -/
def writeLiteral : Literal → String
  | some text => writeText text
  | none => "\"\\ud800\""

/-- A scalar. -/
def writeScalar : Scalar → String
  | .null => "null"
  | .bool value => if value then "true" else "false"
  | .integer value => toString value
  | .decimal text => text
  | .string literal => writeLiteral literal

mutual

/-- The shortest text of a value, without a blank between its parts. -/
def write : Value → String
  | .scalar value => writeScalar value
  | .array items => "[" ++ ",".intercalate (writeItems items) ++ "]"
  | .object members => "\x7b" ++ ",".intercalate (writeMembers members) ++ "\x7d"

/-- The texts of the items of an array. -/
def writeItems : List Value → List String
  | [] => []
  | item :: items => write item :: writeItems items

/-- The texts of the members of an object. -/
def writeMembers : List (Literal × Value) → List String
  | [] => []
  | (key, value) :: members => (writeLiteral key ++ ":" ++ write value) :: writeMembers members

end

/-- The parts of a container, one a line, between its brackets; `depth` is that of the container. -/
def writeBlock (left right : String) (depth : Nat) (parts : List String) : String :=
  let margin (n : Nat) := String.ofList (List.replicate (2 * n) ' ')
  if parts.isEmpty then left ++ right
  else
    left ++ "\n" ++ ",\n".intercalate (parts.map (margin (depth + 1) ++ ·)) ++ "\n" ++ margin depth
      ++ right

mutual

/-- The indented text of a value that stands `depth` containers deep. -/
def writePrettyAt (depth : Nat) : Value → String
  | .scalar value => writeScalar value
  | .array items => writeBlock "[" "]" depth (prettyItems (depth + 1) items)
  | .object members => writeBlock "\x7b" "\x7d" depth (prettyMembers (depth + 1) members)

/-- The indented texts of the items of an array. -/
def prettyItems (depth : Nat) : List Value → List String
  | [] => []
  | item :: items => writePrettyAt depth item :: prettyItems depth items

/-- The indented texts of the members of an object. -/
def prettyMembers (depth : Nat) : List (Literal × Value) → List String
  | [] => []
  | (key, value) :: members =>
    (writeLiteral key ++ ": " ++ writePrettyAt depth value) :: prettyMembers depth members

end

/-- The indented text of a value. -/
def writePretty (value : Value) : String :=
  writePrettyAt 0 value

end FrameworkBindings.Json
