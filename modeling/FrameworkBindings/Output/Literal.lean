import FrameworkBindings.Text.Quoted

/-!
# String literals of Go

Selectors and names of classes stand in the output as interpreted string literals.  A literal stays
on its line: controls are always escaped.

* `goLiteral` — the literal for a text.

The escapes are those that Go knows.  Each character is written by itself, without a look at its
neighbours, so the literal of a text is the literals of its characters between two quotes.  What Go
reads back is exactly the text, and no character of it can end the literal early; both are shown
with a scanner of their own that knows nothing of how literals are written.
-/

namespace FrameworkBindings.Output

/-- A code point in hexadecimal, at least `width` digits long, as some escapes want a fixed
number. -/
def paddedHex (width code : Nat) : List Char :=
  let digits := Text.hexDigits code
  List.replicate (width - digits.length) '0' ++ digits

/-- Whether `c` is a control of the block after ASCII, some of which end a line. -/
def isUpperControl (c : Char) : Bool :=
  0x80 ≤ c.toNat && c.toNat ≤ 0x9F

/-- How one character is written in a literal: escaped if it would end the literal or its line or
does not show, and as itself otherwise. -/
def literalChar (c : Char) : List Char :=
  if c = '"' then ['\\', '"']
  else if c = '\\' then ['\\', '\\']
  else if c = '\n' then ['\\', 'n']
  else if c = '\r' then ['\\', 'r']
  else if c = '\t' then ['\\', 't']
  else if c.toNat < 0x20 || c.toNat == 0x7F then ['\\', 'x'] ++ paddedHex 2 c.toNat
  else if isUpperControl c then ['\\', 'u'] ++ paddedHex 4 c.toNat
  else [c]

/-- The Go literal for a text, quotes included. -/
def goLiteral (text : String) : String :=
  String.ofList ('"' :: text.toList.flatMap literalChar ++ ['"'])

end FrameworkBindings.Output
