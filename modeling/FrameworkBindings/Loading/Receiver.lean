import FrameworkBindings.Text.Affix
import FrameworkBindings.Text.Blank

/-!
# Names inside definitions

What a loader takes out of the texts of the documentation besides types: the entity a method belongs
to, the name of a protocol, the size in an array suffix.

* `receiverName` — `NSAlert` in `(NSModalResponse) NSAlert::runModal`; nothing for a free function.
* `protocolName` — the name without the mark that the extractor puts behind names of protocols.
* `arraySize` — `16` in `[16]`.

A definition is a line of source that the extractor has put together, with the receiver in front of
`::`.  The result type stands before the receiver and may be of any length, but the receiver has no
blank in it, so the last word is enough.  A protocol is written with ` -p` behind its name there,
which would be the last word otherwise and is taken off first.
-/

namespace FrameworkBindings.Loading

open Text

/-- What the extractor puts behind the name of a protocol. -/
def protocolMark : List Char := " -p".toList

/-- The text without one closing mark of a protocol; a text without it stays as it is. -/
def withoutProtocolMark (text : List Char) : List Char :=
  (stripTrailing protocolMark text).getD text

/-- The last word of a text, empty if it ends in a blank. -/
def lastWord (text : List Char) : List Char :=
  (text.reverse.takeWhile (! isBlank ·)).reverse

/-- The receiver in a definition: the last word before the first `::`, the mark of a protocol
apart. -/
def receiver (definition : List Char) : List Char :=
  match splitOnce [':', ':'] definition with
  | none => []
  | some (qualifier, _) => lastWord (withoutProtocolMark (trimEnd qualifier))

/-- The name of the entity that a defined function belongs to, empty for a free function.  It is
looked up by name later, as there is no reference id in the definition. -/
def receiverName (definition : String) : String :=
  String.ofList (receiver definition.toList)

/-- The name of a protocol, from its name in the index. -/
def protocolName (name : String) : String :=
  String.ofList (withoutProtocolMark name.toList)

/-- The size in an array suffix: what is between the outermost brackets, blanks apart.  Of several
dimensions the brackets in the middle stay. -/
def arraySize (suffix : String) : String :=
  let opened := (trim suffix.toList).dropWhile (· == '[')
  let closed := (opened.reverse.dropWhile (· == ']')).reverse
  String.ofList (trim closed)

end FrameworkBindings.Loading
