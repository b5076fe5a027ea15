/-!
# TOML, as far as settings need it

A settings file is TOML in which every value is a text or a list of texts.  Tables, numbers, dates
and truth values are legal TOML but no setting has such a value, so they are refused here together
with what is no TOML at all.

## Groups

* `skipVoid` — blanks, line ends and comments.
* `readText` — the four sorts of strings.
* `readItems`, `readValue`, `readKey`, `readEntry` — the rest of an entry.
* `read` — the entries of a file, in order.

**Shape of the readers.**  A reader takes a text and gives what it has read with the rest, or
nothing.  Inside a string the recursion is on the text itself, one character or one escape at a
time.  Lists and entries call a reader that may leave any rest, so they are guarded by a test that
the rest is shorter, which it always is.

**What is not decided here.**  A key may come twice as far as these readers are concerned; the
settings refuse that, and keys and values that they do not know.
-/

namespace FrameworkBindings.Toml

/-- The value of a setting: a text or a list of texts. -/
inductive Value where
  | text (value : String)
  | texts (values : List String)
deriving DecidableEq

/-! ## Between entries -/

/-- Whether `c` may stand in a comment or a string: no control except the tab. -/
def isPrintable (c : Char) : Bool :=
  c == '\t' || (0x20 ≤ c.toNat && c.toNat != 0x7F)

/-- Text without leading blanks on its line; only spaces and tabs count as such. -/
def skipBlanks (text : List Char) : List Char :=
  text.dropWhile fun c => c == ' ' || c == '\t'

/-- The rest after the end of a line or of the text; nothing if there is more on the line. -/
def endOfLine : List Char → Option (List Char)
  | [] => some []
  | '\n' :: rest => some rest
  | '\r' :: '\n' :: rest => some rest
  | _ => none

/-- Text from the end of the line on, if a comment begins here. -/
def skipComment : List Char → List Char
  | '#' :: rest => rest.dropWhile isPrintable
  | text => text

mutual

/-- Text without leading blanks, line ends and comments.  A control inside a comment is an error. -/
def skipVoid : List Char → Option (List Char)
  | [] => some []
  | ' ' :: rest => skipVoid rest
  | '\t' :: rest => skipVoid rest
  | '\n' :: rest => skipVoid rest
  | '\r' :: '\n' :: rest => skipVoid rest
  | '#' :: rest => skipVoidComment rest
  | text => some text

/-- What is left behind the end of a comment, in which nothing else has a meaning. -/
def skipVoidComment : List Char → Option (List Char)
  | [] => some []
  | '\n' :: rest => skipVoid rest
  | '\r' :: '\n' :: rest => skipVoid rest
  | c :: rest => if isPrintable c then skipVoidComment rest else none

end

/-! ## Strings -/

/-- Puts a character in front of what has been read. -/
def prepend (c : Char) (read : Option (List Char × List Char)) : Option (List Char × List Char) :=
  read.map fun parts => (c :: parts.1, parts.2)

/-- The value of a hexadecimal digit. -/
def hexDigit? (c : Char) : Option Nat :=
  if c.isDigit then some (c.toNat - '0'.toNat)
  else if 'a' ≤ c && c ≤ 'f' then some (c.toNat - 'a'.toNat + 10)
  else if 'A' ≤ c && c ≤ 'F' then some (c.toNat - 'A'.toNat + 10)
  else none

/-- The character with a code point in hexadecimal, if there is one; surrogates are none. -/
def codeEscape (digits : List Char) : Option Char := do
  let values ← digits.mapM hexDigit?
  let code := values.foldl (fun total d => 16 * total + d) 0
  if code.isValidChar then some (Char.ofNat code) else none

/-- The character a short escape stands for. -/
def shortEscape (c : Char) : Option Char :=
  [('b', '\x08'), ('t', '\t'), ('n', '\n'), ('f', '\x0c'), ('r', '\r'), ('"', '"'),
    ('\\', '\\')].lookup c

/-- The rest of a string in double quotes on one line, with its escapes replaced by what they stand
for. -/
def basicText : List Char → Option (List Char × List Char)
  | '"' :: rest => some ([], rest)
  | '\\' :: 'u' :: a :: b :: c :: d :: rest =>
    (codeEscape [a, b, c, d]).bind fun meant => prepend meant (basicText rest)
  | '\\' :: 'U' :: a :: b :: c :: d :: e :: f :: g :: h :: rest =>
    (codeEscape [a, b, c, d, e, f, g, h]).bind fun meant => prepend meant (basicText rest)
  | '\\' :: c :: rest => (shortEscape c).bind fun meant => prepend meant (basicText rest)
  | c :: rest => if isPrintable c then prepend c (basicText rest) else none
  | [] => none

/-- The rest of a string in single quotes on one line, in which nothing is replaced. -/
def literalText : List Char → Option (List Char × List Char)
  | '\x27' :: rest => some ([], rest)
  | c :: rest => if isPrintable c then prepend c (literalText rest) else none
  | [] => none

/-- Whether a line ends here, blanks apart. -/
def onlyBlanksOnLine (text : List Char) : Bool :=
  match skipBlanks text with
  | '\n' :: _ => true
  | '\r' :: '\n' :: _ => true
  | _ => false

/-- The rest of a string in three double quotes.  While `joining`, blanks and line ends are left
out, as they are behind a backslash at the end of a line.  Up to two quotes may stand before the
last three. -/
def longBasicText (joining : Bool) : List Char → Option (List Char × List Char)
  | '"' :: '"' :: '"' :: '"' :: '"' :: rest => some (['"', '"'], rest)
  | '"' :: '"' :: '"' :: '"' :: rest => some (['"'], rest)
  | '"' :: '"' :: '"' :: rest => some ([], rest)
  | '\r' :: '\n' :: rest =>
    if joining then longBasicText true rest else prepend '\n' (longBasicText false rest)
  | '\\' :: 'u' :: a :: b :: c :: d :: rest =>
    (codeEscape [a, b, c, d]).bind fun meant => prepend meant (longBasicText false rest)
  | '\\' :: 'U' :: a :: b :: c :: d :: e :: f :: g :: h :: rest =>
    (codeEscape [a, b, c, d, e, f, g, h]).bind fun meant =>
      prepend meant (longBasicText false rest)
  | '\\' :: c :: rest =>
    match shortEscape c with
    | some meant => prepend meant (longBasicText false rest)
    | none => if onlyBlanksOnLine (c :: rest) then longBasicText true (c :: rest) else none
  | c :: rest =>
    if joining && (c == ' ' || c == '\t' || c == '\n') then longBasicText true rest
    else if c == '\n' || isPrintable c then prepend c (longBasicText false rest)
    else none
  | [] => none

/-- The rest of a string in three single quotes.  A line end in it is a line feed, whatever it
was. -/
def longLiteralText : List Char → Option (List Char × List Char)
  | '\x27' :: '\x27' :: '\x27' :: '\x27' :: '\x27' :: rest => some (['\x27', '\x27'], rest)
  | '\x27' :: '\x27' :: '\x27' :: '\x27' :: rest => some (['\x27'], rest)
  | '\x27' :: '\x27' :: '\x27' :: rest => some ([], rest)
  | '\r' :: '\n' :: rest => prepend '\n' (longLiteralText rest)
  | c :: rest =>
    if c == '\n' || isPrintable c then prepend c (longLiteralText rest) else none
  | [] => none

/-- The text without a line end at its beginning. -/
def dropLineEnd : List Char → List Char
  | '\n' :: rest => rest
  | '\r' :: '\n' :: rest => rest
  | text => text

/-- The characters of a string, and the rest of the text.  The quotes at its beginning tell the
sort. -/
def readChars : List Char → Option (List Char × List Char)
  | '"' :: '"' :: '"' :: rest => longBasicText false (dropLineEnd rest)
  | '"' :: rest => basicText rest
  | '\x27' :: '\x27' :: '\x27' :: rest => longLiteralText (dropLineEnd rest)
  | '\x27' :: rest => literalText rest
  | _ => none

/-- A string, and the rest of the text. -/
def readText (text : List Char) : Option (String × List Char) :=
  (readChars text).map fun parts => (String.ofList parts.1, parts.2)

/-! ## Entries -/

/-- The items of a list after its opening bracket, and the rest of the text.  They may be on several
lines, and a comma may stand behind the last. -/
def readItems (text : List Char) : Option (List String × List Char) := do
  let start ← skipVoid text
  if start.head? = some ']' then return ([], start.tail)
  let (item, rest) ← readText start
  match ← skipVoid rest with
  | ']' :: rest => return ([item], rest)
  | ',' :: rest =>
    if _h : rest.length < text.length then
      let (items, rest) ← readItems rest
      return (item :: items, rest)
    else none
  | _ => none
termination_by text.length

/-- A value, and the rest of the text. -/
def readValue (text : List Char) : Option (Value × List Char) :=
  match text with
  | '[' :: rest => (readItems rest).map fun parts => (.texts parts.1, parts.2)
  | _ => (readText text).map fun parts => (.text parts.1, parts.2)

/-- Whether `c` may stand in a key without quotes. -/
def isKeyChar (c : Char) : Bool :=
  c.isAlphanum || c == '-' || c == '_'

/-- A key, and the rest of the text: a bare word, or a string on one line. -/
def readKey (text : List Char) : Option (String × List Char) :=
  match text with
  | '"' :: rest => (basicText rest).map fun parts => (String.ofList parts.1, parts.2)
  | '\x27' :: rest => (literalText rest).map fun parts => (String.ofList parts.1, parts.2)
  | _ =>
    let key := text.takeWhile isKeyChar
    if key.isEmpty then none else some (String.ofList key, text.dropWhile isKeyChar)

/-- A line with a key and a value, and the rest of the text behind that line. -/
def readEntry (text : List Char) : Option ((String × Value) × List Char) := do
  let (key, rest) ← readKey text
  match skipBlanks rest with
  | '=' :: rest =>
    let (value, rest) ← readValue (skipBlanks rest)
    let rest ← endOfLine (skipComment (skipBlanks rest))
    return ((key, value), rest)
  | _ => none

/-- The entries from here on, each on lines of its own. -/
def readEntries (text : List Char) : Option (List (String × Value)) := do
  let start ← skipVoid text
  if start.isEmpty then return []
  let (entry, rest) ← readEntry start
  if _h : rest.length < text.length then
    let entries ← readEntries rest
    return entry :: entries
  else none
termination_by text.length

/-- The entries of a file, in order; a byte order mark at its beginning does not count. -/
def read (text : String) : Option (List (String × Value)) :=
  match text.toList with
  | '\uFEFF' :: rest => readEntries rest
  | chars => readEntries chars

end FrameworkBindings.Toml
