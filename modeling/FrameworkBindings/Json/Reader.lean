import FrameworkBindings.Json.Value

/-!
# Reading JSON

Strict JSON: no comments, no closing commas, no control characters inside strings, no leading zeros,
nothing after the value.  Reading goes in two passes, each a machine that takes one symbol at a
time:

* `Scan.step` cuts characters into tokens (`tokens`);
* `State.step` builds the value from tokens, with a stack of the containers that are still open.

`read` composes them.  Neither pass recurses into the value, so depth is no limit.

**Words.**  Numbers and the names of constants are collected up to the next character that cannot
belong to one, and only then looked at.  So there is one place where it is decided what a number is,
and `1.`, `01` and `truth` are refused there.

**Strings.**  A string is collected as a list of code units, since an escape may be half of a
character.  Halves are joined when the string ends; if one is left, the token is a string without a
text, which is refused only if somebody wants the text.

Both machines are folds over a list that may fail, so what is proved of one step is carried over to
a whole text by induction on the list.
-/

namespace FrameworkBindings.Json

/-- The pieces a JSON text is made of; a scalar is one piece. -/
inductive Token where
  | openArray
  | closeArray
  | openObject
  | closeObject
  | comma
  | colon
  | scalar (value : Scalar)
deriving DecidableEq

/-! ## Numbers and words -/

/-- The value of a run of decimal digits. -/
def digitsValue (digits : List Char) : Nat :=
  digits.foldl (fun total d => 10 * total + (d.toNat - '0'.toNat)) 0

/-- Whether `text` is one or more digits, whatever they begin with. -/
def isDigits (text : List Char) : Bool :=
  !text.isEmpty && text.all Char.isDigit

/-- Whether `text` is nothing or an exponent: `e`, an optional sign, digits. -/
def isExponent : List Char → Bool
  | [] => true
  | e :: text =>
    (e == 'e' || e == 'E') &&
      match text with
      | '+' :: digits => isDigits digits
      | '-' :: digits => isDigits digits
      | digits => isDigits digits

/-- Whether `text` may follow the whole part of a number that is no integer. -/
def isFractionOrExponent : List Char → Bool
  | '.' :: text =>
    isDigits (text.takeWhile Char.isDigit) && isExponent (text.dropWhile Char.isDigit)
  | text => isExponent text

/-- Reads a number without its sign, which is passed on for the sake of zero: `-0` is no whole
number. -/
def readUnsigned (negative : Bool) (text : List Char) : Option Scalar :=
  let whole := text.takeWhile Char.isDigit
  let rest := text.dropWhile Char.isDigit
  let sign := if negative then "-" else ""
  if whole.isEmpty || (whole.head? == some '0' && whole.length != 1) then none
  else if !rest.isEmpty then
    if isFractionOrExponent rest then some (.decimal (sign ++ String.ofList text)) else none
  else if negative then
    if digitsValue whole = 0 then some (.decimal "-0")
    else some (.integer (-(digitsValue whole : Nat)))
  else some (.integer (digitsValue whole))

/-- Reads a word outside strings: a name of a constant or a number, and nothing else. -/
def readWord (word : List Char) : Option Scalar :=
  if word = "null".toList then some .null
  else if word = "true".toList then some (.bool true)
  else if word = "false".toList then some (.bool false)
  else
    match word with
    | '-' :: text => readUnsigned true text
    | text => readUnsigned false text

/-! ## Strings -/

/-- Whether `unit` opens a surrogate pair. -/
def isHighSurrogate (unit : Nat) : Bool := 0xD800 ≤ unit && unit < 0xDC00

/-- Whether `unit` closes a surrogate pair. -/
def isLowSurrogate (unit : Nat) : Bool := 0xDC00 ≤ unit && unit < 0xE000

/-- Joins the surrogate pairs among `units`; there must be no half of a pair, or there is no
text. -/
def joinUnits : List Nat → Option (List Char)
  | [] => some []
  | [unit] =>
    if isHighSurrogate unit || isLowSurrogate unit then none else some [Char.ofNat unit]
  | unit :: next :: rest =>
    if isHighSurrogate unit then
      if isLowSurrogate next then
        (joinUnits rest).map
          (Char.ofNat (0x10000 + 0x400 * (unit - 0xD800) + (next - 0xDC00)) :: ·)
      else none
    else if isLowSurrogate unit then none
    else (joinUnits (next :: rest)).map (Char.ofNat unit :: ·)

/-- The character a short escape stands for; the slash may be escaped and need not. -/
def shortEscape (c : Char) : Option Char :=
  [('"', '"'), ('\\', '\\'), ('/', '/'), ('b', '\x08'), ('f', '\x0c'), ('n', '\n'), ('r', '\r'),
    ('t', '\t')].lookup c

/-- The value of a hexadecimal digit. -/
def hexDigit? (c : Char) : Option Nat :=
  if c.isDigit then some (c.toNat - '0'.toNat)
  else if 'a' ≤ c && c ≤ 'f' then some (c.toNat - 'a'.toNat + 10)
  else if 'A' ≤ c && c ≤ 'F' then some (c.toNat - 'A'.toNat + 10)
  else none

/-! ## From characters to tokens -/

/-- The blanks allowed between tokens; no other white space is one to this format. -/
def isSpace (c : Char) : Bool :=
  c == ' ' || c == '\n' || c == '\t' || c == '\r'

/-- The token a punctuation character is, none for characters that belong to words. -/
def punctuation? (c : Char) : Option Token :=
  [('[', Token.openArray), (']', .closeArray), ('\x7b', .openObject), ('\x7d', .closeObject),
    (',', .comma), (':', .colon)].lookup c

/-- Where the first pass stands; what is being collected is kept in reverse. -/
inductive Scan where
  | between
  | word (collected : List Char)
  | string (units : List Nat)
  | escape (units : List Nat)
  /-- After `\u`, with the value of the digits so far and how many are missing. -/
  | code (units : List Nat) (value missing : Nat)

namespace Scan

/-- What stands between tokens when `c` comes; the tokens before it are in reverse. -/
def start (c : Char) (done : List Token) : Scan × List Token :=
  if isSpace c then (between, done)
  else if c == '"' then (string [], done)
  else
    match punctuation? c with
    | some token => (between, token :: done)
    | none => (word [c], done)

/-- Takes one more character; nothing if it cannot stand here. -/
def step : Scan × List Token → Char → Option (Scan × List Token)
  | (between, done), c => some (start c done)
  | (word collected, done), c =>
    if isSpace c || c == '"' || (punctuation? c).isSome then
      (readWord collected.reverse).map fun value => start c (.scalar value :: done)
    else some (word (c :: collected), done)
  | (string units, done), c =>
    if c == '"' then
      some (between, .scalar (.string ((joinUnits units.reverse).map String.ofList)) :: done)
    else if c == '\\' then some (escape units, done)
    else if c.toNat < 0x20 then none
    else some (string (c.toNat :: units), done)
  | (escape units, done), c =>
    if c == 'u' then some (code units 0 4, done)
    else (shortEscape c).map fun meant => (string (meant.toNat :: units), done)
  | (code units value missing, done), c =>
    (hexDigit? c).map fun digit =>
      let value := 16 * value + digit
      if missing ≤ 1 then (string (value :: units), done)
      else (code units value (missing - 1), done)

/-- The tokens, once the text has ended, which must not be inside a string. -/
def finish : Scan × List Token → Option (List Token)
  | (between, done) => some done.reverse
  | (word collected, done) =>
    (readWord collected.reverse).map fun value => (.scalar value :: done).reverse
  | _ => none

end Scan

/-- The tokens of a text, none if some part of it is no token. -/
def tokens (text : List Char) : Option (List Token) :=
  (text.foldlM Scan.step (.between, [])).bind Scan.finish

/-! ## From tokens to a value -/

/-- A container that is still open, with what it holds so far in reverse. -/
inductive Frame where
  | array (items : List Value)
  | object (members : List (Literal × Value)) (key : Literal)

/-- What the second pass waits for. -/
inductive State where
  /-- A value; or the end of an array that has just been opened, if `opened`. -/
  | value (opened : Bool) (frames : List Frame)
  /-- A key; or the end of an object that has just been opened, if `opened`. -/
  | key (opened : Bool) (members : List (Literal × Value)) (frames : List Frame)
  | colon (key : Literal) (members : List (Literal × Value)) (frames : List Frame)
  /-- A comma or the end of the innermost array. -/
  | afterItem (items : List Value) (frames : List Frame)
  /-- A comma or the end of the innermost object. -/
  | afterMember (members : List (Literal × Value)) (frames : List Frame)
  | done (value : Value)

namespace State

/-- Gives a finished value to the innermost open container; without one it is the value of the
text. -/
def deliver (v : Value) : List Frame → State
  | [] => done v
  | .array items :: frames => afterItem (v :: items) frames
  | .object members k :: frames => afterMember ((k, v) :: members) frames

/-- Takes one more token; nothing if another was expected here. -/
def step : State → Token → Option State
  | value _ frames, .scalar s => some (deliver (.scalar s) frames)
  | value _ frames, .openArray => some (value true (.array [] :: frames))
  | value _ frames, .openObject => some (key true [] frames)
  | value true (.array _ :: frames), .closeArray => some (deliver (.array []) frames)
  | key _ members frames, .scalar (.string k) => some (colon k members frames)
  | key true _ frames, .closeObject => some (deliver (.object []) frames)
  | colon k members frames, .colon => some (value false (.object members k :: frames))
  | afterItem items frames, .comma => some (value false (.array items :: frames))
  | afterItem items frames, .closeArray => some (deliver (.array items.reverse) frames)
  | afterMember members frames, .comma => some (key false members frames)
  | afterMember members frames, .closeObject => some (deliver (.object members.reverse) frames)
  | _, _ => none

/-- The value, once the tokens have ended. -/
def finish : State → Option Value
  | done v => some v
  | _ => none

end State

/-- The value that the tokens spell, all of them together. -/
def assemble (ts : List Token) : Option Value :=
  (ts.foldlM State.step (.value false [])).bind State.finish

/-- The value that a text spells, if it is JSON from beginning to end. -/
def read (text : String) : Option Value :=
  (tokens text.toList).bind assemble

end FrameworkBindings.Json
