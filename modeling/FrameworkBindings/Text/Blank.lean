import FrameworkBindings.Text.Ranges

/-!
# White space

Which characters separate words, and the operations that depend on it.

* `isBlank` — the white space of every script (`U+00A0` and `U+3000` are, `U+200B` is not).
* `trimStart`, `trimEnd`, `trim` — text without the blanks at its ends.
* `words` — the maximal blank-free pieces; `squeeze` joins them by single spaces.

`words` recurses on the text and not on its words, from the end to the beginning: a character that
is no blank is put in front of the first word of what follows, if that word begins at once (`glue`).
So there is no word that is being collected and nothing to carry along, and proofs go by induction
on the text.
-/

namespace FrameworkBindings.Text

/-- The white space characters. -/
def blankRanges : Ranges := [
  (0x9, 0xD), (0x20, 0x20), (0x85, 0x85), (0xA0, 0xA0), (0x1680, 0x1680), (0x2000, 0x200A),
  (0x2028, 0x2029), (0x202F, 0x202F), (0x205F, 0x205F), (0x3000, 0x3000)]

/-- Whether `c` is white space, to every part of the reader that trims or splits. -/
def isBlank (c : Char) : Bool :=
  blankRanges.contains c.toNat

/-- Text without its leading blanks; blanks inside and behind stay. -/
def trimStart (text : List Char) : List Char :=
  text.dropWhile isBlank

/-- Text without its trailing blanks, found from the end. -/
def trimEnd (text : List Char) : List Char :=
  (text.reverse.dropWhile isBlank).reverse

/-- Text without the blanks at both ends. -/
def trim (text : List Char) : List Char :=
  trimEnd (trimStart text)

/-- Puts `c` in front of the first word if it goes on at once, else starts a word with it. -/
def glue (c : Char) (rest : List Char) (tail : List (List Char)) : List (List Char) :=
  match rest, tail with
  | d :: _, word :: more => if isBlank d then [c] :: word :: more else (c :: word) :: more
  | _, _ => [c] :: tail

/-- The maximal pieces of `text` that hold no blank, in order; none of them is empty. -/
def words : List Char → List (List Char)
  | [] => []
  | c :: rest => if isBlank c then words rest else glue c rest (words rest)

/-- The words of `text` with single spaces between them, so that texts which differ in their blanks
only become the same. -/
def squeeze (text : List Char) : List Char :=
  [' '].intercalate (words text)

/-! ## Trimming shortens -/

theorem length_trimStart_le (text : List Char) : (trimStart text).length ≤ text.length :=
  (List.dropWhile_sublist _).length_le

theorem length_trimEnd_le (text : List Char) : (trimEnd text).length ≤ text.length := by
  simpa [trimEnd] using (List.dropWhile_sublist (l := text.reverse) isBlank).length_le

theorem length_trim_le (text : List Char) : (trim text).length ≤ text.length :=
  Nat.le_trans (length_trimEnd_le _) (length_trimStart_le _)

end FrameworkBindings.Text
