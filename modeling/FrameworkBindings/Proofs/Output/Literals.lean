import Mathlib.Tactic.Lemma
import Mathlib.Tactic.SplitIfs
import FrameworkBindings.Json.Reader
import FrameworkBindings.Output.Literal

/-!
# What string literals denote

The literals of the output are read here as Go reads interpreted string literals, as far as the
escapes go that are written: those of quote, backslash and the common controls, a byte below `0x80`
as `\x` and a code point as `\u`.

* `literalValue?` — the text that a literal denotes.
* **`literalValue?_goLiteral`** — the literal for a text denotes it.
* `scanLiteral?` — the text that the literal in front of a text denotes, and what stands behind it.
  The literal ends with the first quote that is not escaped.
* **`goLiteral_delimited`** — a literal ends just where it was ended, whatever follows it.

**Reading is not the inverse of writing.**  The two readers are given by the rules of Go literals
and know nothing of how literals are written.  `splitAtQuote?` finds the end by looking at
backslashes and quotes only, as a scanner does, and the value is read from what it cut off.

**One character at a time.**  Everything goes back to what is written for one character: it denotes
the character whatever follows (`literalRest?_literalChar`), and the end of the literal is never
found within it (`splitAtQuote?_literalChar`).  For this a character is written as itself, or as a
backslash, a mark and digits, none of which is a quote or a control (`literalChar_cases`).

**No literal ends early.**  If a proper beginning of a literal were one, it would be read alike in
front of the rest (`scanLiteral?_extend`), and the rest would be left over.
-/

namespace FrameworkBindings.Output

/-- The value of hexadecimal digits, none if one of the characters is no digit. -/
def hexValue? (digits : List Char) : Option Nat :=
  digits.foldlM (fun value c => (Json.hexDigit? c).map fun digit => 16 * value + digit) 0

/-- What a literal denotes from some place behind its opening quote on.  The closing quote has to be
the last character. -/
def literalRest? : List Char → Option (List Char)
  | [] => none
  | ['"'] => some []
  | '\\' :: '"' :: rest => (literalRest? rest).map ('"' :: ·)
  | '\\' :: '\\' :: rest => (literalRest? rest).map ('\\' :: ·)
  | '\\' :: 'n' :: rest => (literalRest? rest).map ('\n' :: ·)
  | '\\' :: 'r' :: rest => (literalRest? rest).map ('\r' :: ·)
  | '\\' :: 't' :: rest => (literalRest? rest).map ('\t' :: ·)
  | '\\' :: 'x' :: a :: b :: rest =>
    (hexValue? [a, b]).bind fun byte =>
      if byte < 0x80 then (literalRest? rest).map (Char.ofNat byte :: ·) else none
  | '\\' :: 'u' :: a :: b :: c :: d :: rest =>
    (hexValue? [a, b, c, d]).bind fun code =>
      if code.isValidChar then (literalRest? rest).map (Char.ofNat code :: ·) else none
  | c :: rest =>
    if c = '"' ∨ c = '\\' ∨ c = '\n' then none else (literalRest? rest).map (c :: ·)

/-- The text that an interpreted string literal denotes, none if it is not one. -/
def literalValue? (literal : String) : Option String :=
  match literal.toList with
  | '"' :: rest => (literalRest? rest).map String.ofList
  | _ => none

/-- Two digits are enough for a byte below `0x80`, and four for the controls above. -/
lemma hexValue?_paddedHex :
    (∀ n < 0x80, hexValue? (paddedHex 2 n) = some n ∧ (paddedHex 2 n).length = 2) ∧
      ∀ n < 0xA0, hexValue? (paddedHex 4 n) = some n ∧ (paddedHex 4 n).length = 4 := by
  constructor <;> decide +kernel

lemma literalRest?_byte {byte : Nat} (h : byte < 0x80) (rest : List Char) :
    literalRest? (['\\', 'x'] ++ paddedHex 2 byte ++ rest) =
      (literalRest? rest).map (Char.ofNat byte :: ·) := by
  obtain ⟨hvalue, hlength⟩ := hexValue?_paddedHex.1 byte h
  match hdigits : paddedHex 2 byte, hlength with
  | [a, b], _ =>
    rw [hdigits] at hvalue
    simp [literalRest?, hvalue, h]

lemma literalRest?_code {code : Nat} (h : code < 0xA0) (rest : List Char) :
    literalRest? (['\\', 'u'] ++ paddedHex 4 code ++ rest) =
      (literalRest? rest).map (Char.ofNat code :: ·) := by
  obtain ⟨hvalue, hlength⟩ := hexValue?_paddedHex.2 code h
  have hvalid : code.isValidChar := .inl (by omega)
  match hdigits : paddedHex 4 code, hlength with
  | [a, b, c, d], _ =>
    rw [hdigits] at hvalue
    simp [literalRest?, hvalue, hvalid]

/-- What is written for a character denotes it, whatever follows.  By the ways in which a character
is written. -/
lemma literalRest?_literalChar (c : Char) (rest : List Char) :
    literalRest? (literalChar c ++ rest) = (literalRest? rest).map (c :: ·) := by
  unfold literalChar
  split_ifs with hquote hslash hline hreturn htab hlow hhigh
  · subst hquote; rfl
  · subst hslash; rfl
  · subst hline; rfl
  · subst hreturn; rfl
  · subst htab; rfl
  · have hbyte : c.toNat < 0x80 := by
      simp only [Bool.or_eq_true, decide_eq_true_eq, beq_iff_eq] at hlow
      omega
    rw [literalRest?_byte hbyte, Char.ofNat_toNat]
  · have hcode : c.toNat < 0xA0 := by
      simp only [isUpperControl, Bool.and_eq_true, decide_eq_true_eq] at hhigh
      omega
    rw [literalRest?_code hcode, Char.ofNat_toNat]
  · rw [List.singleton_append, literalRest?]
    · simp [hquote, hslash, hline]
    all_goals simp_all

/-- What is written for a text denotes the text, read character by character. -/
lemma literalRest?_append (text : List Char) :
    literalRest? (text.flatMap literalChar ++ ['"']) = some text := by
  induction text with
  | nil => rfl
  | cons c text ih =>
      rw [List.flatMap_cons, List.append_assoc, literalRest?_literalChar, ih, Option.map_some]

/-- **The literal for a text denotes the text**, by the rules of Go literals. -/
lemma literalValue?_goLiteral (text : String) : literalValue? (goLiteral text) = some text := by
  rw [literalValue?, goLiteral, String.toList_ofList]
  simp [literalRest?_append]

/-! ## Where a literal ends -/

/-- Cuts a text behind the first quote that does not stand behind a backslash. -/
def splitAtQuote? : List Char → Option (List Char × List Char)
  | [] => none
  | '"' :: rest => some (['"'], rest)
  | '\\' :: c :: rest => (splitAtQuote? rest).map fun cut => ('\\' :: c :: cut.1, cut.2)
  | c :: rest => (splitAtQuote? rest).map fun cut => (c :: cut.1, cut.2)

/-- The text that the literal in front denotes, and what stands behind the literal. -/
def scanLiteral? (text : String) : Option (String × String) :=
  match text.toList with
  | '"' :: rest =>
    (splitAtQuote? rest).bind fun cut =>
      (literalValue? (String.ofList ('"' :: cut.1))).map fun value => (value, String.ofList cut.2)
  | _ => none

/-- The control characters, those of ASCII and those of the block after it. -/
def isControl (c : Char) : Bool :=
  c.toNat < 0x20 || (0x7F ≤ c.toNat && c.toNat ≤ 0x9F)

/-- Whether a character stands for itself in a literal: it is no quote, no backslash and no
control. -/
def isPlain (c : Char) : Bool :=
  c != '"' && c != '\\' && !isControl c

/-- Digits stand for themselves, so an escape ends where its digits do. -/
lemma isPlain_paddedHex :
    (∀ n < 0x80, (paddedHex 2 n).all isPlain = true) ∧
      ∀ n < 0xA0, (paddedHex 4 n).all isPlain = true := by
  constructor <;> decide +kernel

/-- A character is written as itself, or as a backslash, a mark and digits. -/
lemma literalChar_cases (c : Char) :
    (literalChar c = [c] ∧ isPlain c = true) ∨
      ∃ mark digits, literalChar c = '\\' :: mark :: digits ∧ isControl mark = false ∧
        digits.all isPlain = true := by
  unfold literalChar
  split_ifs with hquote hslash hline hreturn htab hlow hhigh
  · exact .inr ⟨_, [], rfl, by decide, rfl⟩
  · exact .inr ⟨_, [], rfl, by decide, rfl⟩
  · exact .inr ⟨_, [], rfl, by decide, rfl⟩
  · exact .inr ⟨_, [], rfl, by decide, rfl⟩
  · exact .inr ⟨_, [], rfl, by decide, rfl⟩
  · refine .inr ⟨_, _, rfl, by decide, isPlain_paddedHex.1 c.toNat ?_⟩
    simp only [Bool.or_eq_true, decide_eq_true_eq, beq_iff_eq] at hlow
    omega
  · refine .inr ⟨_, _, rfl, by decide, isPlain_paddedHex.2 c.toNat ?_⟩
    simp only [isUpperControl, Bool.and_eq_true, decide_eq_true_eq] at hhigh
    omega
  · have hcontrol : isControl c = false := by
      simp only [isControl, isUpperControl, Bool.or_eq_true, Bool.or_eq_false_iff,
        Bool.and_eq_true, Bool.and_eq_false_iff, decide_eq_true_eq, decide_eq_false_iff_not,
        beq_iff_eq] at hlow hhigh ⊢
      omega
    exact .inl ⟨rfl, by simp [isPlain, hquote, hslash, hcontrol]⟩

/-- No control character is written for any character, as digits and marks are none. -/
lemma isControl_of_mem_literalChar {c d : Char} (h : d ∈ literalChar c) : isControl d = false := by
  have hplain : ∀ {d}, isPlain d = true → isControl d = false := by
    intro d h
    simp only [isPlain, Bool.and_eq_true, Bool.not_eq_true'] at h
    exact h.2
  rcases literalChar_cases c with ⟨hself, hc⟩ | ⟨mark, digits, hescape, hmark, hdigits⟩
  · rw [hself, List.mem_singleton] at h
    exact h ▸ hplain hc
  · rw [hescape, List.mem_cons, List.mem_cons] at h
    rcases h with rfl | rfl | h
    · decide
    · exact hmark
    · exact hplain (List.all_eq_true.1 hdigits d h)

/-- The cut is not made in front of a character that stands for itself. -/
lemma splitAtQuote?_plain {c : Char} (h : isPlain c = true) (rest : List Char) :
    splitAtQuote? (c :: rest) = (splitAtQuote? rest).map fun cut => (c :: cut.1, cut.2) := by
  rw [splitAtQuote?]
  · rintro rfl
    contradiction
  · rintro _ _ rfl
    contradiction

/-- The cut is not made within a text of characters that stand for themselves. -/
lemma splitAtQuote?_plains {text : List Char} (h : text.all isPlain = true) (rest : List Char) :
    splitAtQuote? (text ++ rest) = (splitAtQuote? rest).map fun cut => (text ++ cut.1, cut.2) := by
  induction text with
  | nil => simp
  | cons c text ih =>
      rw [List.all_cons, Bool.and_eq_true] at h
      rw [List.cons_append, splitAtQuote?_plain h.1, ih h.2, Option.map_map]
      rfl

/-- The cut is not made in what is written for a character, as a quote in it is behind a
backslash. -/
lemma splitAtQuote?_literalChar (c : Char) (rest : List Char) :
    splitAtQuote? (literalChar c ++ rest) =
      (splitAtQuote? rest).map fun cut => (literalChar c ++ cut.1, cut.2) := by
  rcases literalChar_cases c with ⟨hself, hc⟩ | ⟨mark, digits, hescape, -, hdigits⟩
  · rw [hself]
    exact splitAtQuote?_plain hc rest
  · rw [hescape, List.cons_append, List.cons_append, splitAtQuote?, splitAtQuote?_plains hdigits,
      Option.map_map]
    rfl

/-- The cut is made behind the whole literal, at the one quote that is not escaped. -/
lemma splitAtQuote?_append (text rest : List Char) :
    splitAtQuote? (text.flatMap literalChar ++ '"' :: rest) =
      some (text.flatMap literalChar ++ ['"'], rest) := by
  induction text with
  | nil => rfl
  | cons c text ih =>
      rw [List.flatMap_cons, List.append_assoc, splitAtQuote?_literalChar, ih, Option.map_some,
        List.append_assoc]

/-- Where the cut is made does not depend on what follows it: the search goes on from the left. -/
lemma splitAtQuote?_extend {text inside behind : List Char}
    (h : splitAtQuote? text = some (inside, behind)) (more : List Char) :
    splitAtQuote? (text ++ more) = some (inside, behind ++ more) := by
  fun_induction splitAtQuote? text generalizing inside with
  | case1 => contradiction
  | case2 rest =>
      cases h
      rfl
  | case3 c rest ih =>
      obtain ⟨⟨front, back⟩, hcut, h⟩ := Option.map_eq_some_iff.1 h
      cases h
      rw [List.cons_append, List.cons_append, splitAtQuote?, ih hcut]
      rfl
  | case4 c rest hquote hescape ih =>
      obtain ⟨⟨front, back⟩, hcut, h⟩ := Option.map_eq_some_iff.1 h
      cases h
      rw [List.cons_append, splitAtQuote?, ih hcut]
      · rfl
      · exact hquote
      · -- A backslash at the end would hide the quote behind it: but no cut is made there.
        intro d more' hc hd
        cases rest with
        | nil => simp [splitAtQuote?] at hcut
        | cons e rest => exact hescape e rest hc rfl

/-- A literal is read from in front of anything, and leaves it. -/
lemma scanLiteral?_append (text rest : String) :
    scanLiteral? (goLiteral text ++ rest) = some (text, rest) := by
  have hcut := splitAtQuote?_append text.toList rest.toList
  have htext : (goLiteral text ++ rest).toList =
      '"' :: (text.toList.flatMap literalChar ++ '"' :: rest.toList) := by
    simp [goLiteral]
  have hvalue : literalValue? (String.ofList ('"' :: (text.toList.flatMap literalChar ++ ['"']))) =
      some text := literalValue?_goLiteral text
  rw [scanLiteral?, htext]
  simp only [hcut, Option.bind_some, hvalue, Option.map_some, String.ofList_toList]

/-- What is read from in front of a text does not depend on what is behind. -/
lemma scanLiteral?_extend {text value behind : String}
    (h : scanLiteral? text = some (value, behind)) (more : String) :
    scanLiteral? (text ++ more) = some (value, behind ++ more) := by
  rw [scanLiteral?] at h
  split at h
  · rename_i rest htext
    obtain ⟨⟨inside, back⟩, hcut, h⟩ := Option.bind_eq_some_iff.1 h
    obtain ⟨read, hread, h⟩ := Option.map_eq_some_iff.1 h
    cases h
    have hmore := splitAtQuote?_extend hcut more.toList
    rw [scanLiteral?, String.toList_append, htext]
    simp only [List.cons_append, hmore, Option.bind_some, hread, Option.map_some,
      String.ofList_append, String.ofList_toList]
  · contradiction

/-- **A literal gives its text back and ends where it was ended.**  What is read from the literal on
is the text, and the rest of the file is what was written behind it.  No control character stands in
a literal, different texts have different literals, and no literal ends before its last quote. -/
theorem goLiteral_delimited (text : String) :
    (∀ rest, scanLiteral? (goLiteral text ++ rest) = some (text, rest)) ∧
    (∀ c ∈ (goLiteral text).toList, isControl c = false) ∧
    (∀ other, goLiteral other = goLiteral text → other = text) ∧
    ∀ front back, goLiteral text = front ++ back → back ≠ "" → scanLiteral? front = none := by
  refine ⟨scanLiteral?_append text, fun c hc => ?_, fun other hother => ?_,
    fun front back hparts hback => ?_⟩
  · rw [goLiteral, String.toList_ofList, List.mem_append, List.mem_cons, List.mem_flatMap,
      List.mem_singleton] at hc
    rcases hc with (rfl | ⟨d, -, hd⟩) | rfl
    · decide
    · exact isControl_of_mem_literalChar hd
    · decide
  · have hscan := scanLiteral?_append other ""
    rw [hother, scanLiteral?_append] at hscan
    exact (Prod.mk.inj (Option.some.inj hscan)).1.symm
  · rw [Option.eq_none_iff_forall_ne_some]
    rintro ⟨value, behind⟩ hscan
    have hwhole := scanLiteral?_append text ""
    rw [String.append_empty, hparts, scanLiteral?_extend hscan] at hwhole
    have hempty := (Prod.mk.inj (Option.some.inj hwhole)).2
    rw [String.append_eq_empty_iff] at hempty
    exact hback hempty.2

/-- A quote, a text that looks like an escape and controls of both blocks, with code behind the
literal that has quotes of its own. -/
theorem goLiteral_delimited_escapes :
    let text := "say \"\\x41\"\t\u0085"
    goLiteral text = "\"say \\\"\\\\x41\\\"\\t\\u0085\"" ∧
      scanLiteral? (goLiteral text ++ ", \"b\")") = some (text, ", \"b\")") ∧
      scanLiteral? "\"say \\\"" = none := by
  intro text
  have hliteral : goLiteral text = "\"say \\\"\\\\x41\\\"\\t\\u0085\"" := by decide +kernel
  obtain ⟨hscan, -, -, hshort⟩ := goLiteral_delimited text
  refine ⟨hliteral, hscan _, hshort _ "\\\\x41\\\"\\t\\u0085\"" ?_ (by decide)⟩
  rw [hliteral]
  decide +kernel

end FrameworkBindings.Output
