import FrameworkBindings.Proofs.Signature.Matching
import FrameworkBindings.Proofs.Signature.Rules

/-!
# When a nested signature does not parse

A text whose brackets match should parse.  Two cuts of the reader go through a pair of brackets
nevertheless, and what they cut off is not in balance any more.

* `Miscut` — the texts that are cut in this way: an array whose size has brackets in it, since the
  size is taken from behind the *last* bracket, and a function with something behind its parameters,
  since the parameters are taken up to the *last* character.
* `Piece` — the texts that a signature is taken apart into, the signature among them.
* **`ofText_fails_iff`** — a nested text does not parse just if one of its pieces is miscut.

**Both directions.**  A text that is not miscut has nested parts (`Nested.parts`), and so on by
induction.  A miscut text has a part that leaves a bracket open or closes a parenthesis too many
(`Overclosed`), and a part that fails makes the whole fail (`fails_iff`).

**Why the fault survives.**  Between a miscut text and the part that fails stand the steps of the
reader: it trims, cuts the parameters at commas and takes a name off each of them.  None of these
loses a bracket, so a parenthesis that closes nothing is still there in one of the pieces
(`Overclosed.exists_piece`, `Overclosed.readParameter`).

**Texts without brackets.**  They are nested and have no part with a bracket, so they parse
(`exists_parse_of_plain`).  That is what makes a refusal a statement on brackets only.
-/

namespace FrameworkBindings.Signature

open Text

variable {s t : List Char}

/-! ## Failing -/

/-- The text does not parse, whatever the text and the fault that it is refused with. -/
def Fails (s : List Char) : Prop := ∃ m, parse s = .error m

/-- Parameters do not parse just if one of them does not.  Which one is reported does not matter
here. -/
lemma readParams_fails_iff {read : List Char → Reading} {params : List (Param (List Char))} :
    (∃ m, readParams read params = .error m) ↔ ∃ p ∈ params, ∃ m, read p.type = .error m := by
  induction params with
  | nil => simp [readParams]
  | cons p params ih =>
      rw [List.exists_mem_cons_iff, ← ih, readParams]
      cases read p.type with
      | error m => simp
      | ok type => cases readParams read params <;> simp [Except.map]

/-- A form does not parse just if it is malformed or one of its parts does not parse. -/
lemma interpret_fails_iff {form : Form} {sig : List Char} {read : List Char → Reading} :
    (∃ m, form.interpret sig read = .error m) ↔
      (∃ fault, form = .malformed fault) ∨ ∃ q ∈ form.parts, ∃ m, read q = .error m := by
  cases form with
  | malformed fault => simp [Form.interpret]
  | function result params =>
      have hparams := @readParams_fails_iff read params
      simp only [Form.interpret, Form.parts, List.exists_mem_cons_iff, List.mem_map,
        exists_exists_and_eq_and, reduceCtorEq, exists_false, false_or]
      rw [← hparams]
      cases read result with
      | error m => simp
      | ok type => cases readParams read params <;> simp [Except.map]
  | wrapped wrap inner => cases h : read inner <;> simp [Form.interpret, Form.parts, Except.map, h]
  | array elem size => cases h : read elem <;> simp [Form.interpret, Form.parts, Except.map, h]
  | void | preset type | primitive name | named | unrecognized =>
      simp [Form.interpret, Form.parts]

/-- One step of failing.  Everything below is this equivalence, used again for each part. -/
lemma fails_iff : Fails s ↔
    (∃ fault, Form.of (trim s) = .malformed fault) ∨ ∃ q ∈ (Form.of (trim s)).parts, Fails q := by
  rw [Fails, parse_eq]
  exact interpret_fails_iff

/-- Without brackets none is left open at the end, whatever the text is. -/
lemma openBrackets_of_plain (h : ∀ c ∈ s, isBracket c = false) : openBrackets s = 0 := by
  simpa using openBrackets_of_balance (Nested.of_plain h).imbalance?_eq_none

/-- A text that leaves a bracket open does not parse: the check of the balance refuses it. -/
lemma fails_of_openBrackets (h : 0 < openBrackets s) : Fails s := by
  obtain ⟨lead, trail, htext, hlead, htrail⟩ := exists_trim s
  have htrim : openBrackets s = openBrackets (trim s) := by
    conv_lhs => rw [htext]
    rw [openBrackets_append, openBrackets_append,
      openBrackets_of_plain fun c hc => isBracket_eq_false_of_isBlank (hlead c hc),
      openBrackets_of_plain fun c hc => isBracket_eq_false_of_isBlank (htrail c hc)]
    omega
  rw [fails_iff]
  left
  cases hbalance : imbalance? (trim s) with
  | some fault => exact ⟨fault, Form.of_eq_malformed hbalance⟩
  | none =>
      have hclosed := openBrackets_of_balance hbalance
      omega

/-! ## Parameters -/

/-- The type of a parameter is its text without the name and the blanks around it; a closing `[]`
stays.  So all brackets of the parameter are in its type. -/
lemma exists_readParameter (text : List Char) : ∃ lead type trail suffix,
    text = lead ++ type ++ trail ++ suffix ∧ (readParameter text).type = type ++ suffix ∧
      (∀ c ∈ lead, isBracket c = false) ∧ (∀ c ∈ trail, isBracket c = false) ∧
      (suffix = [] ∨ suffix = ['[', ']']) := by
  have hname : ∀ text : List Char, ∃ lead trail, text = lead ++ (splitName text).type ++ trail ∧
      (∀ c ∈ lead, isBracket c = false) ∧ ∀ c ∈ trail, isBracket c = false := by
    intro text
    by_cases hname : EndsInName text
    · rw [splitName_of_endsInName hname]
      obtain ⟨lead, trail, hbefore, hlead, htrail⟩ := exists_trim (frontOf text)
      refine ⟨lead, trail ++ lastWord text, ?_, fun c hc => ?_, fun c hc => ?_⟩
      · rw [← List.append_assoc, ← hbefore, frontOf_append_lastWord]
      · exact isBracket_eq_false_of_isBlank (hlead c hc)
      · rcases List.mem_append.1 hc with hc | hc
        · exact isBracket_eq_false_of_isBlank (htrail c hc)
        · exact isBracket_eq_false_of_isWordChar (isWordChar_of_mem_lastWord hc)
    · rw [splitName_of_not_endsInName hname]
      exact ⟨[], [], by simp, by simp, by simp⟩
  unfold readParameter
  split
  · obtain ⟨lead, trail, htext, hlead, htrail⟩ := hname text
    exact ⟨lead, _, trail, [], by simpa using htext, by simp, hlead, htrail, .inl rfl⟩
  · rename_i body hbody
    obtain ⟨lead, trail, htext, hlead, htrail⟩ := hname (trimEnd body)
    obtain ⟨blanks, hblank, hblanks⟩ := exists_trimEnd body
    refine ⟨lead, _, trail ++ blanks, ['[', ']'], ?_, rfl, hlead, fun c hc => ?_, .inr rfl⟩
    · rw [stripTrailing_eq_some_iff.1 hbody, ← List.append_assoc, ← htext, ← hblank]
    · rcases List.mem_append.1 hc with hc | hc
      · exact htrail c hc
      · exact isBracket_eq_false_of_isBlank (hblanks c hc)

/-- Trimming takes no bracket, so nested text stays nested. -/
lemma Nested.trim (h : Nested s) : Nested (trim s) := by
  obtain ⟨lead, trail, htext, hlead, htrail⟩ := exists_trim s
  rw [htext] at h
  exact (h.of_append_right (.of_plain fun c hc =>
    isBracket_eq_false_of_isBlank (htrail c hc))).of_append_left (.of_plain fun c hc =>
      isBracket_eq_false_of_isBlank (hlead c hc))

/-- The type of a nested parameter is nested, whatever is taken for its name. -/
lemma Nested.readParameter (h : Nested s) : Nested (readParameter s).type := by
  obtain ⟨lead, type, trail, suffix, htext, htype, hlead, htrail, hsuffix⟩ := exists_readParameter s
  have hclosed : Nested suffix := by rcases hsuffix with rfl | rfl <;> decide
  rw [htext] at h
  rw [htype]
  exact (((h.of_append_right hclosed).of_append_right (.of_plain htrail)).of_append_left
    (.of_plain hlead)).append hclosed

/-- The text has a parenthesis that closes nothing, behind a nested text. -/
def Overclosed (s : List Char) : Prop := ∃ inner rest, s = inner ++ ')' :: rest ∧ Nested inner

namespace Overclosed

/-- Only what stands in front of a text can close its parentheses.  So what is taken off around a
text leaves it with one too many. -/
lemma of_append {lead trail : List Char} (h : Overclosed (lead ++ s ++ trail))
    (hlead : ∀ c ∈ lead, isBracket c = false) (htrail : ')' ∉ trail) : Overclosed s := by
  obtain ⟨inner, rest, heq, hinner⟩ := h
  have hs : ∃ rest', lead ++ s = inner ++ ')' :: rest' := by
    rcases List.append_eq_append_iff.1 heq with ⟨gap, -, hgap⟩ | ⟨gap, hgap, hbehind⟩
    · exact absurd (hgap ▸ by simp : ')' ∈ trail) htrail
    · rcases List.cons_eq_append_iff.1 hbehind with ⟨rfl, hbehind⟩ | ⟨rest', rfl, -⟩
      · exact absurd (show ')' ∈ trail by simp [← show ')' :: rest = trail from hbehind]) htrail
      · exact ⟨rest', hgap⟩
  obtain ⟨rest', hs⟩ := hs
  rcases List.append_eq_append_iff.1 hs with ⟨gap, rfl, hgap⟩ | ⟨gap, hgap, hbehind⟩
  · exact ⟨gap, rest', hgap, hinner.of_append_left (.of_plain hlead)⟩
  · rcases List.cons_eq_append_iff.1 hbehind with ⟨rfl, hbehind⟩ | ⟨_, rfl, -⟩
    · exact ⟨[], rest', hbehind.symm, .nil⟩
    · exact absurd (hlead ')' (by simp [hgap])) (by decide)

/-- Trimming leaves the parenthesis where it is, since it takes blanks only. -/
lemma trim (h : Overclosed s) : Overclosed (trim s) := by
  obtain ⟨lead, trail, htext, hlead, htrail⟩ := exists_trim s
  rw [htext] at h
  refine h.of_append (fun c hc => isBracket_eq_false_of_isBlank (hlead c hc)) fun hmem => ?_
  exact absurd (htrail ')' hmem) (by decide)

/-- Taking the name off a parameter leaves the parenthesis in its type. -/
lemma readParameter (h : Overclosed s) : Overclosed (readParameter s).type := by
  obtain ⟨lead, type, trail, suffix, htext, htype, hlead, htrail, hsuffix⟩ := exists_readParameter s
  rw [htext, List.append_assoc] at h
  have htype' : Overclosed type := by
    refine h.of_append hlead fun hmem => ?_
    rcases List.mem_append.1 hmem with hmem | hmem
    · exact absurd (htrail ')' hmem) (by decide)
    · rcases hsuffix with rfl | rfl <;> exact absurd hmem (by decide)
  obtain ⟨inner, rest, rfl, hinner⟩ := htype'
  rw [htype]
  exact ⟨inner, rest ++ suffix, by simp, hinner⟩

/-- A text with a parenthesis too many does not parse. -/
lemma fails (h : Overclosed s) : Fails s := by
  obtain ⟨inner, rest, htrim, hinner⟩ := h.trim
  rw [fails_iff, htrim]
  exact .inl ⟨_, Form.of_eq_malformed (imbalance?_of_overclosed hinner rest)⟩

/-- Cutting at commas leaves the parenthesis in one of the pieces: the cut runs over the nested text
in front of it, or ends before it. -/
lemma exists_piece (h : Overclosed s) : ∃ piece ∈ parameterTexts s, Overclosed piece := by
  obtain ⟨inner, rest, rfl, hinner⟩ := h
  obtain ⟨pieces, last, hcut, -, hlast⟩ := hinner.splitAtCommas_append (')' :: rest)
  rw [splitAtCommas_cons (by simp)] at hcut
  obtain ⟨first, more, hmore⟩ := List.exists_cons_of_ne_nil
    (splitAtCommas_ne_nil (0 + nesting ')') rest)
  rw [hmore, List.modifyHead_cons, List.modifyHead_cons] at hcut
  have hpiece : Overclosed (Text.trim (last ++ ')' :: first)) := trim ⟨last, first, rfl, hlast⟩
  have ⟨before, behind, heq, _⟩ := hpiece
  have hmem : Text.trim (last ++ ')' :: first) ∈ ((splitAtCommas 0 (inner ++ ')' :: rest)).map
      Text.trim).filter (! ·.isEmpty) := by
    refine List.mem_filter.2 ⟨List.mem_map.2 ⟨_, ?_, rfl⟩, by simp [heq]⟩
    rw [hcut]
    simp
  refine ⟨_, ?_, hpiece⟩
  unfold parameterTexts
  dsimp only
  rw [if_neg]
  · exact hmem
  · intro hvoid
    rw [hvoid, List.mem_singleton, heq] at hmem
    have hparen : ')' ∈ "void".toList := hmem ▸ by simp
    exact absurd hparen (by decide)

end Overclosed

/-! ## Miscut texts -/

/-- A text with a pair of brackets that the reader cuts through. -/
inductive Miscut : List Char → Prop
  /-- An array whose size opens a bracket: it is cut at that one. -/
  | size {elem size : List Char} (helem : Nested elem) (hsize : Nested size) (hopen : '[' ∈ size) :
      Miscut (elem ++ ('[' :: size ++ [']']))
  /-- A function with more behind its parameters, up to another closing parenthesis: all of that is
  read as parameters. -/
  | params {sig result inner rest : List Char}
      (hmarker : splitAtMarker 0 sig = some (result, inner ++ ')' :: rest)) (hinner : Nested inner)
      (hlast : rest.getLast? = some ')') : Miscut sig

/-- The texts that a signature is taken apart into, the signature among them.  They are the texts
that the reader is called with, trimmed. -/
inductive Piece : List Char → List Char → Prop
  | self (s : List Char) : Piece s (trim s)
  | part {s q p : List Char} (hq : q ∈ (Form.of (trim s)).parts) (h : Piece q p) : Piece s p

/-- A piece that fails makes the whole signature fail, as no rule recovers from a failing part. -/
lemma Piece.fails {p : List Char} (h : Piece s p) (hp : Fails p) : Fails s := by
  induction h with
  | self s =>
      rw [Fails, parse_trim] at hp
      exact hp
  | part hq _ ih => exact fails_iff.2 (.inr ⟨_, hq, ih hp⟩)

/-! ### A miscut text fails -/

/-- A qualifier is taken off one of the ends, and it holds no bracket. -/
lemma eq_of_qualified? {wrap : Wrap} {inner : List Char} (h : qualified? s = some (wrap, inner)) :
    ∃ mark : List Char, (∀ c ∈ mark, isBracket c = false) ∧ mark ≠ [] ∧
      (s = mark ++ inner ∨ s = inner ++ mark) := by
  have hplain : ∀ q ∈ qualifiers,
      (∀ c ∈ q.1.text.toList, isBracket c = false) ∧ q.1.text.toList ≠ [] := by decide
  obtain ⟨affix, hq, heq⟩ := exists_of_qualified? h
  exact ⟨affix.text.toList, (hplain _ hq).1, (hplain _ hq).2, heq⟩

/-- Trimming leaves a text alone that ends in brackets, but for the blanks in front. -/
lemma trim_append_size (elem size : List Char) :
    trim (elem ++ ('[' :: size ++ [']'])) = trimStart elem ++ ('[' :: size ++ [']']) := by
  rw [← List.append_assoc, trim_append_visible _ (by decide),
    trimStart_append_cons elem (by decide), List.append_assoc]

/-- A mark stands somewhere for the last time, which is where the reader looks for it. -/
lemma exists_last_of_mem {c : Char} (h : c ∈ s) :
    ∃ before after, s = before ++ c :: after ∧ c ∉ after := by
  obtain ⟨after, before, hsplit, hfree⟩ := List.eq_append_cons_of_mem (List.mem_reverse.2 h)
  refine ⟨before.reverse, after.reverse, ?_, by simpa using hfree⟩
  have hreverse := congrArg List.reverse hsplit
  simpa using hreverse

/-- An array whose size opens a bracket does not parse: the element is cut off before the last one,
and the first is left open in it. -/
lemma fails_size {elem size : List Char} (helem : Nested elem) (hsize : Nested size)
    (hopen : '[' ∈ size) : Fails (elem ++ ('[' :: size ++ [']'])) := by
  induction hlength : elem.length using Nat.strong_induction_on generalizing elem with
  | _ n ih =>
  have hstart : Nested (trimStart elem) := by
    have helem' : elem = elem.takeWhile isBlank ++ trimStart elem :=
      List.takeWhile_append_dropWhile.symm
    rw [helem'] at helem
    exact helem.of_append_left (.of_plain fun c hc =>
      isBracket_eq_false_of_isBlank (List.mem_takeWhile_imp hc))
  have hle := length_trimStart_le elem
  rw [fails_iff, trim_append_size]
  generalize trimStart elem = elem' at hstart hle
  obtain ⟨hvoid, hpreset, -⟩ := not_vocabulary_of_bracket (c := '[') (by decide)
    (show '[' ∈ elem' ++ ('[' :: size ++ [']']) by simp)
  have hfunction : functionParts? (elem' ++ ('[' :: size ++ [']'])) = none :=
    functionParts?_eq_none (by rw [← List.append_assoc, List.getLast?_concat]; simp)
  have hbalance : imbalance? (elem' ++ ('[' :: size ++ [']'])) = none :=
    (hstart.append hsize.brackets).imbalance?_eq_none
  right
  cases hqualified : qualified? (elem' ++ ('[' :: size ++ [']'])) with
  | some found =>
      -- a qualifier in front of the array, and the same array without it
      obtain ⟨wrap, inner⟩ := found
      rw [Form.of_eq_wrapped hvoid hpreset hbalance hfunction hqualified]
      refine ⟨inner, List.mem_singleton_self _, ?_⟩
      obtain ⟨mark, hplain, hne, heq | heq⟩ := eq_of_qualified? hqualified
      · obtain ⟨behind, rfl, rfl⟩ : ∃ behind, elem' = mark ++ behind ∧
            inner = behind ++ ('[' :: size ++ [']']) := by
          rcases List.append_eq_append_iff.1 heq with ⟨gap, hmark, hgap⟩ | h
          · cases gap with
            | nil => exact ⟨[], by simpa using hmark.symm, by simpa using hgap.symm⟩
            | cons c gap =>
                obtain ⟨rfl, -⟩ := List.cons.inj hgap
                exact absurd (hplain '[' (by simp [hmark])) (by decide)
          · exact h
        have hpos := List.length_pos_iff.2 hne
        rw [List.length_append] at hle
        exact ih behind.length (by omega) (hstart.of_append_left (.of_plain hplain)) rfl
      · have hlast := congrArg List.getLast? heq
        rw [← List.append_assoc, List.getLast?_concat,
          List.getLast?_append_of_ne_nil _ hne] at hlast
        exact absurd (hplain ']' (List.mem_of_getLast? hlast.symm)) (by decide)
  | none =>
      obtain ⟨before, after, rfl, hfree⟩ := exists_last_of_mem hopen
      have hinner : stripTrailing [']'] (elem' ++ ('[' :: (before ++ '[' :: after) ++ [']'])) =
          some ((elem' ++ '[' :: before) ++ '[' :: after) :=
        stripTrailing_eq_some_iff.2 (by simp)
      rw [Form.of_eq_plain hvoid hpreset hbalance hfunction hqualified, Form.ofPlain, hinner]
      simp only [splitAtLast_append hfree]
      exact ⟨_, List.mem_singleton_self _, fails_of_openBrackets (openBrackets_pos hstart hsize)⟩

/-- A function with more behind its parameters does not parse: what is cut at commas holds the
parenthesis that closes the first list, and nothing opens it there. -/
lemma fails_params {sig result inner rest : List Char} (htrim : trim sig = sig)
    (hmarker : splitAtMarker 0 sig = some (result, inner ++ ')' :: rest)) (hinner : Nested inner)
    (hlast : rest.getLast? = some ')') : Fails sig := by
  obtain ⟨marker, -, hsig, -⟩ := eq_of_splitAtMarker hmarker
  obtain ⟨behind, rfl⟩ := List.getLast?_eq_some_iff.1 hlast
  obtain ⟨hvoid, hpreset, -⟩ := not_vocabulary_of_bracket (c := ')') (by decide)
    (show ')' ∈ sig by simp [hsig])
  have hparts : functionParts? sig =
      some (result, (parameterTexts (inner ++ ')' :: behind)).map readParameter) := by
    have hend : sig.getLast? = some ')' := by
      have hlast : sig = (result ++ marker.toList ++ inner ++ ')' :: behind) ++ [')'] := by
        simp [hsig]
      rw [hlast, List.getLast?_concat]
    rw [functionParts?, if_pos hend, hmarker, Option.map_some, ← List.cons_append,
      ← List.append_assoc, List.dropLast_concat]
  rw [fails_iff, htrim]
  cases hbalance : imbalance? sig with
  | some fault => exact .inl ⟨fault, Form.of_eq_malformed hbalance⟩
  | none =>
      right
      rw [Form.of_eq_function hvoid hpreset hbalance hparts]
      obtain ⟨piece, hpiece, hclosed⟩ :=
        Overclosed.exists_piece (s := inner ++ ')' :: behind) ⟨inner, behind, rfl, hinner⟩
      refine ⟨(readParameter piece).type, ?_, hclosed.readParameter.fails⟩
      exact List.mem_cons_of_mem _ (List.mem_map_of_mem (List.mem_map_of_mem hpiece))

/-- Miscut texts fail at once: the part that is cut off at the wrong bracket is out of balance. -/
lemma Miscut.fails (h : Miscut s) (htrim : trim s = s) : Fails s := by
  cases h with
  | size helem hsize hopen => exact fails_size helem hsize hopen
  | params hmarker hinner hlast => exact fails_params htrim hmarker hinner hlast

/-! ### Other texts have nested parts -/

/-- The pieces between the commas of a nested list are nested. -/
lemma nested_of_mem_parameterTexts {inner piece : List Char} (h : Nested inner)
    (hpiece : piece ∈ parameterTexts inner) : Nested piece := by
  have hcut : ∀ raw ∈ splitAtCommas 0 inner, Nested raw := by
    obtain ⟨pieces, last, hcut, hpieces, hlast⟩ := h.splitAtCommas_append []
    rw [List.append_nil] at hcut
    intro raw hraw
    rw [hcut] at hraw
    rcases List.mem_append.1 hraw with hraw | hraw
    · exact hpieces raw hraw
    · obtain rfl : raw = last := by simpa [splitAtCommas] using hraw
      exact hlast
  unfold parameterTexts at hpiece
  dsimp only at hpiece
  split at hpiece
  · contradiction
  · obtain ⟨raw, hraw, rfl⟩ := List.mem_map.1 (List.mem_filter.1 hpiece).1
    exact (hcut raw hraw).trim

/-- The parts of a function with nothing behind its parameters are nested: the last character closes
the list that the marker opened. -/
lemma nested_functionParts {result : List Char} {params : List (Param (List Char))} (h : Nested s)
    (hcut : ¬ Miscut s) (hparts : functionParts? s = some (result, params)) :
    Nested result ∧ ∀ p ∈ params, Nested p.type := by
  unfold functionParts? at hparts
  split_ifs at hparts with hend
  obtain ⟨⟨before, after⟩, hmarker, heq⟩ := Option.map_eq_some_iff.1 hparts
  cases heq
  obtain ⟨hresult, inner, rest, rfl, hinner, -⟩ := h.of_splitAtMarker hmarker
  refine ⟨hresult, fun p hp => ?_⟩
  obtain ⟨piece, hpiece, rfl⟩ := List.mem_map.1 hp
  obtain rfl : rest = [] := by
    by_contra hne
    obtain ⟨marker, -, hsig, -⟩ := eq_of_splitAtMarker hmarker
    refine hcut (.params hmarker hinner ?_)
    rwa [hsig, ← List.append_assoc, List.getLast?_append_of_ne_nil _ (by simp),
      List.getLast?_cons_of_ne_nil hne] at hend
  rw [List.dropLast_concat] at hpiece
  exact (nested_of_mem_parameterTexts hinner hpiece).readParameter

/-- An array without brackets in its size is cut before the one that its closing bracket belongs to,
so that its element is nested. -/
lemma nested_elem {inner : List Char} (h : Nested s) (hcut : ¬ Miscut s)
    (hend : stripTrailing [']'] s = some inner) :
    ∃ elem, Nested elem ∧ ∃ size, splitAtLast '[' inner = some (elem, size) := by
  obtain rfl := stripTrailing_eq_some_iff.1 hend
  obtain ⟨elem, size, heq, helem, hsize⟩ := h.exists_opener List.getLast?_concat
  have hfree : '[' ∉ size := fun hopen => hcut (heq ▸ .size helem hsize hopen)
  obtain rfl : inner = elem ++ '[' :: size := by
    rw [← List.append_assoc] at heq
    exact List.append_cancel_right heq
  exact ⟨elem, helem, size, splitAtLast_append hfree⟩

/-- **The reader cuts nested text into nested parts**, unless it is miscut. -/
lemma Nested.parts (h : Nested s) (hcut : ¬ Miscut s) :
    (∀ fault, Form.of s ≠ .malformed fault) ∧ ∀ q ∈ (Form.of s).parts, Nested q := by
  have hfits := Form.fits s
  generalize Form.of s = form at *
  cases hfits with
  | void | preset | primitive | named | unrecognized => simp [Form.parts]
  | malformed hfault =>
      rw [h.imbalance?_eq_none] at hfault
      contradiction
  | function hparts =>
      obtain ⟨hresult, hparams⟩ := nested_functionParts h hcut hparts
      refine ⟨by simp, fun q hq => ?_⟩
      rcases List.mem_cons.1 hq with rfl | hq
      · exact hresult
      · obtain ⟨p, hp, rfl⟩ := List.mem_map.1 hq
        exact hparams p hp
  | wrapped hqualified =>
      refine ⟨by simp, fun q hq => ?_⟩
      obtain rfl := List.mem_singleton.1 hq
      obtain ⟨mark, hplain, -, rfl | rfl⟩ := eq_of_qualified? hqualified
      · exact h.of_append_left (.of_plain hplain)
      · exact h.of_append_right (.of_plain hplain)
  | array hend hopen =>
      obtain ⟨elem, helem, size, heq⟩ := nested_elem h hcut hend
      rw [heq] at hopen
      cases hopen
      refine ⟨by simp, fun q hq => ?_⟩
      obtain rfl := List.mem_singleton.1 hq
      exact helem
  | unopened hend hopen =>
      obtain ⟨elem, helem, size, heq⟩ := nested_elem h hcut hend
      rw [heq] at hopen
      contradiction

/-! ## The main result -/

/-- A nested text that does not parse has a miscut piece.  By induction on the length: where the
text is not miscut itself, its parts are nested and one of them fails. -/
lemma Nested.exists_miscut (h : Nested s) (hfails : Fails s) : ∃ p, Piece s p ∧ Miscut p := by
  induction s using parts_induction with
  | step s ih =>
    by_cases hcut : Miscut (Text.trim s)
    · exact ⟨Text.trim s, .self s, hcut⟩
    · obtain ⟨hwell, hparts⟩ := h.trim.parts hcut
      rcases fails_iff.1 hfails with ⟨fault, hfault⟩ | ⟨q, hq, hfails'⟩
      · exact absurd hfault (hwell fault)
      · obtain ⟨p, hpiece, hp⟩ := ih q hq (hparts q hq) hfails'
        exact ⟨p, .part hq hpiece, hp⟩

/-- Pieces are trimmed texts, as the reader trims before it looks at anything. -/
lemma Piece.trim_eq {p : List Char} (h : Piece s p) : trim p = p := by
  induction h with
  | self s => exact trim_trim s
  | part _ _ ih => exact ih

/-- **A nested text does not parse just if one of its pieces is miscut.**  From the piece to the
whole a failure is handed on by every rule; from the whole to the piece it is followed by induction
on the length, as a nested text that is cut well has nested parts. -/
theorem ofText_fails_iff {text : String} (h : Nested text.toList) :
    (∃ m, ofText text = .error m) ↔ ∃ p, Piece text.toList p ∧ Miscut p := by
  constructor
  · exact h.exists_miscut
  · rintro ⟨p, hpiece, hp⟩
    exact hpiece.fails (hp.fails hpiece.trim_eq)

/-- A parameter whose size has brackets in it makes the whole function fail.  The miscut piece is
two steps down, and all brackets of the text match. -/
theorem ofText_fails_iff_parameter :
    Nested "void (*)(uint8_t[sizes[0]])".toList ∧
      ∃ m, ofText "void (*)(uint8_t[sizes[0]])" = .error m := by
  have hnested : Nested "void (*)(uint8_t[sizes[0]])".toList := by decide
  have hform : Form.of (trim "void (*)(uint8_t[sizes[0]])".toList) =
      .function "void ".toList [⟨"", "uint8_t[sizes[0]]".toList⟩] :=
      Form.eq_of_same (by decide +kernel)
  have hpiece : Piece "void (*)(uint8_t[sizes[0]])".toList (trim "uint8_t[sizes[0]]".toList) := by
    refine .part ?_ (.self _)
    rw [hform]
    exact List.mem_cons_of_mem _ (List.mem_singleton_self _)
  have hcut : Miscut (trim "uint8_t[sizes[0]]".toList) :=
    @Miscut.size "uint8_t".toList "sizes[0]".toList (by decide) (by decide) (by decide)
  exact ⟨hnested, (ofText_fails_iff hnested).2 ⟨_, hpiece, hcut⟩⟩

/-- A size with brackets in it is cut at the inner one, which leaves an element that is refused. -/
lemma ofText_nestedSize :
    ofText "uint8_t[sizes[0]]" = .error ⟨"uint8_t[sizes", .brackets⟩ := by
  have harray : Form.of (trim "uint8_t[sizes[0]]".toList) =
      .array "uint8_t[sizes".toList "0]".toList := Form.eq_of_same (by decide +kernel)
  have helem : Form.of (trim "uint8_t[sizes".toList) = .malformed .brackets :=
    Form.eq_of_same (by decide +kernel)
  rw [ofText, parse_eq, harray, Form.interpret, parse_eq, helem]
  rfl

/-- Neither a size with brackets in it nor a second parameter list parses, though all brackets of
the two texts match.  Both texts are refused with the piece that was cut off, and with its fault. -/
theorem ofText_error_of_nested :
    Nested "uint8_t[sizes[0]]".toList ∧
      ofText "uint8_t[sizes[0]]" = .error ⟨"uint8_t[sizes", .brackets⟩ ∧
      Nested "void (*)(int)(float)".toList ∧
      ofText "void (*)(int)(float)" = .error ⟨"int)(", .parentheses⟩ := by
  have hfunction : Form.of (trim "void (*)(int)(float)".toList) =
      .function "void ".toList [⟨"float", "int)(".toList⟩] := Form.eq_of_same (by decide +kernel)
  have hresult : Form.of (trim "void ".toList) = .void := Form.eq_of_same (by decide +kernel)
  have hparam : Form.of (trim "int)(".toList) = .malformed .parentheses :=
    Form.eq_of_same (by decide +kernel)
  refine ⟨by decide, ofText_nestedSize, by decide, ?_⟩
  rw [ofText, parse_eq, hfunction, Form.interpret, parse_eq "void ".toList, hresult,
    Form.interpret, readParams, parse_eq "int)(".toList, hparam]
  rfl

/-! ## Texts without brackets -/

/-- The parts of a text without brackets have none. -/
lemma plain_of_mem_parts (h : ∀ c ∈ s, isBracket c = false) {q : List Char}
    (hq : q ∈ (Form.of s).parts) : ∀ c ∈ q, isBracket c = false := by
  have hfits := Form.fits s
  generalize Form.of s = form at *
  cases hfits with
  | void | preset | malformed | unopened | primitive | named | unrecognized => contradiction
  | function hparts =>
      rw [functionParts?_eq_none fun hlast =>
        absurd (h ')' (List.mem_of_getLast? hlast)) (by decide)] at hparts
      contradiction
  | wrapped hqualified =>
      obtain rfl := List.mem_singleton.1 hq
      obtain ⟨mark, -, -, rfl | rfl⟩ := eq_of_qualified? hqualified
      · exact fun c hc => h c (List.mem_append_right _ hc)
      · exact fun c hc => h c (List.mem_append_left _ hc)
  | array hend hopen =>
      obtain rfl := stripTrailing_eq_some_iff.1 hend
      exact absurd (h ']' (by simp)) (by decide)

/-- Every miscut text has a bracket in it, so texts without any parse. -/
lemma Miscut.exists_bracket (h : Miscut s) : ∃ c ∈ s, isBracket c = true := by
  cases h with
  | size helem hsize hopen => exact ⟨']', by simp, by decide⟩
  | params hmarker hinner hlast =>
      obtain ⟨marker, -, hsig, -⟩ := eq_of_splitAtMarker hmarker
      exact ⟨')', by simp [hsig], by decide⟩

/-- A text without brackets parses, whatever its words are. -/
lemma exists_parse_of_plain (h : ∀ c ∈ s, isBracket c = false) : ∃ type, parse s = .ok type := by
  cases hread : parse s with
  | ok type => exact ⟨type, rfl⟩
  | error m =>
      obtain ⟨p, hpiece, hcut⟩ := (Nested.of_plain h).exists_miscut ⟨m, hread⟩
      obtain ⟨c, hc, hbracket⟩ := hcut.exists_bracket
      have hplain : ∀ c ∈ p, isBracket c = false := by
        clear hcut hc hread
        induction hpiece with
        | self s => exact fun c hc => h c (mem_of_mem_trim hc)
        | part hq _ ih => exact ih (plain_of_mem_parts (fun c hc => h c (mem_of_mem_trim hc)) hq)
      rw [hplain c hc] at hbracket
      contradiction

end FrameworkBindings.Signature
