import Mathlib.Data.List.Forall2
import FrameworkBindings.Json.Writer
import FrameworkBindings.Proofs.Json.Words

/-!
# What is written can be read

The reader cuts a text into tokens and builds a value from them.  Both passes go over the text of a
part in the same way wherever the part stands, so that texts can be put together as values are.

**Tokens.**  `Scans` says that a text is cut into some tokens, and `Delimits` moreover that no word
is left open at its end.  Texts are joined by `Delimits.append_scans` and `Scans.append_char`.

**Values.**  `Builds` says that some tokens make a value; `builds_array` and `builds_object` put
tokens together.

**Texts.**  `Spells` joins the two.  `spells_write` and `spells_writePrettyAt` follow the value, and
**`read_write`** and **`read_writePretty`** read it back.

**Why two notions of tokens.**  A word is only over when something comes that ends it, so a number
at the end of a text is not yet a token, and one cannot put `1` and `2` next to each other.  What
may stand at the end of anything is `Scans`; what something may be put behind is `Delimits`.  In
JSON the next character after a value is always punctuation or a blank, which turns the first into
the second.

The two writers differ only in the blanks that they put between parts, so `spells_array` and
`spells_object` allow blanks in all these places and serve them both.
-/

namespace FrameworkBindings.Json

/-! ## Tokens -/

/-- The first pass has read some tokens, in reverse; the last may be a word that is not over and
would be read as its value. -/
inductive Reads : Scan × List Token → List Token → Prop where
  | between (done : List Token) : Reads (.between, done) done
  | word {collected : List Char} {done : List Token} {value : Scalar}
      (h : readWord collected.reverse = some value) :
      Reads (.word collected, done) (.scalar value :: done)

/-- The text is cut into the tokens, wherever it stands between tokens; its last word may be
open. -/
def Scans (text : List Char) (ts : List Token) : Prop :=
  ∀ done, ∃ s, text.foldlM Scan.step (.between, done) = some s ∧ Reads s (ts.reverse ++ done)

/-- The text is cut into the tokens, and no word is open at its end, so that any text may follow. -/
def Delimits (text : List Char) (ts : List Token) : Prop :=
  ∀ done, text.foldlM Scan.step (.between, done) = some (.between, ts.reverse ++ done)

variable {text other : List Char} {ts us : List Token} {c : Char}

/-- What ends a word is taken up with the word that it ends. -/
lemma Reads.step {s : Scan × List Token} {done : List Token} (h : Reads s done)
    (hc : endsWord c = true) : Scan.step s c = some (Scan.start c done) := by
  cases h with
  | between => rfl
  | word hword =>
      have hends : (isSpace c || c == '"' || (punctuation? c).isSome) = true := hc
      rw [Scan.step, if_pos hends, hword, Option.map_some]

lemma Reads.finish {s : Scan × List Token} {done : List Token} (h : Reads s done) :
    Scan.finish s = some done.reverse := by
  cases h with
  | between => rfl
  | word hword => rw [Scan.finish, hword, Option.map_some]

namespace Delimits

lemma nil : Delimits [] [] := fun _ => rfl

lemma append (h : Delimits text ts) (h' : Delimits other us) :
    Delimits (text ++ other) (ts ++ us) := by
  intro done
  rw [List.foldlM_append, h done, Option.bind_eq_bind, Option.bind_some, h', List.reverse_append,
    List.append_assoc]

lemma append_scans (h : Delimits text ts) (h' : Scans other us) :
    Scans (text ++ other) (ts ++ us) := by
  intro done
  obtain ⟨s, hs, hreads⟩ := h' (ts.reverse ++ done)
  refine ⟨s, ?_, ?_⟩
  · rw [List.foldlM_append, h done, Option.bind_eq_bind, Option.bind_some, hs]
  · rwa [List.reverse_append, List.append_assoc]

lemma scans (h : Delimits text ts) : Scans text ts :=
  fun done => ⟨_, h done, .between _⟩

end Delimits

namespace Scans

/-- A blank or a punctuation mark ends a word, and is a token or none. -/
lemma append_char (h : Scans text ts) (hc : endsWord c = true)
    (hstart : ∀ done, Scan.start c done = (.between, us.reverse ++ done)) :
    Delimits (text ++ [c]) (ts ++ us) := by
  intro done
  obtain ⟨s, hs, hreads⟩ := h done
  rw [List.foldlM_append, hs, Option.bind_eq_bind, Option.bind_some, List.foldlM_cons,
    hreads.step hc, Option.bind_eq_bind, Option.bind_some, List.foldlM_nil, hstart,
    List.reverse_append, List.append_assoc]
  rfl

/-- Blanks behind a text make no tokens, so texts may be indented. -/
lemma append_blanks (h : Scans text ts) {blanks : List Char}
    (hblanks : ∀ c ∈ blanks, isSpace c = true) : Scans (text ++ blanks) ts := by
  induction blanks generalizing text with
  | nil => rwa [List.append_nil]
  | cons c blanks ih =>
      have hspace := hblanks c (List.mem_cons_self ..)
      have hends : endsWord c = true := by rw [endsWord, hspace, Bool.true_or, Bool.true_or]
      have hfirst : Delimits (text ++ [c]) (ts ++ []) :=
        h.append_char hends fun done => by rw [Scan.start, if_pos hspace]; rfl
      rw [List.append_nil] at hfirst
      rw [List.append_cons]
      exact ih hfirst.scans fun d hd => hblanks d (List.mem_cons_of_mem _ hd)

/-- A text is cut into its tokens: at the end of all text the last word is over. -/
lemma tokens_eq (h : Scans text ts) : tokens text = some ts := by
  obtain ⟨s, hs, hreads⟩ := h []
  rw [tokens, hs, Option.bind_some, hreads.finish, List.append_nil, List.reverse_reverse]

end Scans

lemma delimits_blanks {blanks : List Char} (h : ∀ c ∈ blanks, isSpace c = true) :
    Delimits blanks [] := by
  induction blanks with
  | nil => exact .nil
  | cons c blanks ih =>
      intro done
      rw [List.foldlM_cons]
      show (Option.some (Scan.start c done)).bind _ = _
      rw [Option.bind_some, Scan.start, if_pos (h c (List.mem_cons_self ..))]
      exact ih (fun d hd => h d (List.mem_cons_of_mem _ hd)) done

lemma delimits_char (hc : endsWord c = true)
    (hstart : ∀ done, Scan.start c done = (.between, us.reverse ++ done)) : Delimits [c] us :=
  Delimits.nil.scans.append_char hc hstart

/-- A word that can be read is one token. -/
lemma scans_word {value : Scalar} (h : readWord text = some value) :
    Scans text [.scalar value] := by
  obtain ⟨hne, hinside⟩ := not_endsWord_of_readWord h
  have hgo : ∀ (collected : List Char) (rest : List Char) (done : List Token),
      (∀ c ∈ rest, endsWord c = false) →
      rest.foldlM Scan.step (.word collected, done) =
        some (.word (rest.reverse ++ collected), done) := by
    intro collected rest done hrest
    induction rest generalizing collected with
    | nil => rfl
    | cons c rest ih =>
        have hc : (isSpace c || c == '"' || (punctuation? c).isSome) = false :=
          hrest c (List.mem_cons_self ..)
        rw [List.foldlM_cons, Scan.step, hc, if_neg Bool.false_ne_true, Option.bind_eq_bind,
          Option.bind_some, ih _ fun d hd => hrest d (List.mem_cons_of_mem _ hd),
          List.reverse_cons, List.append_assoc]
        rfl
  intro done
  obtain ⟨c, rest, rfl⟩ := List.exists_cons_of_ne_nil hne
  have hc := hinside c (List.mem_cons_self ..)
  simp only [endsWord, Bool.or_eq_false_iff, Option.isSome_eq_false_iff, Option.isNone_iff_eq_none]
    at hc
  have hstart : Scan.start c done = (.word [c], done) := by
    simp [Scan.start, hc]
  refine ⟨(.word (c :: rest).reverse, done), ?_, .word (by rwa [List.reverse_reverse])⟩
  rw [List.foldlM_cons]
  show (Option.some (Scan.start c done)).bind _ = _
  rw [hstart, Option.bind_some, hgo [c] rest done fun d hd => hinside d (List.mem_cons_of_mem _ hd),
    List.reverse_cons]

/-! ## Strings -/

lemma hexDigit?_digitChar : ∀ d < 16, hexDigit? (Nat.digitChar d) = some d := by
  decide

/-- Four digits are collected into a code point, digit by digit. -/
lemma foldlM_fourHexDigits {code : Nat} (h : code < 65536) (units : List Nat)
    (done : List Token) :
    (fourHexDigits code).foldlM Scan.step (.code units 0 4, done) =
      some (.string (code :: units), done) := by
  have hdigit : ∀ n, hexDigit? (Nat.digitChar (n % 16)) = some (n % 16) := fun n =>
    hexDigit?_digitChar (n % 16) (Nat.mod_lt n (by decide))
  have hfirst : hexDigit? (Nat.digitChar (code / 4096)) = some (code / 4096) :=
    hexDigit?_digitChar (code / 4096) (by omega)
  have hvalue : 16 * (16 * (16 * (code / 4096) + code / 256 % 16) + code / 16 % 16) + code % 16 =
      code := by omega
  simp [fourHexDigits, Scan.step, hfirst, hdigit, hvalue]

/-- What is written for a character is collected as its code point, whether it was escaped or
not. -/
lemma foldlM_escaped (c : Char) (units : List Nat) (done : List Token) :
    (escaped c).foldlM Scan.step (.string units, done) =
      some (.string (c.toNat :: units), done) := by
  unfold escaped
  split_ifs with hquote hslash hback hfeed hline hreturn htab hcontrol
  · subst hquote; rfl
  · subst hslash; rfl
  · subst hback; rfl
  · subst hfeed; rfl
  · subst hline; rfl
  · subst hreturn; rfl
  · subst htab; rfl
  · rw [List.foldlM_append]
    exact foldlM_fourHexDigits (by omega) units done
  · simp [Scan.step, hquote, hslash, hcontrol]

lemma foldlM_flatMap_escaped (text : List Char) (units : List Nat) (done : List Token) :
    (text.flatMap escaped).foldlM Scan.step (.string units, done) =
      some (.string ((text.map Char.toNat).reverse ++ units), done) := by
  induction text generalizing units with
  | nil => rfl
  | cons c text ih =>
      rw [List.flatMap_cons, List.foldlM_append, foldlM_escaped, Option.bind_eq_bind,
        Option.bind_some, ih, List.map_cons, List.reverse_cons, List.append_assoc]
      rfl

/-- No code point is half of a surrogate pair, so the text of a string is what was written. -/
lemma joinUnits_map_toNat (text : List Char) : joinUnits (text.map Char.toNat) = some text := by
  have hwhole : ∀ c : Char, isHighSurrogate c.toNat = false ∧ isLowSurrogate c.toNat = false := by
    intro c
    have hvalid : c.toNat < 0xD800 ∨ 0xDFFF < c.toNat ∧ c.toNat < 0x110000 := c.valid
    simp only [isHighSurrogate, isLowSurrogate, Bool.and_eq_false_iff, decide_eq_false_iff_not]
    omega
  induction text with
  | nil => rfl
  | cons c text ih =>
      obtain ⟨hhigh, hlow⟩ := hwhole c
      cases text with
      | nil => simp [joinUnits, hhigh, hlow]
      | cons d text =>
          rw [List.map_cons, List.map_cons, joinUnits, hhigh, hlow, if_neg Bool.false_ne_true,
            if_neg Bool.false_ne_true, ← List.map_cons, ih, Option.map_some, Char.ofNat_toNat]

/-- A text between quotes is one token, which the closing quote ends. -/
lemma delimits_writeText (text : String) :
    Delimits (writeText text).toList [.scalar (.string (some text))] := by
  intro done
  rw [writeText, String.toList_ofList, List.cons_append, List.foldlM_cons]
  show List.foldlM Scan.step (.string [], done) _ = _
  rw [List.foldlM_append, foldlM_flatMap_escaped, Option.bind_eq_bind, Option.bind_some,
    List.append_nil]
  show some (Scan.between, Token.scalar (.string
    ((joinUnits (text.toList.map Char.toNat).reverse.reverse).map String.ofList)) :: done) = _
  rw [List.reverse_reverse, joinUnits_map_toNat, Option.map_some, String.ofList_toList]
  rfl

/-- Half of a surrogate pair is a literal, though it is no text. -/
lemma delimits_writeLiteral (literal : Literal) :
    Delimits (writeLiteral literal).toList [.scalar (.string literal)] := by
  cases literal with
  | none => exact fun done => rfl
  | some text => exact delimits_writeText text

/-! ## Scalars -/

/-- The scalar is what its text is read as: the text of a number with a fraction or an exponent is
one.  Values that were read have this, and others may not. -/
def Scalar.Readable : Scalar → Prop
  | .decimal text => readWord text.toList = some (.decimal text)
  | .null | .bool _ | .integer _ | .string _ => True

/-- A scalar is one token, whichever kind it has and whatever follows it. -/
lemma scans_writeScalar {value : Scalar} (h : value.Readable) :
    Scans (writeScalar value).toList [.scalar value] := by
  cases value with
  | null => exact scans_word rfl
  | bool value => cases value <;> exact scans_word rfl
  | integer value => exact scans_word (readWord_toString value)
  | decimal text => exact scans_word h
  | string literal => exact (delimits_writeLiteral literal).scans

/-! ## Values -/

/-- The tokens make the value, whatever containers are open around it, and leave those as they
were. -/
def Builds (ts : List Token) (v : Value) : Prop :=
  ∀ opened frames, ts.foldlM State.step (.value opened frames) = some (.deliver v frames)

/-- The tokens make a member of an object. -/
def BuildsMember (ts : List Token) (m : Literal × Value) : Prop :=
  ∃ us, ts = .scalar (.string m.1) :: .colon :: us ∧ Builds us m.2

lemma builds_scalar (value : Scalar) : Builds [.scalar value] (.scalar value) :=
  fun _ _ => rfl

/-- Items with commas between them fill an array, in their order. -/
lemma foldlM_items {t : List Token} {tss : List (List Token)} {v : Value} {items : List Value}
    (h : Builds t v) (hrest : List.Forall₂ Builds tss items) (opened : Bool)
    (before : List Value) (frames : List Frame) :
    ([Token.comma].intercalate (t :: tss)).foldlM State.step
        (.value opened (.array before :: frames)) =
      some (.afterItem ((v :: items).reverse ++ before) frames) := by
  induction hrest generalizing t v opened before with
  | nil =>
      rw [List.intercalate_singleton, h]
      rfl
  | @cons u w tss items hu hrest ih =>
      rw [List.intercalate_cons_cons, List.append_assoc, List.foldlM_append, h,
        Option.bind_eq_bind, Option.bind_some, List.foldlM_append]
      show List.foldlM State.step (.value false (.array (v :: before) :: frames)) _ = _
      rw [ih hu]
      simp

lemma builds_array {tss : List (List Token)} {items : List Value}
    (h : List.Forall₂ Builds tss items) :
    Builds (.openArray :: [Token.comma].intercalate tss ++ [.closeArray]) (.array items) := by
  intro opened frames
  rw [List.cons_append, List.foldlM_cons]
  show List.foldlM State.step (.value true (.array [] :: frames)) _ = _
  cases h with
  | nil => rfl
  | cons hfirst hrest =>
      rw [List.foldlM_append, foldlM_items hfirst hrest, Option.bind_eq_bind, Option.bind_some,
        List.append_nil]
      show some (State.deliver (.array (List.reverse _).reverse) frames) = _
      rw [List.reverse_reverse]

/-- Members with commas between them fill an object, in their order and each with its name. -/
lemma foldlM_members {t : List Token} {tss : List (List Token)} {m : Literal × Value}
    {members : List (Literal × Value)} (h : BuildsMember t m)
    (hrest : List.Forall₂ BuildsMember tss members) (opened : Bool)
    (before : List (Literal × Value)) (frames : List Frame) :
    ([Token.comma].intercalate (t :: tss)).foldlM State.step (.key opened before frames) =
      some (.afterMember ((m :: members).reverse ++ before) frames) := by
  induction hrest generalizing t m opened before with
  | nil =>
      obtain ⟨us, rfl, hvalue⟩ := h
      rw [List.intercalate_singleton, List.foldlM_cons]
      show List.foldlM State.step (.value false (.object before m.1 :: frames)) _ = _
      rw [hvalue]
      rfl
  | @cons u n tss members hu hrest ih =>
      obtain ⟨us, rfl, hvalue⟩ := h
      rw [List.intercalate_cons_cons, List.append_assoc, List.cons_append, List.foldlM_cons]
      show List.foldlM State.step (.value false (.object before m.1 :: frames)) (us ++ _) = _
      rw [List.foldlM_append, hvalue, Option.bind_eq_bind, Option.bind_some, List.foldlM_append]
      show List.foldlM State.step (.key false (m :: before) frames) _ = _
      rw [ih hu]
      simp

lemma builds_object {tss : List (List Token)} {members : List (Literal × Value)}
    (h : List.Forall₂ BuildsMember tss members) :
    Builds (.openObject :: [Token.comma].intercalate tss ++ [.closeObject]) (.object members) := by
  intro opened frames
  rw [List.cons_append, List.foldlM_cons]
  show List.foldlM State.step (.key true [] frames) _ = _
  cases h with
  | nil => rfl
  | cons hfirst hrest =>
      rw [List.foldlM_append, foldlM_members hfirst hrest, Option.bind_eq_bind, Option.bind_some,
        List.append_nil]
      show some (State.deliver (.object (List.reverse _).reverse) frames) = _
      rw [List.reverse_reverse]

/-! ## Texts -/

/-- The text is cut into tokens that make the value, wherever both stand. -/
def Spells (text : List Char) (v : Value) : Prop := ∃ ts, Scans text ts ∧ Builds ts v

/-- The text is cut into tokens that make the member of an object. -/
def SpellsMember (text : List Char) (m : Literal × Value) : Prop :=
  ∃ ts, Scans text ts ∧ BuildsMember ts m

lemma read_of_spells {text : String} {v : Value} (h : Spells text.toList v) :
    read text = some v := by
  obtain ⟨ts, hscans, hbuilds⟩ := h
  rw [read, hscans.tokens_eq, Option.bind_some, assemble, hbuilds, Option.bind_some]
  rfl

/-- Blanks in front of a text do not count. -/
lemma Spells.behind_blanks {v : Value} {blanks : List Char} (h : Spells text v)
    (hblanks : ∀ c ∈ blanks, isSpace c = true) : Spells (blanks ++ text) v := by
  obtain ⟨ts, hscans, hbuilds⟩ := h
  exact ⟨ts, (delimits_blanks hblanks).append_scans hscans, hbuilds⟩

lemma SpellsMember.behind_blanks {m : Literal × Value} {blanks : List Char}
    (h : SpellsMember text m) (hblanks : ∀ c ∈ blanks, isSpace c = true) :
    SpellsMember (blanks ++ text) m := by
  obtain ⟨ts, hscans, hbuilds⟩ := h
  exact ⟨ts, (delimits_blanks hblanks).append_scans hscans, hbuilds⟩

/-- A key and a value with a colon between them, and perhaps blanks behind it. -/
lemma Spells.member {v : Value} {blanks : List Char} (h : Spells text v)
    (hblanks : ∀ c ∈ blanks, isSpace c = true) (key : Literal) :
    SpellsMember ((writeLiteral key).toList ++ ':' :: blanks ++ text) (key, v) := by
  obtain ⟨ts, hscans, hbuilds⟩ := h
  have hkey : Delimits ((writeLiteral key).toList ++ [':'])
      ([.scalar (.string key)] ++ [.colon]) :=
    (delimits_writeLiteral key).scans.append_char rfl fun _ => rfl
  refine ⟨.scalar (.string key) :: .colon :: ts, ?_, ts, rfl, hbuilds⟩
  rw [List.append_cons]
  exact (hkey.append (delimits_blanks hblanks)).append_scans hscans

/-- Texts with commas between them, and perhaps blanks behind these. -/
lemma scans_intercalate {blanks : List Char} (hblanks : ∀ c ∈ blanks, isSpace c = true)
    {parts : List (List Char)} {tss : List (List Token)} (h : List.Forall₂ Scans parts tss) :
    Scans ((',' :: blanks).intercalate parts) ([Token.comma].intercalate tss) := by
  induction h with
  | nil => exact Delimits.nil.scans
  | @cons part ts parts tss hpart hparts ih =>
      cases hparts with
      | nil => rwa [List.intercalate_singleton, List.intercalate_singleton]
      | cons _ _ =>
          rw [List.intercalate_cons_cons, List.intercalate_cons_cons, List.append_cons]
          have hcomma : Delimits (part ++ [','] ++ blanks) (ts ++ [Token.comma] ++ []) :=
            (hpart.append_char rfl fun _ => rfl).append (delimits_blanks hblanks)
          rw [List.append_nil] at hcomma
          exact hcomma.append_scans ih

/-- Texts between brackets, and perhaps blanks at both ends. -/
lemma scans_enclosed {inner : List Char} {left right : Char} {opening closing : Token}
    (hleft : ∀ done, Scan.start left done = (.between, [opening].reverse ++ done))
    (hright : ∀ done, Scan.start right done = (.between, [closing].reverse ++ done))
    (hends : endsWord left = true ∧ endsWord right = true) {before after : List Char}
    (hbefore : ∀ c ∈ before, isSpace c = true) (hafter : ∀ c ∈ after, isSpace c = true)
    (h : Scans inner ts) :
    Scans (left :: before ++ inner ++ after ++ [right]) (opening :: ts ++ [closing]) := by
  have hopen : Delimits ([left] ++ before) ([opening] ++ []) :=
    (delimits_char hends.1 hleft).append (delimits_blanks hbefore)
  exact (((hopen.append_scans h).append_blanks hafter).append_char hends.2 hright).scans

/-- What is cut into tokens part by part is cut into the tokens of the parts. -/
lemma exists_tokens {α : Type} {builds : List Token → α → Prop} {parts : List (List Char)}
    {xs : List α}
    (h : List.Forall₂ (fun part x => ∃ ts, Scans part ts ∧ builds ts x) parts xs) :
    ∃ tss, List.Forall₂ Scans parts tss ∧ List.Forall₂ builds tss xs := by
  induction h with
  | nil => exact ⟨[], .nil, .nil⟩
  | cons hpart _ ih =>
      obtain ⟨ts, hscans, hbuilds⟩ := hpart
      obtain ⟨tss, hall, hall'⟩ := ih
      exact ⟨ts :: tss, .cons hscans hall, .cons hbuilds hall'⟩

section Containers

variable {before between after : List Char} (hbefore : ∀ c ∈ before, isSpace c = true)
  (hbetween : ∀ c ∈ between, isSpace c = true) (hafter : ∀ c ∈ after, isSpace c = true)

include hbefore hbetween hafter

lemma spells_array {parts : List (List Char)} {items : List Value}
    (h : List.Forall₂ Spells parts items) :
    Spells ('[' :: before ++ (',' :: between).intercalate parts ++ after ++ [']'])
      (.array items) := by
  obtain ⟨tss, hscans, hbuilds⟩ := exists_tokens h
  exact ⟨_, scans_enclosed (fun _ => rfl) (fun _ => rfl) ⟨rfl, rfl⟩ hbefore hafter
    (scans_intercalate hbetween hscans), builds_array hbuilds⟩

lemma spells_object {parts : List (List Char)} {members : List (Literal × Value)}
    (h : List.Forall₂ SpellsMember parts members) :
    Spells ('\x7b' :: before ++ (',' :: between).intercalate parts ++ after ++ ['\x7d'])
      (.object members) := by
  obtain ⟨tss, hscans, hbuilds⟩ := exists_tokens h
  exact ⟨_, scans_enclosed (fun _ => rfl) (fun _ => rfl) ⟨rfl, rfl⟩ hbefore hafter
    (scans_intercalate hbetween hscans), builds_object hbuilds⟩

end Containers

/-! ## Writing -/

/-- All scalars in the value are what their texts are read as. -/
inductive Value.Readable : Value → Prop where
  | scalar {value : Scalar} (h : value.Readable) : Readable (.scalar value)
  | array {items : List Value} (h : ∀ item ∈ items, Readable item) : Readable (.array items)
  | object {members : List (Literal × Value)} (h : ∀ m ∈ members, Readable m.2) :
    Readable (.object members)

lemma writeItems_eq (items : List Value) : writeItems items = items.map write := by
  induction items with
  | nil => rfl
  | cons item items ih => rw [writeItems, ih, List.map_cons]

lemma writeMembers_eq (members : List (Literal × Value)) :
    writeMembers members = members.map fun m => writeLiteral m.1 ++ ":" ++ write m.2 := by
  induction members with
  | nil => rfl
  | cons m members ih => rw [writeMembers, ih, List.map_cons]

/-- The shortest text spells the value, by induction on the value. -/
lemma spells_write {v : Value} (h : v.Readable) : Spells (write v).toList v := by
  induction h with
  | scalar h => exact ⟨_, scans_writeScalar h, builds_scalar _⟩
  | @array items h ih =>
      have hparts : List.Forall₂ Spells ((writeItems items).map String.toList) items := by
        rw [writeItems_eq, List.map_map, List.forall₂_map_left_iff]
        exact List.forall₂_same.2 ih
      have hnone : ∀ c ∈ ([] : List Char), isSpace c = true := nofun
      have hspells := spells_array hnone hnone hnone hparts
      rw [write]
      simpa [String.toList_intercalate] using hspells
  | @object members h ih =>
      have hnone : ∀ c ∈ ([] : List Char), isSpace c = true := nofun
      have hparts : List.Forall₂ SpellsMember ((writeMembers members).map String.toList)
          members := by
        rw [writeMembers_eq, List.map_map, List.forall₂_map_left_iff]
        refine List.forall₂_same.2 fun m hm => ?_
        simpa using (ih m hm).member hnone m.1
      have hspells := spells_object hnone hnone hnone hparts
      rw [write]
      simpa [String.toList_intercalate] using hspells

/-- **What is written is read back**, for every value that could have been read. -/
theorem read_write {v : Value} (h : v.Readable) : read (write v) = some v :=
  read_of_spells (spells_write h)

/-! ## Indented writing -/

lemma prettyItems_eq (depth : ℕ) (items : List Value) :
    prettyItems depth items = items.map (writePrettyAt depth) := by
  induction items with
  | nil => rfl
  | cons item items ih => rw [prettyItems, ih, List.map_cons]

lemma prettyMembers_eq (depth : ℕ) (members : List (Literal × Value)) :
    prettyMembers depth members =
      members.map fun m => writeLiteral m.1 ++ ": " ++ writePrettyAt depth m.2 := by
  induction members with
  | nil => rfl
  | cons m members ih => rw [prettyMembers, ih, List.map_cons]

/-- A block has blanks behind its left bracket, behind each comma, in front of each part and in
front of its right bracket, and these are all it has beside its parts. -/
lemma exists_toList_writeBlock (left right : String) (depth : ℕ) (parts : List String) :
    ∃ before between margin after : List Char,
      (∀ c ∈ before, isSpace c = true) ∧ (∀ c ∈ between, isSpace c = true) ∧
      (∀ c ∈ margin, isSpace c = true) ∧ (∀ c ∈ after, isSpace c = true) ∧
      (writeBlock left right depth parts).toList =
        left.toList ++ before ++
          (',' :: between).intercalate ((parts.map String.toList).map (margin ++ ·)) ++ after ++
          right.toList := by
  have hline : ∀ c ∈ ['\n'], isSpace c = true := List.forall_mem_singleton.2 rfl
  have hmargin : ∀ n, ∀ c ∈ List.replicate n ' ', isSpace c = true := by
    intro n c hc
    rw [List.eq_of_mem_replicate hc]
    rfl
  by_cases hparts : parts = []
  · refine ⟨[], [], [], [], nofun, nofun, nofun, nofun, ?_⟩
    subst hparts
    simp [writeBlock]
  · refine ⟨['\n'], ['\n'], List.replicate (2 * (depth + 1)) ' ',
      '\n' :: List.replicate (2 * depth) ' ', hline, hline, hmargin _,
      List.forall_mem_cons.2 ⟨rfl, hmargin _⟩, ?_⟩
    simp [writeBlock, hparts, String.toList_intercalate, Function.comp_def]

/-- The indented text spells the value, at every depth: the margin is made of blanks. -/
lemma spells_writePrettyAt {v : Value} (h : v.Readable) (depth : ℕ) :
    Spells (writePrettyAt depth v).toList v := by
  induction h generalizing depth with
  | scalar h =>
      rw [writePrettyAt]
      exact ⟨_, scans_writeScalar h, builds_scalar _⟩
  | @array items h ih =>
      obtain ⟨before, between, margin, after, hbefore, hbetween, hmargin, hafter, htext⟩ :=
        exists_toList_writeBlock "[" "]" depth (prettyItems (depth + 1) items)
      rw [writePrettyAt, htext]
      refine spells_array hbefore hbetween hafter ?_
      rw [prettyItems_eq, List.map_map, List.map_map, List.forall₂_map_left_iff]
      exact List.forall₂_same.2 fun item hitem => (ih item hitem _).behind_blanks hmargin
  | @object members h ih =>
      obtain ⟨before, between, margin, after, hbefore, hbetween, hmargin, hafter, htext⟩ :=
        exists_toList_writeBlock "\x7b" "\x7d" depth (prettyMembers (depth + 1) members)
      have hspace : ∀ c ∈ [' '], isSpace c = true := List.forall_mem_singleton.2 rfl
      rw [writePrettyAt, htext]
      refine spells_object hbefore hbetween hafter ?_
      rw [prettyMembers_eq, List.map_map, List.map_map, List.forall₂_map_left_iff]
      refine List.forall₂_same.2 fun m hm => SpellsMember.behind_blanks ?_ hmargin
      simpa using (ih m hm (depth + 1)).member hspace m.1

/-- **What is written with indentation is read back**, as the same value as without. -/
theorem read_writePretty {v : Value} (h : v.Readable) : read (writePretty v) = some v :=
  read_of_spells (spells_writePrettyAt h 0)

end FrameworkBindings.Json
