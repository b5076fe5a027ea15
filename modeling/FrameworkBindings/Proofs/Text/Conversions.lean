import FrameworkBindings.Identifier
import FrameworkBindings.Proofs.Text.Casing

/-!
# Converted names

An identifier is made of a name in three steps: the name is sanitized, its first letter goes through
a case map, and what would be a keyword is changed.  The steps get on with each other: sanitizing
makes no keyword, a changed keyword is none, and neither of them touches a first letter that the
case map leaves alone.  So a name that is converted twice is one that is converted and then
sanitized (`recased_recased`), and this changes it just if the case map has put a combining mark
into it.

* `IsClean` — what sanitizing leaves alone.
* `head_recased` — what a converted name begins with.
* **`isLower_head_exported`, `isUpper_head_unexported`** — an exported name does not begin with a
  small letter of ASCII, whatever it is made from, and an unexported one not with a capital.
* **`converted_twice_iff`** — which names are converted for good.

**Why twice.**  Names are converted where they are needed, and it happens that a name has been
converted before.  For most names this does no harm.  The exception is a first letter that has no
capital of its own, such as `ǰ`: its capital is written with a combining mark, which is no word
character and becomes `_` the next time.  The condition is on the first letter only, and the letters
it excludes are the finitely many that the tables of the case maps show.
-/

namespace FrameworkBindings.Identifier

open Text

/-! ## Sanitizing -/

/-- What stands for a character in an identifier: itself, or `_`. -/
def keptChar (c : Char) : Char := if isWordChar c then c else '_'

lemma toList_sanitize (name : String) :
    (sanitize name).toList = guardDigit (name.toList.map keptChar) := by
  rw [sanitize, String.toList_ofList]
  rfl

lemma keptChar_of_isWordChar {c : Char} (h : isWordChar c = true) : keptChar c = c := if_pos h

lemma map_keptChar {text : List Char} (h : ∀ c ∈ text, isWordChar c = true) :
    text.map keptChar = text := by
  rw [List.map_congr_left fun c hc => keptChar_of_isWordChar (h c hc), List.map_id']

lemma isWordChar_keptChar (c : Char) : isWordChar (keptChar c) = true := by
  rw [keptChar]
  split
  · assumption
  · exact isWordChar_underscore

lemma guardDigit_eq (text : List Char) :
    guardDigit text = text ∨ guardDigit text = '_' :: text := by
  cases text with
  | nil => exact .inl rfl
  | cons c rest =>
      rw [guardDigit]
      split
      · exact .inr rfl
      · exact .inl rfl

lemma guardDigit_of_head {text : List Char} (h : ∀ c ∈ text.head?, c.isDigit = false) :
    guardDigit text = text := by
  cases text with
  | nil => rfl
  | cons c rest => rw [guardDigit, if_neg (by simp [h c rfl])]

lemma isDigit_head_guardDigit (text : List Char) :
    ∀ c ∈ (guardDigit text).head?, c.isDigit = false := by
  cases text with
  | nil => simp [guardDigit]
  | cons first rest =>
      rw [guardDigit]
      split
      · rintro c ⟨⟩
        decide
      · rename_i hdigit
        rintro c ⟨⟩
        exact Bool.eq_false_iff.2 hdigit

/-- A name that is made of word characters and not led by a digit, as identifiers of Go are. -/
structure IsClean (name : String) : Prop where
  wordChars : ∀ c ∈ name.toList, isWordChar c = true
  noDigit : ∀ c ∈ name.toList.head?, c.isDigit = false

/-- Sanitizing makes a name clean, whatever characters it had. -/
lemma isClean_sanitize (name : String) : IsClean (sanitize name) := by
  rw [← String.ofList_toList (s := sanitize name), toList_sanitize]
  refine ⟨fun c hc => ?_, ?_⟩
  · rw [String.toList_ofList] at hc
    have hkept : ∀ c ∈ name.toList.map keptChar, isWordChar c = true :=
      List.forall_mem_map.2 fun c _ => isWordChar_keptChar c
    rcases guardDigit_eq (name.toList.map keptChar) with hsame | hled
    · exact hkept c (hsame ▸ hc)
    · rw [hled] at hc
      rcases List.mem_cons.1 hc with rfl | hc
      · exact isWordChar_underscore
      · exact hkept c hc
  · rw [String.toList_ofList]
    exact isDigit_head_guardDigit _

/-- Behind a first character that it leaves alone, sanitizing goes character by character. -/
lemma sanitize_of_head {name : String} {first : Char} {rest : List Char}
    (h : name.toList = first :: rest) (hword : isWordChar first = true)
    (hdigit : first.isDigit = false) :
    sanitize name = String.ofList (first :: rest.map keptChar) := by
  rw [← String.ofList_toList (s := sanitize name), toList_sanitize, h, List.map_cons,
    keptChar_of_isWordChar hword, guardDigit_of_head (by simp [hdigit])]

/-- What a sanitized name begins with, by the first character of the name: an underscore is put in
front of a digit. -/
def leading (c : Char) : Char := if c.isDigit then '_' else keptChar c

lemma head_sanitize (name : String) :
    (sanitize name).toList.head? = name.toList.head?.map leading := by
  rw [toList_sanitize]
  cases name.toList with
  | nil => rfl
  | cons c rest =>
      rw [List.map_cons, guardDigit, List.head?_cons, Option.map_some, leading]
      by_cases hdigit : c.isDigit = true
      · have hword : isWordChar c = true := by
          simp [isWordChar, isAlphanumeric_of_isAlphanum, Char.isAlphanum, hdigit]
        rw [keptChar_of_isWordChar hword, if_pos hdigit, if_pos hdigit]
        rfl
      · have hkept : (keptChar c).isDigit = false := by
          rw [keptChar]
          split
          · exact Bool.eq_false_iff.2 hdigit
          · decide
        rw [if_neg (by simp [hkept]), if_neg hdigit]
        rfl

lemma exists_sanitize {name : String} (hne : name ≠ "") :
    ∃ letter rest, (sanitize name).toList = letter :: rest := by
  obtain ⟨c, more, hname⟩ := List.exists_cons_of_ne_nil (mt String.toList_eq_nil_iff.1 hne)
  have hhead := head_sanitize name
  rw [hname] at hhead
  exact ⟨leading c, List.head?_eq_some_iff.1 hhead⟩

/-- **What is clean stays as it is**, and nothing else does. -/
lemma sanitize_eq_self_iff {name : String} : sanitize name = name ↔ IsClean name := by
  refine ⟨fun h => h ▸ isClean_sanitize name, fun h => ?_⟩
  rw [← String.toList_inj, toList_sanitize, map_keptChar h.wordChars, guardDigit_of_head h.noDigit]

/-- A name is sanitized already, or sanitizing puts an underscore into it. -/
lemma sanitize_eq_or_mem (name : String) : sanitize name = name ∨ '_' ∈ (sanitize name).toList := by
  rw [← String.toList_inj, toList_sanitize]
  by_cases h : ∀ c ∈ name.toList, isWordChar c = true
  · rw [map_keptChar h]
    refine (guardDigit_eq name.toList).imp id fun hled => ?_
    rw [hled]
    exact List.mem_cons_self
  · push Not at h
    obtain ⟨c, hc, hword⟩ := h
    have hmark : '_' ∈ name.toList.map keptChar := List.mem_map.2 ⟨c, hc, if_neg hword⟩
    right
    rcases guardDigit_eq (name.toList.map keptChar) with hsame | hled
    · rwa [hsame]
    · rw [hled]
      exact List.mem_cons_self

/-! ## Keywords -/

/-- The keywords are clean words without an underscore, which is how they are told from what
sanitizing and avoiding put one into. -/
lemma keywords_table : ∀ word ∈ keywords, '_' ∉ word.toList ∧ isAsciiWord word.toList = true ∧
    ∀ c ∈ word.toList.head?, c.isDigit = false := by
  decide +kernel

/-- What a keyword is changed to is no keyword, begins with the same letter and is a word, too. -/
lemma avoided_table : ∀ word ∈ keywords, avoidKeyword word ∉ keywords ∧
    (avoidKeyword word).toList.head? = word.toList.head? ∧
      isAsciiWord (avoidKeyword word).toList = true := by
  decide +kernel

lemma isClean_of_mem_keywords {word : String} (h : word ∈ keywords) : IsClean word :=
  have htable := keywords_table word h
  ⟨isWordChar_of_isAsciiWord htable.2.1, htable.2.2⟩

/-- **Sanitizing neither makes a keyword nor undoes one**: it leaves keywords alone, and what it
changes has an underscore. -/
lemma sanitize_mem_keywords_iff {name : String} : sanitize name ∈ keywords ↔ name ∈ keywords := by
  constructor
  · intro h
    rcases sanitize_eq_or_mem name with hsame | hmark
    · rwa [hsame] at h
    · exact absurd hmark (keywords_table _ h).1
  · intro h
    rwa [sanitize_eq_self_iff.2 (isClean_of_mem_keywords h)]

lemma avoidKeyword_of_not_mem {name : String} (h : name ∉ keywords) : avoidKeyword name = name := by
  have hshortened : ∀ entry ∈ shortened, entry.1 ∈ keywords := by decide
  have hlookup : shortened.lookup name = none := List.lookup_eq_none_iff.2 fun entry hentry =>
    bne_iff_ne.2 fun hsame => h (hsame ▸ hshortened entry hentry)
  have hcontains : keywords.contains name = false := by simpa using h
  rw [avoidKeyword, hlookup, hcontains]
  rfl

/-- **A name that avoids the keywords is none of them.** -/
lemma avoidKeyword_not_mem (name : String) : avoidKeyword name ∉ keywords := by
  by_cases h : name ∈ keywords
  · exact (avoided_table name h).1
  · rwa [avoidKeyword_of_not_mem h]

lemma head_avoidKeyword (name : String) :
    (avoidKeyword name).toList.head? = name.toList.head? := by
  by_cases h : name ∈ keywords
  · exact (avoided_table name h).2.1
  · rw [avoidKeyword_of_not_mem h]

/-- Whether a name is made of word characters does not change when it avoids a keyword. -/
lemma wordChars_avoidKeyword_iff (name : String) :
    (∀ c ∈ (avoidKeyword name).toList, isWordChar c = true) ↔
      ∀ c ∈ name.toList, isWordChar c = true := by
  by_cases h : name ∈ keywords
  · exact iff_of_true (isWordChar_of_isAsciiWord (avoided_table name h).2.2)
      (isClean_of_mem_keywords h).wordChars
  · rw [avoidKeyword_of_not_mem h]

/-! ## Changing the first letter -/

variable {change : Char → List Char} {marked : List Nat} {name : String}

lemma recased_empty (change : Char → List Char) : recased change "" = "" :=
  avoidKeyword_of_not_mem (show "" ∉ keywords by decide)

/-- A converted name begins with what the first character of the sanitized name becomes; avoiding a
keyword changes only what comes behind. -/
lemma head?_recased {letter first : Char} {rest marks : List Char}
    (hsanitized : (sanitize name).toList = letter :: rest)
    (hchange : change letter = first :: marks) :
    (recased change name).toList.head? = some first := by
  rw [recased, head_avoidKeyword, String.toList_ofList, hsanitized, recase, hchange]
  rfl

/-- **What a converted name begins with is left alone** by the case map and by sanitizing. -/
lemma head_recased (h : Settles change) (name : String) :
    ∀ c ∈ (recased change name).toList.head?,
      change c = [c] ∧ isWordChar c = true ∧ c.isDigit = false := by
  intro c hc
  cases hsanitized : (sanitize name).toList with
  | nil =>
      rw [recased, head_avoidKeyword, hsanitized] at hc
      contradiction
  | cons letter rest =>
      obtain ⟨hwords, hletter⟩ := isClean_sanitize name
      rw [hsanitized] at hwords hletter
      obtain ⟨first, marks, hchange, hfirst, hword, hdigit⟩ := h letter
      rw [head?_recased hsanitized hchange] at hc
      obtain rfl := Option.some.inj hc
      refine ⟨hfirst, hword (hwords letter List.mem_cons_self), Bool.eq_false_iff.2 fun hnine => ?_⟩
      exact absurd (hdigit hnine) (Bool.eq_false_iff.1 (hletter letter rfl))

lemma recased_ne_empty (h : Settles change) (hne : name ≠ "") : recased change name ≠ "" := by
  obtain ⟨letter, rest, hsanitized⟩ := exists_sanitize hne
  obtain ⟨first, marks, hchange, -⟩ := h letter
  have hhead := head?_recased hsanitized hchange
  intro hempty
  rw [hempty] at hhead
  contradiction

/-- What has a name keeps one, though it may be another. -/
lemma unexported_ne_empty (hne : name ≠ "") : unexported name ≠ "" :=
  recased_ne_empty settles_lower hne

/-- **A name that is converted twice is one that is converted and then sanitized.** -/
lemma recased_recased (h : Settles change) (name : String) :
    recased change (recased change name) = sanitize (recased change name) := by
  cases hname : (recased change name).toList with
  | nil =>
      rw [String.toList_eq_nil_iff.1 hname]
      exact recased_empty change
  | cons first rest =>
      obtain ⟨hfirst, hword, hdigit⟩ := head_recased h name first (by simp [hname])
      have hsanitized := sanitize_of_head hname hword hdigit
      -- The case map has nothing to do, and there is no keyword that sanitizing could have made.
      have hrecase : recase change (sanitize (recased change name)).toList =
          (sanitize (recased change name)).toList := by
        rw [hsanitized, String.toList_ofList, recase, hfirst]
        rfl
      have hkeyword : sanitize (recased change name) ∉ keywords := by
        rw [sanitize_mem_keywords_iff]
        exact avoidKeyword_not_mem _
      rw [recased, hrecase, String.ofList_toList, avoidKeyword_of_not_mem hkeyword]

/-- A converted name stays as it is just if it is made of word characters. -/
lemma recased_recased_eq_iff (h : Settles change) (name : String) :
    recased change (recased change name) = recased change name ↔
      ∀ c ∈ (recased change name).toList, isWordChar c = true := by
  rw [recased_recased h, sanitize_eq_self_iff]
  exact ⟨IsClean.wordChars, fun hword => ⟨hword, fun c hc => (head_recased h name c hc).2.2⟩⟩

/-! ## Capitals and small letters -/

lemma isLower_of_upper_eq {c : Char} (h : upper c = [c]) : c.isLower = false := by
  rw [← Bool.not_eq_true]
  intro hlower
  have hletter : (c.isUpper || c.isLower || c.isDigit) = true := by simp [hlower]
  have hascii : c.toNat < 0x80 := toNat_lt_of_isAlphanum hletter
  have hnot := forall_ascii (P := (·.toUpper.isLower = false)) (by decide +kernel) hascii
  obtain ⟨hupper, -⟩ := List.cons.inj ((upper_eq_toUpper hascii).symm.trans h)
  rw [hupper, hlower] at hnot
  contradiction

lemma isUpper_of_lower_eq {c : Char} (h : lower c = [c]) : c.isUpper = false := by
  rw [← Bool.not_eq_true]
  intro hupper
  have hletter : (c.isUpper || c.isLower || c.isDigit) = true := by simp [hupper]
  have hascii : c.toNat < 0x80 := toNat_lt_of_isAlphanum hletter
  have hnot := forall_ascii (P := (·.toLower.isUpper = false)) (by decide +kernel) hascii
  obtain ⟨hlower, -⟩ := List.cons.inj ((lower_eq_toLower hascii).symm.trans h)
  rw [hlower, hupper] at hnot
  contradiction

/-- **An exported name does not begin with a small letter.** -/
theorem isLower_head_exported (name : String) :
    ∀ c ∈ (exported name).toList.head?, c.isLower = false := fun c hc =>
  isLower_of_upper_eq (head_recased settles_upper name c hc).1

/-- **An unexported name does not begin with a capital.** -/
theorem isUpper_head_unexported (name : String) :
    ∀ c ∈ (unexported name).toList.head?, c.isUpper = false := fun c hc =>
  isUpper_of_lower_eq (head_recased settles_lower name c hc).1

/-! ## Marks -/

/-- Names that begin with a marked letter keep it, and no others get one: sanitizing puts only an
underscore in front. -/
lemma leading_mem_iff (h : MarksOf change marked) (c : Char) :
    (leading c).toNat ∈ marked ↔ c.toNat ∈ marked := by
  by_cases hplain : leading c = c
  · rw [hplain]
  · have hunder : leading c = '_' := by
      grind [leading, keptChar]
    rw [hunder]
    refine iff_of_false (fun hmarked => ?_) fun hmarked => hplain ?_
    · exact absurd (h.letters '_' hmarked).2 (by decide)
    · obtain ⟨hword, hbeyond⟩ := h.letters c hmarked
      have hdigit : ¬ c.isDigit = true := fun hdigit => by
        have hnine : c.toNat ≤ 0x39 := (Char.isDigit_iff_toNat.1 hdigit).2
        omega
      rw [leading, if_neg hdigit, keptChar_of_isWordChar hword]

/-- **A converted name is made of word characters unless it begins with a letter whose image has a
mark.** -/
lemma wordChars_recased_iff (h : MarksOf change marked) (name : String) :
    (∀ c ∈ (recased change name).toList, isWordChar c = true) ↔
      ∀ c ∈ name.toList.head?, c.toNat ∉ marked := by
  have hclean := (isClean_sanitize name).wordChars
  have hhead := head_sanitize name
  rw [recased, wordChars_avoidKeyword_iff, String.toList_ofList]
  cases hsanitized : (sanitize name).toList with
  | nil =>
      rw [hsanitized, List.head?_nil, eq_comm, Option.map_eq_none_iff] at hhead
      simp [recase, hhead]
  | cons letter rest =>
      rw [hsanitized] at hclean hhead
      obtain ⟨c, hc, hletter⟩ := Option.map_eq_some_iff.1 hhead.symm
      obtain ⟨hword, hrest⟩ := List.forall_mem_cons.1 hclean
      calc (∀ d ∈ recase change (letter :: rest), isWordChar d = true)
          ↔ ∀ d ∈ change letter, isWordChar d = true := by
            rw [recase, List.forall_mem_append]
            exact and_iff_left hrest
        _ ↔ letter.toNat ∉ marked := h.isWordChar_iff letter hword
        _ ↔ c.toNat ∉ marked := by rw [← hletter, leading_mem_iff h]
        _ ↔ ∀ d ∈ name.toList.head?, d.toNat ∉ marked := by simp [hc]

/-! ## The main result -/

/-- **Which names are converted for good.**  A sanitized name stays as it is.  An exported name
stays as it is, and is made of characters that sanitizing keeps, unless the name begins with one of
`markedCapitals`; an unexported name does unless the name begins with one of `markedSmalls`. -/
theorem converted_twice_iff (name : String) :
    sanitize (sanitize name) = sanitize name ∧
    (exported (exported name) = exported name ↔
      ∀ c ∈ name.toList.head?, c.toNat ∉ markedCapitals) ∧
    ((∀ c ∈ (exported name).toList, isWordChar c = true) ↔
      ∀ c ∈ name.toList.head?, c.toNat ∉ markedCapitals) ∧
    (unexported (unexported name) = unexported name ↔
      ∀ c ∈ name.toList.head?, c.toNat ∉ markedSmalls) ∧
    ((∀ c ∈ (unexported name).toList, isWordChar c = true) ↔
      ∀ c ∈ name.toList.head?, c.toNat ∉ markedSmalls) := by
  have hexported := wordChars_recased_iff marksOf_upper name
  have hunexported := wordChars_recased_iff marksOf_lower name
  exact ⟨sanitize_eq_self_iff.2 (isClean_sanitize name),
    (recased_recased_eq_iff settles_upper name).trans hexported, hexported,
    (recased_recased_eq_iff settles_lower name).trans hunexported, hunexported⟩

/-- The capital of a letter may have a mark, which is replaced when the name is converted once more;
so may the small letter.  The two letters show that neither list is empty. -/
theorem converted_twice_differs :
    exported "ǰ" = "J\u030C" ∧ isWordChar '\u030C' = false ∧ exported "J\u030C" = "J_" ∧
      unexported "İ" = "i\u0307" ∧ isWordChar '\u0307' = false ∧ unexported "i\u0307" = "i_" := by
  decide +kernel

end FrameworkBindings.Identifier
