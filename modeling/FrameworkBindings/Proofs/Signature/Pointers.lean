import FrameworkBindings.Proofs.Signature.Cores
import FrameworkBindings.Proofs.Signature.Faults

/-!
# Pointers to any type

A star behind the text of a type makes the text of a pointer, and `const` in front of that makes the
text of a constant pointer, whatever the type is.  The type is given by its text alone, so that the
rules that go before the star have to be ruled out for every text.

**What goes before the star.**  A qualifier in front of the longer text is in front of the text
itself (`prefix_of_starred`), and few presets end in a star (`preset?_starred`).

**Readings.**  Otherwise the star is taken off first (`parse_starred`), and with `const` in front
the `const` is taken off before it (`parse_const_starred`).

**`ofText_const_pointer`** says how the two texts are read and how the types look on the Go side.
There a constant pointer is the pointer, and both are cast as what they point to, which is what
`NativeType.PointsTo` puts in one word.

**The conditions.**  They are on the text alone, and each is needed: a qualifier that is looked for
before the star would be taken off first and end up outside the pointer, and the four presets would
be read as wholes that mean something else.  That the text parses makes it balanced
(`balanced_of_parse`) and rules out `void` (`squeeze_ne_void`), so neither is asked for.
-/

namespace FrameworkBindings

/-- On the Go side the type is a pointer to the other one, with the casts of that.  The name has a
star in front; both casts are those of the element, whatever is cast. -/
structure NativeType.PointsTo (pointer elem : NativeType) : Prop where
  spelling : ∀ store, pointer.spelling store = (elem.spelling store).after "*"
  toNative : ∀ store expression, pointer.toNative store expression = elem.toNative store expression
  toHost : ∀ store expression, pointer.toHost store expression = elem.toHost store expression

namespace Signature

open Text

variable {s : List Char} {type : Option NativeType}

/-! ## Texts that parse -/

/-- A text that parses passes the check of the balance, which comes before every other rule. -/
lemma balanced_of_parse (h : parse s = .ok type) : imbalance? s = none := by
  rw [← imbalance?_trim]
  exact imbalance?_of_parse (trim_trim s) ((parse_trim s).trans h)

/-- `void` is read as no type, so a text that is read as one is not `void`. -/
lemma squeeze_ne_void {t : NativeType} (h : parse s = .ok (some t)) :
    squeeze s ≠ "void".toList := by
  intro hvoid
  rw [← squeeze_trim] at hvoid
  rw [parse_eq, Form.of, if_pos hvoid, Form.interpret] at h
  cases h

/-! ## What goes before the star -/

/-- A qualifier in front of a text with a star behind it is in front of the text itself, with a
blank added where the text ends. -/
lemma prefix_of_starred {q : String} {wrap : Wrap} {blanks : List Char}
    (hq : (.leading q, wrap) ∈ qualifiers) (hblanks : ∀ c ∈ blanks, isBlank c = true)
    (h : q.toList <+: s ++ (blanks ++ ['*'])) : q.toList <+: s ++ [' '] := by
  obtain ⟨w, hword, -, hw, -⟩ := exists_word_of_leading hq
  have hspaced : q.toList <+: s ++ blanks := by
    rw [← List.append_assoc] at h
    exact prefix_of_append_mark (notMem_leading hq (by simp) (by decide)) h
  cases blanks with
  | nil => exact (List.append_nil s ▸ hspaced).trans (List.prefix_append s _)
  | cons b blanks =>
      -- the word of the qualifier ends before the blank, and the qualifier with a blank of its own
      have hb : b ∉ w := fun hmem => by
        have hvisible := isBlank_eq_false_of_isWordChar (hw b hmem)
        rw [hblanks b (by simp)] at hvisible
        contradiction
      rw [hword] at hspaced ⊢
      obtain ⟨rest, rfl⟩ := prefix_of_append_mark hb ((List.prefix_append w _).trans hspaced)
      cases rest with
      | nil => simp
      | cons d rest =>
          rw [List.append_assoc, List.prefix_append_right_inj] at hspaced ⊢
          obtain ⟨rfl, -⟩ := List.cons_prefix_cons.1 hspaced
          simp

/-- With a star behind it a text is no preset, unless it is one of those that a star completes. -/
lemma preset?_starred (h : squeeze s ∉ starred) : preset? (squeeze (s ++ [' ', '*'])) = none := by
  by_cases hwords : words s = []
  · have hstar : squeeze (s ++ [' ', '*']) = ['*'] := by
      rw [squeeze, words_append_blank (by decide), hwords]
      rfl
    rw [hstar]
    rfl
  · rw [squeeze_append_blank (by decide) hwords (by decide)]
    exact preset?_append_star h

/-- A text with a star behind it, between its blanks: those in front go, those before the star
stay. -/
lemma trim_starred (s : List Char) :
    trim (s ++ [' ', '*']) = trimStart (s ++ [' ']) ++ ['*'] := by
  rw [← trim_append_visible _ (by decide), List.append_assoc, List.singleton_append]

/-! ## Steps -/

section Starred

variable {t : NativeType} (hread : parse s = .ok (some t)) (hstarred : squeeze s ∉ starred)
  (hclear : ∀ q, .leading q ∈ before (.trailing "*") → ¬ q.toList <+: trim s ++ [' '])

include hread hstarred hclear

/-- The star is taken off first, whatever the text is made of. -/
lemma form_starred :
    Form.of (trim (s ++ [' ', '*'])) = .wrapped .pointer (trimStart (s ++ [' '])) := by
  have htrim := trim_starred s
  have hstrip : (Affix.trailing "*").strip (trim (s ++ [' ', '*'])) =
      some (trimStart (s ++ [' '])) := by
    have htrailing : stripTrailing ['*'] (trimStart (s ++ [' ']) ++ ['*']) =
        some (trimStart (s ++ [' '])) := stripTrailing_eq_some_iff.2 rfl
    simp [Affix.strip, htrim, htrailing]
  refine form_behind (show (.trailing "*", .pointer) ∈ qualifiers by decide) hstrip ?_ ?_ ?_
  · rw [imbalance?_trim, imbalance?_append_plain (by decide), balanced_of_parse hread]
  · rw [squeeze_trim, preset?_starred hstarred]
  · intro q hbefore
    refine Option.eq_none_iff_forall_ne_some.2 fun rest hrest => hclear q hbefore ?_
    obtain ⟨wrap, hq⟩ := mem_of_mem_before hbefore
    obtain ⟨blanks, hstart, hblanks⟩ := exists_trimStart (s ++ [' '])
    rw [trim_append_blank (by decide)] at hstart
    refine prefix_of_starred hq hblanks ⟨rest, ?_⟩
    rw [← List.append_assoc, ← hstart, ← htrim]
    exact (stripLeading_eq_some_iff.1 hrest).symm

/-- What is read is a pointer to what the text without the star is read as. -/
lemma parse_starred : parse (s ++ [' ', '*']) = .ok (some (.pointer t)) := by
  refine (parse_eq_ok_of_wrapped_iff (form_starred hread hstarred hclear)).2 ⟨some t, ?_, rfl⟩
  rw [parse_of_trim_eq (trim_trimStart _), parse_append_blank s (by decide), hread]

/-- In front of the star `const` is the first to be taken off, and the pointer stands inside. -/
lemma parse_const_starred :
    parse ("const ".toList ++ (s ++ [' ', '*'])) = .ok (some (.const (.pointer t))) := by
  have hq : (.leading "const ", .const) ∈ qualifiers := by decide
  have hw : (.trailing "*", .pointer) ∈ qualifiers := by decide
  have hpointer := parse_starred hread hstarred hclear
  obtain ⟨l, hl, htrim⟩ := (Leads.self "const ").exists_trim (s ++ [' ', '*'])
  have hstar := trim_starred s
  have hne : trim (s ++ [' ', '*']) ≠ [] := by simp [hstar]
  have hwords := words_ne_nil_of_trim (trim_trim _) hne
  have hpreset : preset? (squeeze (l ++ trim (s ++ [' ', '*']))) = none := by
    refine Option.eq_none_iff_forall_ne_some.2 fun type htype => ?_
    have hsome := hl.preset?_append hq hwords htype
    rw [squeeze_trim, preset?_starred hstarred] at hsome
    contradiction
  -- the text ends in the star, so no other qualifier is behind it
  have hlater : ∀ v, .trailing v ∈ before (.leading "const ") →
      (Affix.trailing v).strip (' ' :: trim (s ++ [' ', '*'])) = none := by
    intro v hv
    obtain ⟨wrap, hmem⟩ := mem_of_mem_before hv
    refine Option.eq_none_iff_forall_ne_some.2 fun rest hrest => ?_
    rw [hstar, ← List.cons_append] at hrest
    obtain rfl := eq_of_strip_trailing hmem hw rfl hrest
    exact not_mem_before hq (.inl hv) (by decide)
  obtain ⟨inner, hform, hinner⟩ := hl.form_first hq
    (balanced_of_parse ((parse_trim _).trans hpointer)) hwords hpreset
    (not_function_of_trailing hw hstar).1 hlater
  rw [← hl.trim_append hq (trim_trim _) hne, ← htrim] at hform
  refine (parse_eq_ok_of_wrapped_iff hform).2 ⟨some (.pointer t), ?_, rfl⟩
  rw [parse_of_trim_eq (hinner.trans (trim_trim _)), hpointer]

end Starred

/-! ## The main result -/

/-- **A star behind any type makes a pointer, and `const` in front of it a constant one**, unless
something goes before the star: a qualifier in front of the type, or a preset that it completes. -/
theorem ofText_const_pointer {text : String} {t : NativeType} (hread : ofText text = .ok (some t))
    (hclear : ∀ q, .leading q ∈ before (.trailing "*") →
      ¬ q.toList <+: trim text.toList ++ [' '])
    (hplain : String.ofList (squeeze text.toList) ∉
      ["char", "NSString", "__strong void", "const void"]) :
    ofText ("const " ++ text ++ " *") = .ok (some (.const (.pointer t))) ∧
      ofText (text ++ " *") = .ok (some (.pointer t)) ∧
      (NativeType.const (.pointer t)).PointsTo t ∧ (NativeType.pointer t).PointsTo t := by
  have hstarred : squeeze text.toList ∉ starred := by
    intro hmem
    have hvoid := squeeze_ne_void hread
    generalize squeeze text.toList = plain at hmem hvoid hplain
    simp only [starred, List.mem_cons, List.not_mem_nil, or_false] at hmem
    rcases hmem with rfl | rfl | rfl | rfl | rfl
    · exact hvoid rfl
    all_goals exact hplain (by decide)
  refine ⟨?_, ?_, ⟨fun _ => rfl, fun _ _ => rfl, fun _ _ => rfl⟩,
    ⟨fun _ => rfl, fun _ _ => rfl, fun _ _ => rfl⟩⟩
  · have htext : ("const " ++ text ++ " *").toList =
        "const ".toList ++ (text.toList ++ [' ', '*']) := by simp
    rw [ofText, htext, parse_const_starred hread hstarred hclear]
  · have htext : (text ++ " *").toList = text.toList ++ [' ', '*'] := by simp
    rw [ofText, htext, parse_starred hread hstarred hclear]

/-- A pointer to an array that is never null: neither the size nor the qualifier behind the array is
in the way of the star. -/
theorem ofText_const_pointer_array :
    ofText "const NSRect[4] _Nonnull *" =
        .ok (some (.const (.pointer (.nullable (.array (.named "NSRect") "4") false)))) ∧
      ∀ store, (NativeType.const
        (.pointer (.nullable (.array (.named "NSRect") "4") false))).spelling store =
          ⟨"*[4]NSRect", true⟩ := by
  have hread : ofText "NSRect[4] _Nonnull" =
      .ok (some (.nullable (.array (.named "NSRect") "4") false)) := by
    have hnonnull : Form.of (trim "NSRect[4] _Nonnull".toList) =
        .wrapped .nonnull "NSRect[4] ".toList := Form.eq_of_same (by decide +kernel)
    have harray : Form.of (trim "NSRect[4] ".toList) =
        .array "NSRect".toList "4".toList := Form.eq_of_same (by decide +kernel)
    have hname : Form.of (trim "NSRect".toList) = .named := Form.eq_of_same (by decide +kernel)
    rw [ofText, parse_eq, hnonnull, Form.interpret, parse_eq, harray, Form.interpret, parse_eq,
      hname]
    rfl
  have hclear : ∀ affix ∈ before (.trailing "*"),
      ¬ affix.text.toList <+: trim "NSRect[4] _Nonnull".toList ++ [' '] := by decide
  obtain ⟨hconst, -, hlook, -⟩ :=
    ofText_const_pointer hread (fun q hq => hclear (.leading q) hq) (by decide)
  exact ⟨hconst, fun store => hlook.spelling store⟩

end Signature

end FrameworkBindings
