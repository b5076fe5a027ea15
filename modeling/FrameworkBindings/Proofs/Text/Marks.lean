import FrameworkBindings.Text.Affix
import Mathlib.Data.List.Infix
import Mathlib.Tactic.Lemma

/-!
# Texts and marks

A mark is a short text that divides or ends another one.  What the operations on affixes do with it
is said here by prefixes, infixes and suffixes.

**`splitOnce_eq_some_iff`** says that a text is split at its first mark: in front of it no other
mark begins, not even one that shares characters with it.  `infix_append_cons_iff` finds the marks
on either side of a character that no mark holds.

**Overlaps.**  A mark such as `::` can overlap with itself, and then it is not enough to say that
the text in front does not hold it: in `a:::b` the first mark begins one character earlier than the
last one.  The condition is therefore on the text in front together with all but the last character
of the mark, which is as far as an earlier mark could reach (`prefix_append_mark_iff`).

The receiver of a method is found in this way, in front of the first `::` of its definition.
-/

namespace FrameworkBindings.Text

variable {mark text before after : List Char}

lemma stripLeading_eq_none_iff : stripLeading mark text = none ↔ ¬ mark <+: text := by
  rw [Option.eq_none_iff_forall_ne_some]
  simp only [ne_eq, stripLeading_eq_some_iff]
  exact ⟨fun h ⟨rest, hrest⟩ => h rest hrest.symm, fun h rest hrest => h ⟨rest, hrest.symm⟩⟩

lemma stripTrailing_eq_none_iff : stripTrailing mark text = none ↔ ¬ mark <:+ text := by
  rw [stripTrailing, Option.map_eq_none_iff, stripLeading_eq_none_iff, List.reverse_prefix]

lemma splitOnce_cons (c : Char) (text : List Char) :
    splitOnce mark (c :: text) = match stripLeading mark (c :: text) with
      | some after => some ([], after)
      | none => (splitOnce mark text).map fun parts => (c :: parts.1, parts.2) := rfl

/-- A text stays whole if the mark is not in it, at its ends or in the middle. -/
lemma splitOnce_eq_none_iff : splitOnce mark text = none ↔ ¬ mark <:+: text := by
  induction text with
  | nil =>
      rw [splitOnce, Option.map_eq_none_iff, stripLeading_eq_none_iff, List.prefix_nil,
        List.infix_nil]
  | cons c text ih =>
      rw [splitOnce_cons, List.infix_cons_iff, not_or, ← stripLeading_eq_none_iff, ← ih]
      cases stripLeading mark (c :: text) with
      | some rest => simp
      | none => simp

/-- A mark that begins in front of another one has begun before the last character of that, as the
two are equally long. -/
lemma prefix_append_mark_iff (h : before ≠ []) :
    mark <+: before ++ mark ++ after ↔ mark <+: before ++ mark.dropLast := by
  have hfront : before ++ mark.dropLast <+: before ++ mark ++ after := by
    rw [List.append_assoc, List.prefix_append_right_inj]
    exact (List.dropLast_prefix mark).trans (List.prefix_append mark after)
  refine ⟨fun hmark => List.prefix_of_prefix_length_le hmark hfront ?_, (·.trans hfront)⟩
  have hpos := List.length_pos_of_ne_nil h
  rw [List.length_append, List.length_dropLast]
  omega

lemma splitOnce_append (hmark : mark ≠ []) (hfirst : ¬ mark <:+: before ++ mark.dropLast) :
    splitOnce mark (before ++ mark ++ after) = some (before, after) := by
  induction before with
  | nil =>
      obtain ⟨m, marks, rfl⟩ := List.exists_cons_of_ne_nil hmark
      have hstrip : stripLeading (m :: marks) (m :: (marks ++ after)) = some after :=
        stripLeading_eq_some_iff.2 rfl
      rw [List.nil_append, List.cons_append, splitOnce_cons, hstrip]
  | cons c before ih =>
      have hstrip : stripLeading mark (c :: (before ++ mark ++ after)) = none :=
        stripLeading_eq_none_iff.2 fun hlead => hfirst
          ((prefix_append_mark_iff (List.cons_ne_nil c before)).1 hlead).isInfix
      rw [List.cons_append, List.cons_append, splitOnce_cons, hstrip,
        ih fun hinfix => hfirst (List.infix_cons hinfix)]
      rfl

lemma first_of_splitOnce (hmark : mark ≠ []) (h : splitOnce mark text = some (before, after)) :
    text = before ++ mark ++ after ∧ ¬ mark <:+: before ++ mark.dropLast := by
  induction text generalizing before with
  | nil =>
      obtain ⟨rest, hrest, -⟩ := Option.map_eq_some_iff.1 h
      exact absurd (List.append_eq_nil_iff.1 (stripLeading_eq_some_iff.1 hrest).symm).1 hmark
  | cons c text ih =>
      rw [splitOnce_cons] at h
      cases hstrip : stripLeading mark (c :: text) with
      | some rest =>
          simp only [hstrip, Option.some.injEq, Prod.mk.injEq] at h
          obtain ⟨rfl, rfl⟩ := h
          refine ⟨by rw [stripLeading_eq_some_iff.1 hstrip, List.nil_append], fun hinfix => ?_⟩
          have hlength := hinfix.length_le
          have hpos := List.length_pos_of_ne_nil hmark
          rw [List.nil_append, List.length_dropLast] at hlength
          omega
      | none =>
          simp only [hstrip, Option.map_eq_some_iff, Prod.mk.injEq, Prod.exists] at h
          obtain ⟨front, _, hrest, rfl, rfl⟩ := h
          obtain ⟨rfl, hfirst⟩ := ih hrest
          refine ⟨rfl, fun hinfix => ?_⟩
          rcases List.infix_cons_iff.1 hinfix with hlead | hlater
          · exact stripLeading_eq_none_iff.1 hstrip
              ((prefix_append_mark_iff (List.cons_ne_nil c front)).2 hlead)
          · exact hfirst hlater

/-- **A text is split at the first mark**: the two parts and the mark make up the text, and no mark
begins before it. -/
theorem splitOnce_eq_some_iff (hmark : mark ≠ []) :
    splitOnce mark text = some (before, after) ↔
      text = before ++ mark ++ after ∧ ¬ mark <:+: before ++ mark.dropLast :=
  ⟨first_of_splitOnce hmark, fun ⟨htext, hfirst⟩ => htext ▸ splitOnce_append hmark hfirst⟩

/-- A mark does not reach over a character that it does not hold, so it is on one side of it. -/
lemma infix_append_cons_iff {c : Char} (hne : mark ≠ []) (hc : c ∉ mark) :
    mark <:+: before ++ c :: after ↔ mark <:+: before ∨ mark <:+: after := by
  rw [List.infix_append_iff_ne_nil]
  constructor
  · rintro (hbefore | hafter | ⟨front, back, -, hback, rfl, -, hprefix⟩)
    · exact .inl hbefore
    · rcases List.infix_cons_iff.1 hafter with hprefix | hafter
      · obtain ⟨m, marks, rfl⟩ := List.exists_cons_of_ne_nil hne
        exact absurd ((List.cons_prefix_cons.1 hprefix).1 ▸ List.mem_cons_self ..) hc
      · exact .inr hafter
    · obtain ⟨b, backs, rfl⟩ := List.exists_cons_of_ne_nil hback
      exact absurd (List.mem_append_right front
        ((List.cons_prefix_cons.1 hprefix).1 ▸ List.mem_cons_self ..)) hc
  · rintro (hbefore | hafter)
    · exact .inl hbefore
    · exact .inr (.inl (List.infix_cons hafter))

end FrameworkBindings.Text
