import FrameworkBindings.Proofs.Signature.Nesting

/-!
# Matching brackets

Which bracket belongs to which.  The reader only counts brackets, so this is not its business; it is
needed to say where its cuts go through a pair.

**Due brackets.**  `dueAfter` scans a text with the closing brackets that are due.  What it leaves
to be closed is closed behind the text one after the other, with nested text in between (`Closes`).
Nested texts are those that leave nothing due (`nested_iff`), so nesting can be decided, and what is
nested stays nested without a nested beginning or end.

**Pairs.**  The partner of a `(` behind nested text (`Nested.exists_closer`), and that of a `]` at
the end (`Nested.exists_opener`).

**Counts.**  A text that breaks off inside brackets leaves one open (`openBrackets_pos`), and a text
with a parenthesis that closes nothing is not in balance (`imbalance?_of_overclosed`).

**Cuts.**  Cutting nested text at its commas gives nested texts (`Nested.splitAtCommas_append`), and
what stands before a function marker is nested (`Nested.of_splitAtMarker`).

**Stacks and counts.**  The scan keeps a stack where the reader keeps a number, and the number is
the height of the stack (`depth_of_dueAfter`).  A stack knows which kind is due, so it can be read
backwards: what is on it tells how the text has to go on.
-/

namespace FrameworkBindings.Signature

open Text

variable {s t : List Char}

/-! ## Due brackets -/

/-- The closing brackets that are due behind `c`, if it closes one that was due before.  A bracket
of the wrong kind fails the scan. -/
def dueStep (due : List Char) (c : Char) : Option (List Char) :=
  if c = '(' then some (')' :: due)
  else if c = '[' then some (']' :: due)
  else if isBracket c then
    match due with
    | d :: due => if d = c then some due else none
    | [] => none
  else some due

/-- The closing brackets that are due behind a text, the next one first.  There are at most as many
as the text has characters; a count of 32 bits is as good as the stack on fewer than 2³¹ of them. -/
def dueAfter (due text : List Char) : Option (List Char) :=
  text.foldlM dueStep due

/-- The text closes what is due, in order, and is nested in between and behind. -/
def Closes : List Char → List Char → Prop
  | [], text => Nested text
  | d :: due, text => ∃ inner rest, text = inner ++ d :: rest ∧ Nested inner ∧ Closes due rest

lemma dueAfter_append (due s t : List Char) :
    dueAfter due (s ++ t) = (dueAfter due s).bind (dueAfter · t) :=
  List.foldlM_append

lemma dueAfter_cons (due s : List Char) (c : Char) :
    dueAfter due (c :: s) = (dueStep due c).bind (dueAfter · s) :=
  List.foldlM_cons

lemma dueStep_of_plain {c : Char} (h : isBracket c = false) (due : List Char) :
    dueStep due c = some due := by
  have hopen : c ≠ '(' ∧ c ≠ '[' := by
    constructor <;> rintro rfl <;> exact absurd h (by decide)
  unfold dueStep
  rw [if_neg hopen.1, if_neg hopen.2, if_neg (by simp [h])]

/-- Nested text leaves due what was due before, as it closes all that it opens. -/
lemma Nested.dueAfter_eq (h : Nested s) (due : List Char) : dueAfter due s = some due := by
  induction h generalizing due with
  | nil => rfl
  | plain hc => rw [dueAfter_cons, dueStep_of_plain hc]; rfl
  | append _ _ ihs iht => rw [dueAfter_append, ihs, Option.bind_some, iht]
  | parens _ ih =>
      rw [List.cons_append, dueAfter_cons, show dueStep due '(' = some (')' :: due) from rfl,
        Option.bind_some, dueAfter_append, ih, Option.bind_some]
      rfl
  | brackets _ ih =>
      rw [List.cons_append, dueAfter_cons, show dueStep due '[' = some (']' :: due) from rfl,
        Option.bind_some, dueAfter_append, ih, Option.bind_some]
      rfl

/-- Nested text may come before what is due, since it does not touch it. -/
lemma Closes.prepend {due : List Char} (h : Closes due t) (hs : Nested s) :
    Closes due (s ++ t) := by
  cases due with
  | nil => exact hs.append h
  | cons d due =>
      obtain ⟨inner, rest, rfl, hinner, hrest⟩ := h
      exact ⟨s ++ inner, rest, (List.append_assoc ..).symm, hs.append hinner, hrest⟩

/-- A text behind which nothing is due has closed what was due before, by induction on the text. -/
lemma closes_of_dueAfter {due : List Char} (h : dueAfter due s = some []) : Closes due s := by
  induction s generalizing due with
  | nil =>
      obtain rfl : due = [] := Option.some.inj h
      exact .nil
  | cons c s ih =>
      rw [dueAfter_cons] at h
      obtain ⟨after, hstep, hrest⟩ := Option.bind_eq_some_iff.1 h
      have hcloses := ih hrest
      unfold dueStep at hstep
      split_ifs at hstep with hparen hbracket hcloser
      · cases hstep
        obtain ⟨inner, rest, rfl, hinner, hbehind⟩ := hcloses
        have hpair := hbehind.prepend hinner.parens
        rw [hparen]
        simpa using hpair
      · cases hstep
        obtain ⟨inner, rest, rfl, hinner, hbehind⟩ := hcloses
        have hpair := hbehind.prepend hinner.brackets
        rw [hbracket]
        simpa using hpair
      · cases due with
        | nil => contradiction
        | cons d due =>
            dsimp only at hstep
            split_ifs at hstep with hsame
            cases hstep
            exact ⟨[], s, by rw [hsame]; rfl, .nil, hcloses⟩
      · cases hstep
        exact hcloses.prepend (s := [c]) (.plain (by simpa using hcloser))

/-- **Nested texts are those behind which nothing is due.**  The scan runs on any text, so nesting
can be decided. -/
theorem nested_iff : Nested s ↔ dueAfter [] s = some [] :=
  ⟨fun h => h.dueAfter_eq [], closes_of_dueAfter⟩

instance : DecidablePred Nested := fun _ => decidable_of_iff' _ nested_iff

lemma Nested.of_append_left (h : Nested (s ++ t)) (hs : Nested s) : Nested t := by
  rw [nested_iff, dueAfter_append, hs.dueAfter_eq] at h
  exact nested_iff.2 h

lemma Nested.of_append_right (h : Nested (s ++ t)) (ht : Nested t) : Nested s := by
  have hdue : ∀ due : Option (List Char), due.bind (dueAfter · t) = due := by
    rintro (_ | due)
    · rfl
    · exact ht.dueAfter_eq due
  rw [nested_iff, dueAfter_append, hdue] at h
  exact nested_iff.2 h

/-- The depth is the number of brackets that are due: what the reader counts is the height of the
stack. -/
lemma depth_of_dueAfter {due after : List Char} (h : dueAfter due s = some after) :
    depth s = after.length - due.length := by
  induction s generalizing due with
  | nil =>
      obtain rfl : due = after := Option.some.inj h
      simp [depth]
  | cons c s ih =>
      rw [dueAfter_cons] at h
      obtain ⟨between, hstep, hrest⟩ := Option.bind_eq_some_iff.1 h
      have hnesting : nesting c = between.length - due.length := by
        unfold dueStep at hstep
        split_ifs at hstep with hparen hbracket hcloser
        · cases hstep
          rw [hparen, show nesting '(' = 1 from rfl, List.length_cons]
          omega
        · cases hstep
          rw [hbracket, show nesting '[' = 1 from rfl, List.length_cons]
          omega
        · cases due with
          | nil => contradiction
          | cons d due =>
              dsimp only at hstep
              split_ifs at hstep with hsame
              cases hstep
              have hclose : nesting c = -1 := by
                simp only [isBracket, Bool.or_eq_true, beq_iff_eq] at hcloser
                rcases hcloser with ((h | rfl) | h) | rfl
                · exact absurd h hparen
                · rfl
                · exact absurd h hbracket
                · rfl
              rw [hclose, List.length_cons]
              omega
        · cases hstep
          rw [nesting_eq_zero (by simpa using hcloser)]
          omega
      have hdepth : depth (c :: s) = nesting c + depth s := by simp [depth]
      rw [hdepth, hnesting, ih hrest]
      omega

/-- The beginning of a nested text is nested where the depth is zero.  The reader cuts at such
places, so its cuts are harmless on nested text. -/
lemma Nested.of_depth (h : Nested (s ++ t)) (hs : depth s = 0) : Nested s := by
  rw [nested_iff, dueAfter_append] at h
  obtain ⟨due, hdue, -⟩ := Option.bind_eq_some_iff.1 h
  have hlength := depth_of_dueAfter hdue
  obtain rfl : due = [] := by
    rw [← List.length_eq_zero_iff]
    simp only [List.length_nil] at hlength
    omega
  exact nested_iff.2 hdue

/-! ## Pairs -/

/-- A parenthesis that opens behind nested text is closed, with nested text inside and behind. -/
lemma Nested.exists_closer (h : Nested (s ++ '(' :: t)) (hs : Nested s) :
    ∃ inner rest, t = inner ++ ')' :: rest ∧ Nested inner ∧ Nested rest := by
  have hdue := (h.of_append_left hs).dueAfter_eq []
  rw [dueAfter_cons] at hdue
  exact closes_of_dueAfter hdue

/-- A closing bracket at the end of nested text was opened in it, with nested text between the
two. -/
lemma Nested.exists_opener (h : Nested s) (hlast : s.getLast? = some ']') :
    ∃ before inner, s = before ++ ('[' :: inner ++ [']']) ∧ Nested before ∧ Nested inner := by
  induction h with
  | nil => contradiction
  | plain hc =>
      cases hlast
      contradiction
  | @append s t hs ht ihs iht =>
      rcases List.eq_nil_or_concat t with rfl | ⟨t, c, rfl⟩
      · rw [List.append_nil] at hlast ⊢
        exact ihs hlast
      · have hend : (t ++ [c]).getLast? = some ']' := by simpa using hlast
        obtain ⟨before, inner, heq, hbefore, hinner⟩ := iht (by simpa using hend)
        refine ⟨s ++ before, inner, ?_, hs.append hbefore, hinner⟩
        rw [heq, List.append_assoc]
  | parens _ =>
      rw [List.getLast?_concat] at hlast
      contradiction
  | @brackets s hs _ => exact ⟨[], s, rfl, .nil, hs⟩

/-! ## Counts -/

/-- How many square brackets are open behind a text, as the check of the balance counts them; at
most as many as it has characters. -/
def openBrackets (s : List Char) : Int := (s.map (countStep '[' ']')).sum

lemma openBrackets_append (s t : List Char) :
    openBrackets (s ++ t) = openBrackets s + openBrackets t := by
  simp [openBrackets]

/-- A text that passes the check closes every bracket it opens. -/
lemma openBrackets_of_balance {p b : Int} (h : imbalanceFrom p b s = none) :
    b + openBrackets s = 0 := by
  induction s generalizing p b with
  | nil =>
      simp only [imbalanceFrom] at h
      split_ifs at h with hp hb
      simpa [openBrackets] using hb
  | cons c s ih =>
      simp only [imbalanceFrom] at h
      split_ifs at h
      have hrest := ih h
      have hcons : openBrackets (c :: s) = countStep '[' ']' c + openBrackets s := by
        simp [openBrackets]
      omega

/-- On the way there it closes none that is not open. -/
lemma openBrackets_nonneg {p b : Int} (hb : 0 ≤ b) (h : imbalanceFrom p b (s ++ t) = none) :
    0 ≤ b + openBrackets s := by
  induction s generalizing p b with
  | nil => simpa [openBrackets] using hb
  | cons c s ih =>
      simp only [List.cons_append, imbalanceFrom] at h
      split_ifs at h with hp hnext
      have hrest := ih (by omega) h
      have hcons : openBrackets (c :: s) = countStep '[' ']' c + openBrackets s := by
        simp [openBrackets]
      omega

/-- A text that breaks off inside brackets leaves one open, so it cannot be in balance. -/
lemma openBrackets_pos {rest : List Char} (hs : Nested s) (h : Nested (t ++ rest)) :
    0 < openBrackets (s ++ '[' :: t) := by
  have hbefore := openBrackets_of_balance hs.imbalance?_eq_none
  have hinside := openBrackets_nonneg (Int.le_refl 0) h.imbalance?_eq_none
  have hopen : openBrackets ('[' :: t) = 1 + openBrackets t := by
    simp [openBrackets, show countStep '[' ']' '[' = 1 from rfl]
  rw [openBrackets_append, hopen]
  omega

/-- A text with a parenthesis that closes nothing is not in balance. -/
lemma imbalance?_of_overclosed (hs : Nested s) (rest : List Char) :
    imbalance? (s ++ ')' :: rest) = some .parentheses := by
  rw [imbalance?, hs.imbalanceFrom_append (Int.le_refl 0) (Int.le_refl 0)]
  rfl

/-! ## Cuts -/

/-- Nested text is cut at commas into nested texts, and the last of them goes on into what stands
behind. -/
lemma Nested.splitAtCommas_append (h : Nested s) (rest : List Char) :
    ∃ pieces last, splitAtCommas 0 (s ++ rest) =
        pieces ++ (splitAtCommas 0 rest).modifyHead (last ++ ·) ∧
      (∀ p ∈ pieces, Nested p) ∧ Nested last := by
  induction h generalizing rest with
  | nil => exact ⟨[], [], RunsOver.nil 0 rest, by simp, .nil⟩
  | @plain c hc =>
      by_cases hcomma : c = ','
      · refine ⟨[[]], [], ?_, by simp [Nested.nil], .nil⟩
        rw [List.singleton_append, splitAtCommas, if_pos ⟨hcomma, rfl⟩]
        cases splitAtCommas 0 rest <;> rfl
      · refine ⟨[], [c], ?_, by simp, .plain hc⟩
        rw [List.singleton_append, splitAtCommas_cons (by simp [hcomma]), nesting_eq_zero hc]
        rfl
  | @append s t _ _ ihs iht =>
      obtain ⟨pieces, last, hcut, hpieces, hlast⟩ := iht rest
      obtain ⟨pieces', last', hcut', hpieces', hlast'⟩ := ihs (t ++ rest)
      rw [hcut] at hcut'
      cases pieces with
      | nil =>
          refine ⟨pieces', last' ++ last, ?_, hpieces', hlast'.append hlast⟩
          rw [List.append_assoc, hcut', List.nil_append, List.modifyHead_modifyHead]
          simp [Function.comp_def]
      | cons p pieces =>
          refine ⟨pieces' ++ (last' ++ p) :: pieces, last, ?_, ?_, hlast⟩
          · rw [List.append_assoc, hcut']
            simp
          · intro q hq
            rcases List.mem_append.1 hq with hq | hq
            · exact hpieces' q hq
            · rcases List.mem_cons.1 hq with rfl | hq
              · exact hlast'.append (hpieces p (by simp))
              · exact hpieces q (by simp [hq])
  | @parens s hs _ =>
      exact ⟨[], _, hs.unbroken_parens 0 (Int.le_refl 0) rest, by simp, hs.parens⟩
  | @brackets s hs _ =>
      exact ⟨[], _, hs.unbroken_brackets 0 (Int.le_refl 0) rest, by simp, hs.brackets⟩

/-- A function marker stands where it was found, at depth zero, and the text in front of it is
kept. -/
lemma eq_of_splitAtMarker {d : Int} {before after : List Char}
    (h : splitAtMarker d s = some (before, after)) :
    ∃ marker ∈ functionMarkers, s = before ++ marker.toList ++ after ∧ d + depth before = 0 := by
  induction s generalizing d before with
  | nil => contradiction
  | cons c s ih =>
      rw [splitAtMarker] at h
      split at h
      · rename_i rest hmarker
        cases h
        split_ifs at hmarker with hd
        obtain ⟨marker, hmem, hstrip⟩ := List.exists_of_findSome?_eq_some hmarker
        exact ⟨marker, hmem, stripLeading_eq_some_iff.1 hstrip, by simp [depth, hd]⟩
      · obtain ⟨⟨before', after'⟩, hrest, heq⟩ := Option.map_eq_some_iff.1 h
        cases heq
        obtain ⟨marker, hmem, rfl, hdepth⟩ := ih hrest
        refine ⟨marker, hmem, rfl, ?_⟩
        have hcons : depth (c :: before') = nesting c + depth before' := by simp [depth]
        rw [hcons]
        omega

/-- Before a function marker in nested text there is nested text, and the parenthesis that the
marker leaves open is closed behind it. -/
lemma Nested.of_splitAtMarker (h : Nested s) {before after : List Char}
    (hsplit : splitAtMarker 0 s = some (before, after)) :
    Nested before ∧
      ∃ inner rest, after = inner ++ ')' :: rest ∧ Nested inner ∧ Nested rest := by
  have hmarkers : ∀ marker ∈ functionMarkers,
      marker.toList = marker.toList.dropLast ++ ['('] ∧ Nested marker.toList.dropLast := by
    decide
  obtain ⟨marker, hmem, rfl, hdepth⟩ := eq_of_splitAtMarker hsplit
  obtain ⟨hmarker, hclosed⟩ := hmarkers marker hmem
  rw [List.append_assoc] at h
  have hbefore : Nested before := h.of_depth (by omega)
  rw [hmarker, ← List.append_assoc, ← List.append_assoc, List.append_assoc _ ['('],
    List.singleton_append] at h
  exact ⟨hbefore, h.exists_closer (hbefore.append hclosed)⟩

end FrameworkBindings.Signature
