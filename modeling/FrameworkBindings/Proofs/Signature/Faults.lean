import FrameworkBindings.Proofs.Signature.Cuts
import FrameworkBindings.Proofs.Types.References

/-!
# The faults that a reading reports

A signature that is refused is refused with a text and a fault.  This module says that the two are
to be trusted: the text is a piece of the signature, and the fault is really in it.

**Kinds on their own.**  `Fault.Balances` says of one kind of bracket that it balances, whatever the
other kind does.  The check of the balance counts both kinds at once and stops at the first fault;
it finds none just if both kinds balance (`imbalance?_eq_none_iff`), and a kind that it names does
not (`not_balances_of_imbalance?`).

**How the scan is compared.**  The scan keeps two counts, and each is the number of brackets of its
kind that the text read so far leaves open (`Fault.excess`).  `imbalanceFrom_excess` is proved by
induction on what is still to be read, with the front as a parameter: as long as no count has been
negative, what the scan says of the rest is what is true of the whole.

**Pieces.**  A reading that fails does so at a piece that does not pass the check
(`exists_piece_of_error`).  An array is only looked for in a text that passes, where the bracket
that its last character closes was opened (`exists_splitAtLast`).  So the reader has one way to
fail, and no branch that cuts an array at a missing bracket is ever taken.

**`ofText_error_truthful`** puts these together.  It does not say that a text in which both kinds
balance is read: a piece that is cut off may be out of balance where the whole is not.
-/

namespace FrameworkBindings.Signature

open Text

variable {s t : List Char}

/-! ## Kinds on their own -/

namespace Fault

/-- The character that opens the kind.  With `closing` it is all that tells the two kinds apart. -/
def opening : Fault → Char
  | parentheses => '('
  | brackets => '['

/-- The character that closes the kind. -/
def closing : Fault → Char
  | parentheses => ')'
  | brackets => ']'

/-- The kind balances in a text that is scanned for it alone.  This does not mention the check: it
is what the word "unbalanced" of a report is to mean. -/
structure Balances (fault : Fault) (text : List Char) : Prop where
  /-- On the way there is never more closed than was opened. -/
  sane : ∀ front, front <+: text → front.count fault.closing ≤ front.count fault.opening
  /-- At the end all is closed. -/
  settled : text.count fault.opening = text.count fault.closing

/-- How many of the kind a text leaves open; negative if it closes more. -/
def excess (fault : Fault) (text : List Char) : Int :=
  text.count fault.opening - text.count fault.closing

/-- One more character changes the excess by one step of the scan. -/
lemma excess_concat (fault : Fault) (s : List Char) (c : Char) :
    fault.excess (s ++ [c]) = fault.excess s + countStep fault.opening fault.closing c := by
  have hne : fault.opening ≠ fault.closing := by cases fault <;> decide
  simp only [excess, countStep, List.count_append, List.count_singleton, beq_iff_eq]
  by_cases hopen : c = fault.opening
  · rw [if_pos hopen, if_neg (hopen ▸ hne), if_pos hopen]
    omega
  · by_cases hclose : c = fault.closing
    · rw [if_neg hopen, if_pos hclose, if_neg hopen, if_pos hclose]
      omega
    · rw [if_neg hopen, if_neg hclose, if_neg hopen, if_neg hclose]
      omega

/-- A front that closes more than it opens is not made good by anything behind it. -/
lemma not_balances_of_excess_neg {fault : Fault} (h : fault.excess s < 0) (t : List Char) :
    ¬ fault.Balances (s ++ t) := by
  intro hbalances
  have hsane := hbalances.sane s (List.prefix_append s t)
  simp only [excess] at h
  omega

end Fault

/-- What the check says of a text of which `s` has been read without a fault: a kind that it names
does not balance, and if it names none both do. -/
lemma imbalanceFrom_excess (hs : ∀ fault : Fault, ∀ front, front <+: s → 0 ≤ fault.excess front) :
    (∀ fault, imbalanceFrom (Fault.parentheses.excess s) (Fault.brackets.excess s) t = some fault →
      ¬ fault.Balances (s ++ t)) ∧
    (imbalanceFrom (Fault.parentheses.excess s) (Fault.brackets.excess s) t = none →
      ∀ fault : Fault, fault.Balances (s ++ t)) := by
  induction t generalizing s with
  | nil =>
      rw [imbalanceFrom, List.append_nil]
      constructor
      · intro fault hfault hbalances
        have hsettled := hbalances.settled
        split_ifs at hfault with hp hb
        · cases hfault
          exact hp (by simp only [Fault.excess]; omega)
        · cases hfault
          exact hb (by simp only [Fault.excess]; omega)
      · intro hnone fault
        split_ifs at hnone with hp hb
        rw [not_not] at hp hb
        refine ⟨fun front hfront => ?_, ?_⟩
        · have hsane := hs fault front hfront
          simp only [Fault.excess] at hsane
          omega
        · cases fault <;> simp only [Fault.excess] at hp hb <;> omega
  | cons c t ih =>
      have hsplit : s ++ c :: t = (s ++ [c]) ++ t := by simp
      have hp : Fault.parentheses.excess (s ++ [c]) =
          Fault.parentheses.excess s + countStep '(' ')' c := Fault.excess_concat ..
      have hb : Fault.brackets.excess (s ++ [c]) =
          Fault.brackets.excess s + countStep '[' ']' c := Fault.excess_concat ..
      rw [imbalanceFrom, hsplit, ← hp, ← hb]
      split_ifs with hpneg hbneg
      · refine ⟨fun fault hfault => ?_, by simp⟩
        cases hfault
        exact Fault.not_balances_of_excess_neg hpneg t
      · refine ⟨fun fault hfault => ?_, by simp⟩
        cases hfault
        exact Fault.not_balances_of_excess_neg hbneg t
      · refine ih fun fault front hfront => ?_
        rcases List.prefix_concat_iff.1 hfront with rfl | hfront
        · cases fault <;> omega
        · exact hs fault front hfront

/-- Nothing is closed before anything is read, so the scan begins without a fault. -/
lemma excess_nonneg_nil (fault : Fault) (front : List Char) (h : front <+: []) :
    0 ≤ fault.excess front := by
  rw [List.prefix_nil.1 h]
  exact Int.le_refl 0

/-- A kind that the check names does not balance, though the other one may fail to as well. -/
lemma not_balances_of_imbalance? {fault : Fault} (h : imbalance? s = some fault) :
    ¬ fault.Balances s := by
  simpa using (imbalanceFrom_excess excess_nonneg_nil).1 fault h

/-- **A text passes the check just if both kinds balance, each on its own.** -/
theorem imbalance?_eq_none_iff : imbalance? s = none ↔ ∀ fault : Fault, fault.Balances s := by
  constructor
  · exact fun h => by simpa using (imbalanceFrom_excess excess_nonneg_nil).2 h
  · intro h
    rw [Option.eq_none_iff_forall_ne_some]
    exact fun fault hfault => not_balances_of_imbalance? hfault (h fault)

/-! ## Blanks around a text -/

/-- What is no bracket changes nothing within a text. -/
lemma imbalanceFrom_insert_plain {p b : Int} (hp : 0 ≤ p) (hb : 0 ≤ b)
    (ht : ∀ c ∈ t, isBracket c = false) (r : List Char) :
    imbalanceFrom p b (s ++ (t ++ r)) = imbalanceFrom p b (s ++ r) := by
  induction s generalizing p b with
  | nil => exact (Nested.of_plain ht).imbalanceFrom_append hp hb r
  | cons c s ih =>
      rw [List.cons_append, List.cons_append, imbalanceFrom, imbalanceFrom]
      split_ifs with hpneg hbneg
      · rfl
      · rfl
      · exact ih (by omega) (by omega)

lemma imbalance?_insert_plain (ht : ∀ c ∈ t, isBracket c = false) (r : List Char) :
    imbalance? (s ++ (t ++ r)) = imbalance? (s ++ r) :=
  imbalanceFrom_insert_plain (Int.le_refl 0) (Int.le_refl 0) ht r

lemma imbalance?_append_plain (ht : ∀ c ∈ t, isBracket c = false) :
    imbalance? (s ++ t) = imbalance? s := by
  simpa using imbalance?_insert_plain ht []

/-- Blanks around a text have no part in its balance. -/
lemma imbalance?_trim (s : List Char) : imbalance? (trim s) = imbalance? s := by
  obtain ⟨lead, trail, htext, hlead, htrail⟩ := exists_trim s
  have hleads : Nested lead := .of_plain fun c hc => isBracket_eq_false_of_isBlank (hlead c hc)
  have htrails : ∀ c ∈ trail, isBracket c = false := fun c hc =>
    isBracket_eq_false_of_isBlank (htrail c hc)
  calc imbalance? (trim s) = imbalance? (trim s ++ trail) := (imbalance?_append_plain htrails).symm
    _ = imbalance? (lead ++ (trim s ++ trail)) :=
        (hleads.imbalanceFrom_append (Int.le_refl 0) (Int.le_refl 0) _).symm
    _ = imbalance? s := by rw [← List.append_assoc, ← htext]

/-! ## Pieces -/

/-- In a balanced text the bracket that the last character closes was opened, so the cut of an array
finds its place. -/
lemma exists_splitAtLast {inner : List Char} (hbalance : imbalance? s = none)
    (hend : stripTrailing [']'] s = some inner) :
    ∃ elem size, splitAtLast '[' inner = some (elem, size) := by
  obtain rfl := stripTrailing_eq_some_iff.1 hend
  have hsettled := (imbalance?_eq_none_iff.1 hbalance .brackets).settled
  have hopen : '[' ∈ inner := by
    rw [← List.count_pos_iff]
    simp [Fault.opening, Fault.closing] at hsettled
    omega
  obtain ⟨elem, size, rfl, hfree⟩ := exists_last_of_mem hopen
  exact ⟨elem, size, splitAtLast_append hfree⟩

/-- Only a text that does not pass the check is malformed; no later rule makes one. -/
lemma imbalance?_of_malformed {fault : Fault} (h : Form.of s = .malformed fault) :
    imbalance? s = some fault := by
  cases hbalance : imbalance? s with
  | some fault' =>
      rw [Form.of_eq_malformed hbalance] at h
      rw [Form.malformed.inj h]
  | none =>
      have hfits := Form.fits s
      rw [h] at hfits
      cases hfits with
      | malformed hfault => rw [hfault] at hbalance; contradiction
      | unopened hend hopen =>
          obtain ⟨elem, size, hsplit⟩ := exists_splitAtLast hbalance hend
          rw [hsplit] at hopen
          contradiction

/-- What the parameters fail with is the error of one of them. -/
lemma exists_of_readParams_error {read : List Char → Reading} {params : List (Param (List Char))}
    {m : Malformed} (h : readParams read params = .error m) :
    ∃ p ∈ params, read p.type = .error m := by
  induction params with
  | nil => contradiction
  | cons p params ih =>
      rw [readParams] at h
      split at h
      · rename_i heq
        cases h
        exact ⟨p, by simp, heq⟩
      · obtain ⟨q, hq, hread⟩ := ih (map_eq_error_iff.1 h)
        exact ⟨q, by simp [hq], hread⟩

/-- A form that does not parse is malformed or hands on the error of a part, unchanged. -/
lemma exists_of_interpret_error {form : Form} {sig : List Char} {read : List Char → Reading}
    {m : Malformed} (h : form.interpret sig read = .error m) :
    (∃ fault, form = .malformed fault ∧ m = ⟨String.ofList sig, fault⟩) ∨
      ∃ q ∈ form.parts, read q = .error m := by
  cases form with
  | malformed fault => exact .inl ⟨fault, rfl, (Except.error.inj h).symm⟩
  | void | preset | primitive | named | unrecognized => contradiction
  | function result params =>
      right
      rw [Form.interpret] at h
      split at h
      · rename_i heq
        cases h
        exact ⟨result, by simp [Form.parts], heq⟩
      · obtain ⟨p, hp, hread⟩ := exists_of_readParams_error (map_eq_error_iff.1 h)
        exact ⟨p.type, List.mem_cons_of_mem _ (List.mem_map_of_mem hp), hread⟩
  | wrapped wrap inner =>
      exact .inr ⟨inner, List.mem_singleton_self _, map_eq_error_iff.1 h⟩
  | array elem size =>
      exact .inr ⟨elem, List.mem_singleton_self _, map_eq_error_iff.1 h⟩

/-- A reading fails at a piece that does not pass the check, and reports this piece. -/
lemma exists_piece_of_error {m : Malformed} (h : parse s = .error m) :
    ∃ p, Piece s p ∧ m.signature = String.ofList p ∧ imbalance? p = some m.fault := by
  induction s using parts_induction with
  | step s ih =>
    rw [parse_eq] at h
    rcases exists_of_interpret_error h with ⟨fault, hform, rfl⟩ | ⟨q, hq, hread⟩
    · exact ⟨trim s, .self s, rfl, imbalance?_of_malformed hform⟩
    · obtain ⟨p, hpiece, hp⟩ := ih q hq hread
      exact ⟨p, .part hq hpiece, hp⟩

/-! ## The main result -/

/-- **A signature is refused as a whole just if one kind of bracket does not balance in it.**  What
a refusal carries is a trimmed piece in which the kind that it names does not balance, and an array
is never looked for without the bracket that opens its size. -/
theorem ofText_error_truthful (text : String) :
    ((∃ fault : Fault, ¬ fault.Balances text.toList) ↔
      ∃ fault, ofText text = .error ⟨String.ofList (trim text.toList), fault⟩) ∧
    (∀ m, ofText text = .error m →
      Piece text.toList m.signature.toList ∧ trim m.signature.toList = m.signature.toList ∧
        ¬ m.fault.Balances m.signature.toList) ∧
    ∀ p inner, Piece text.toList p → imbalance? p = none →
      stripTrailing [']'] p = some inner → splitAtLast '[' inner ≠ none := by
  have hpiece : ∀ m, ofText text = .error m →
      Piece text.toList m.signature.toList ∧ imbalance? m.signature.toList = some m.fault := by
    intro m hm
    obtain ⟨p, hp, hsignature, hfault⟩ := exists_piece_of_error hm
    rw [hsignature, String.toList_ofList]
    exact ⟨hp, hfault⟩
  refine ⟨⟨fun ⟨fault, hfault⟩ => ?_, fun ⟨fault, hfault⟩ => ?_⟩, fun m hm => ?_, ?_⟩
  · cases hbalance : imbalance? text.toList with
    | none => exact absurd (imbalance?_eq_none_iff.1 hbalance fault) hfault
    | some found =>
        refine ⟨found, ?_⟩
        rw [← imbalance?_trim] at hbalance
        rw [ofText, parse_eq, Form.of_eq_malformed hbalance, Form.interpret]
  · refine ⟨fault, not_balances_of_imbalance? ?_⟩
    rw [← imbalance?_trim]
    simpa using (hpiece _ hfault).2
  · obtain ⟨hp, hfault⟩ := hpiece m hm
    exact ⟨hp, hp.trim_eq, not_balances_of_imbalance? hfault⟩
  · intro p inner _ hbalance hend
    obtain ⟨elem, size, hsplit⟩ := exists_splitAtLast hbalance hend
    simp [hsplit]

/-- An array whose size opens a bracket passes the check, and what is refused is its element, which
is a piece in which the bracket is not closed. -/
theorem ofText_error_truthful_size :
    ofText "uint8_t[sizes[0]]" = .error ⟨"uint8_t[sizes", .brackets⟩ ∧
      Piece "uint8_t[sizes[0]]".toList "uint8_t[sizes".toList ∧
      ¬ Fault.brackets.Balances "uint8_t[sizes".toList ∧
      imbalance? "uint8_t[sizes[0]]".toList = none ∧
      splitAtLast '[' "uint8_t[sizes[0]".toList ≠ none := by
  have hbalance : imbalance? "uint8_t[sizes[0]]".toList = none := by decide
  obtain ⟨-, herror, hopen⟩ := ofText_error_truthful "uint8_t[sizes[0]]"
  obtain ⟨hpiece, -, hfault⟩ := herror _ ofText_nestedSize
  have hself : Piece "uint8_t[sizes[0]]".toList "uint8_t[sizes[0]]".toList :=
    .self "uint8_t[sizes[0]]".toList
  exact ⟨ofText_nestedSize, hpiece, hfault, hbalance, hopen _ _ hself hbalance rfl⟩

end FrameworkBindings.Signature
