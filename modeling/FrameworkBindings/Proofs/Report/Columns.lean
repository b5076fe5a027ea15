import Mathlib.Algebra.BigOperators.Group.List.Basic
import Mathlib.Algebra.GroupWithZero.Nat
import Mathlib.Tactic.Lemma
import FrameworkBindings.Proofs.Text.Words
import FrameworkBindings.Report.Table

/-!
# The columns of the table

The table of a run counts members twice: row by row, and in the last row by the totals.  The row of
the free functions counts in a way of its own, where all that was not written was left out.

* `rowCounts?` — the numbers at the end of a row, read off its text; `rowCounts?_countRow`: they are
  those that were put there.
* `RunReport.rows`, `RunReport.lastRow` — the rows between the heading and the totals, and the
  totals (`table_eq`).
* `RunReport.Closed` — whatever was left out as a whole has no members, and no free function is
  written with a remark.
* `columns_add_up` — then each column of the rows adds up to the number in the last row.

**Numbers that are read.**  The columns are those of the printed table.  A row is cut into words,
and its last three are read as decimal numbers, so a number that runs into its neighbour or is
printed in the wrong column would be found.  The padding is blanks, however wide the first column
is.

**Rows without numbers.**  An entity that was left out has a reason in its row in place of numbers.
The reason ends in a word that is no number, so the row counts for nothing.
-/

namespace FrameworkBindings

/-! ## Reading a row -/

/-- The numbers in a row, in the order of the columns. -/
structure Counts where
  emitted : Nat
  advisory : Nat
  skipped : Nat
deriving DecidableEq

/-- The number that a word spells, none unless it consists of digits. -/
def decimal? (word : List Char) : Option Nat :=
  if word ≠ [] ∧ word.all Char.isDigit then some (Nat.ofDigitChars 10 word 0) else none

/-- The numbers that three words spell, none if one of them spells no number. -/
def counts? (emitted advisory skipped : List Char) : Option Counts :=
  match decimal? emitted, decimal? advisory, decimal? skipped with
  | some emitted, some advisory, some skipped => some ⟨emitted, advisory, skipped⟩
  | _, _, _ => none

/-- The numbers at the end of a row, if its last three words are numbers.  A name with blanks in it
does not matter. -/
def rowCounts? (row : String) : Option Counts :=
  match (Text.words row.toList).reverse with
  | skipped :: advisory :: emitted :: _ => counts? emitted advisory skipped
  | _ => none

/-- A number that is written is read again, digit by digit. -/
lemma decimal?_toString (n : Nat) : decimal? (toString n).toList = some n := by
  have hdigits : (toString n).toList.all Char.isDigit = true :=
    List.all_eq_true.2 fun c hc => Text.isDigit_of_mem_toString hc
  rw [decimal?, if_pos ⟨Text.toList_toString_ne_nil n, hdigits⟩, Text.toList_toString,
    Nat.ofDigitChars_ten_toDigits]

/-- What stands before the last three words is not looked at. -/
lemma rowCounts?_eq {row : String} {before : List (List Char)}
    {emitted advisory skipped : List Char}
    (h : Text.words row.toList = before ++ [emitted, advisory, skipped]) :
    rowCounts? row = counts? emitted advisory skipped := by
  rw [rowCounts?, h, List.reverse_append]
  rfl

/-- A digit is no blank, so a number is one word. -/
lemma isBlank_of_isDigit {c : Char} (h : c.isDigit = true) : Text.isBlank c = false := by
  refine Text.isBlank_eq_false_of_isWordChar ?_
  rw [Text.isWordChar, Text.isAlphanumeric_of_isAlphanum, Bool.true_or]
  rw [Char.isAlphanum, h, Bool.or_true]

/-- A number between blanks is a word, which is cut off as a whole. -/
lemma words_number (n : Nat) {blanks : List Char} (hblanks : ∀ c ∈ blanks, Text.isBlank c = true)
    {b : Char} (hb : Text.isBlank b = true) (rest : List Char) :
    Text.words (blanks ++ ((toString n).toList ++ b :: rest)) =
      (toString n).toList :: Text.words rest := by
  have hword : Text.words (toString n).toList = [(toString n).toList] :=
    Text.words_of_visible (Text.toList_toString_ne_nil n) fun c hc =>
      isBlank_of_isDigit (Text.isDigit_of_mem_toString hc)
  rw [Text.words_blanks_append _ hblanks, Text.words_append_blank hb, hword,
    List.singleton_append]

/-- The numbers of a row can be read, whatever name and kind stand before them. -/
lemma rowCounts?_countRow (width : Nat) (name kind : String) (emitted advisory skipped : Nat) :
    rowCounts? (countRow width name kind emitted advisory skipped) =
      some ⟨emitted, advisory, skipped⟩ := by
  have hpad : ∀ k, ∀ c ∈ ' ' :: List.replicate k ' ', Text.isBlank c = true := by
    intro k c hc
    obtain rfl : c = ' ' := by
      rw [← List.replicate_succ] at hc
      exact List.eq_of_mem_replicate hc
    decide
  have hrow : ∃ before pad pad' pad'', (countRow width name kind emitted advisory skipped).toList =
      before ++ ' ' :: (' ' :: List.replicate pad ' ' ++ ((toString emitted).toList
        ++ ' ' :: (' ' :: List.replicate pad' ' ' ++ ((toString advisory).toList
        ++ ' ' :: (' ' :: List.replicate pad'' ' '
          ++ ((toString skipped).toList ++ '\n' :: [])))))) :=
    ⟨(padRight width name ++ "  " ++ padRight 8 kind).toList, _, _, _,
      by simp [countRow, tableRow, padLeft]; rfl⟩
  obtain ⟨before, pad, pad', pad'', hrow⟩ := hrow
  have hwords : Text.words (countRow width name kind emitted advisory skipped).toList =
      Text.words before
        ++ [(toString emitted).toList, (toString advisory).toList, (toString skipped).toList] := by
    rw [hrow, Text.words_append_blank (by decide), words_number _ (hpad _) (by decide),
      words_number _ (hpad _) (by decide), words_number _ (hpad _) (by decide)]
    rfl
  rw [rowCounts?_eq hwords, counts?]
  simp only [decimal?_toString]

/-- The row of an entity that was left out ends in the reason, and has no numbers if that is in
words. -/
lemma rowCounts?_of_skipped {e : EntityReport} {reason : String} {words : List (List Char)}
    {first second last : List Char} (hskipped : e.skipped = some reason)
    (hreason : Text.words (" skipped: " ++ reason ++ "\n").toList = words ++ [first, second, last])
    (hlast : decimal? last = none) (width : Nat) : rowCounts? (e.row width) = none := by
  have hrow : (e.row width).toList = (padRight width e.name ++ "  " ++ padRight 8 e.kind).toList
      ++ ' ' :: (" skipped: " ++ reason ++ "\n").toList := by
    rw [EntityReport.row, hskipped]
    simp
  have hwords : Text.words (e.row width).toList =
      (Text.words (padRight width e.name ++ "  " ++ padRight 8 e.kind).toList ++ words)
        ++ [first, second, last] := by
    rw [hrow, Text.words_append_blank (by decide), hreason, List.append_assoc]
  rw [rowCounts?_eq hwords, counts?, hlast]
  split <;> simp_all

/-! ## Adding up -/

/-- Whatever its sort, an outcome is counted once, so the three columns make up all members. -/
lemma countOutcomes_add (members : List MemberReport) :
    countOutcomes Outcome.isEmitted members + countOutcomes Outcome.isAdvisory members
        + countOutcomes Outcome.isSkipped members = members.length := by
  induction members with
  | nil => rfl
  | cons m members ih =>
      have hone : ∀ outcome : Outcome, (if outcome.isEmitted then 1 else 0)
          + (if outcome.isAdvisory then 1 else 0) + (if outcome.isSkipped then 1 else 0) = 1 := by
        intro outcome
        cases outcome <;> rfl
      specialize hone m.outcome
      simp only [countOutcomes, List.countP_cons, List.length_cons] at ih ⊢
      omega

namespace EntityReport

/-- The numbers of an entity, as its report counts them. -/
def counts (e : EntityReport) : Counts := ⟨e.emitted, e.advisory, e.skippedMembers⟩

end EntityReport

namespace RunReport

/-- The first row of the table, in which there are words in place of numbers. -/
def heading (r : RunReport) : String :=
  tableRow r.nameWidth "ENTITY" "KIND" "EMITTED" "ADVISORY" "SKIPPED"

/-- The rows of the entities and, if there are any, of the free functions. -/
def rows (r : RunReport) : List String :=
  r.entities.map (·.row r.nameWidth) ++ if r.functions.isEmpty then [] else [r.functionsRow]

/-- The row of the totals, which counts the members of entities and the free functions together. -/
def lastRow (r : RunReport) : String :=
  countRow r.nameWidth "TOTAL" (toString r.totals.entities) r.totals.emitted r.totals.advisory
    r.totals.skipped

/-- The table consists of the heading, the rows and the row of the totals. -/
lemma table_eq (r : RunReport) : r.table = r.heading ++ String.join r.rows ++ r.lastRow := by
  have hfunctions :
      String.join (if r.functions.isEmpty then [] else [r.functionsRow]) = r.functionsRow := by
    cases hempty : r.functions.isEmpty with
    | true => rw [if_pos rfl, functionsRow, hempty, if_pos rfl, String.join_nil]
    | false =>
        rw [if_neg Bool.false_ne_true, String.join_cons, String.join_nil, String.append_empty]
  rw [rows, String.join_append, hfunctions, ← String.append_assoc]
  rfl

/-- What is counted over entities is a sum. -/
lemma overEntities_eq (r : RunReport) (count : EntityReport → Nat) :
    r.overEntities count = (r.entities.map count).sum := by
  rw [overEntities, List.sum, List.foldr_map]

/-- What was left out as a whole has no members and no numbers in its row, and of the free functions
none is written with a remark. -/
structure Closed (r : RunReport) : Prop where
  members : ∀ e ∈ r.entities, e.skipped.isSome = true → e.members = []
  unread : ∀ e ∈ r.entities, e.skipped.isSome = true → ∀ width, rowCounts? (e.row width) = none
  functions : countOutcomes Outcome.isAdvisory r.functions = 0

variable {r : RunReport}

/-- What was not written was left out, where nothing is written with a remark. -/
lemma sum_functionsRow {column : Counts → Nat} (hempty : column ⟨0, 0, 0⟩ = 0)
    (h : countOutcomes Outcome.isAdvisory r.functions = 0) :
    (((if r.functions.isEmpty then [] else [r.functionsRow]).filterMap rowCounts?).map column).sum =
      column ⟨countOutcomes Outcome.isEmitted r.functions,
        countOutcomes Outcome.isAdvisory r.functions,
        countOutcomes Outcome.isSkipped r.functions⟩ := by
  cases hfunctions : r.functions.isEmpty with
  | true =>
      rw [List.isEmpty_iff.1 hfunctions]
      exact hempty.symm
  | false =>
      have hskipped : r.functions.length - countOutcomes Outcome.isEmitted r.functions =
          countOutcomes Outcome.isSkipped r.functions := by
        have hall := countOutcomes_add r.functions
        omega
      have hrow : rowCounts? r.functionsRow = some ⟨countOutcomes Outcome.isEmitted r.functions,
          0, countOutcomes Outcome.isSkipped r.functions⟩ := by
        rw [functionsRow, hfunctions, if_neg Bool.false_ne_true, ← hskipped]
        exact rowCounts?_countRow _ _ _ _ _ _
      rw [if_neg Bool.false_ne_true, List.filterMap_cons, hrow, h]
      exact Nat.add_zero _

/-- A column of the rows of entities adds up. -/
lemma sum_entityRows {entities : List EntityReport} {column : Counts → Nat} {width : Nat}
    (hempty : column ⟨0, 0, 0⟩ = 0)
    (hmembers : ∀ e ∈ entities, e.skipped.isSome = true → e.members = [])
    (hunread : ∀ e ∈ entities, e.skipped.isSome = true → rowCounts? (e.row width) = none) :
    (((entities.map (·.row width)).filterMap rowCounts?).map column).sum =
      (entities.map fun e => column e.counts).sum := by
  induction entities with
  | nil => rfl
  | cons e entities ih =>
      have hrest := ih (fun e he => hmembers e (List.mem_cons_of_mem _ he))
        fun e he => hunread e (List.mem_cons_of_mem _ he)
      rw [List.map_cons, List.filterMap_cons, List.map_cons, List.sum_cons, ← hrest]
      cases hskipped : e.skipped with
      | some reason =>
          have hsome : e.skipped.isSome = true := by rw [hskipped]; rfl
          have hcounts : e.counts = ⟨0, 0, 0⟩ := by
            rw [EntityReport.counts, EntityReport.emitted, EntityReport.advisory,
              EntityReport.skippedMembers, hmembers e List.mem_cons_self hsome]
            rfl
          rw [hunread e List.mem_cons_self hsome, hcounts, hempty, Nat.zero_add]
      | none =>
          have hrow : rowCounts? (e.row width) = some e.counts := by
            rw [EntityReport.row, hskipped]
            exact rowCounts?_countRow _ _ _ _ _ _
          rw [hrow, List.map_cons, List.sum_cons]

/-- **The columns add up** to the numbers in the last row, which are the totals. -/
lemma columns_add_up (h : r.Closed) :
    rowCounts? r.lastRow = some ⟨r.totals.emitted, r.totals.advisory, r.totals.skipped⟩ ∧
      ((r.rows.filterMap rowCounts?).map Counts.emitted).sum = r.totals.emitted ∧
      ((r.rows.filterMap rowCounts?).map Counts.advisory).sum = r.totals.advisory ∧
      ((r.rows.filterMap rowCounts?).map Counts.skipped).sum = r.totals.skipped := by
  have hcolumn : ∀ column : Counts → Nat, column ⟨0, 0, 0⟩ = 0 →
      ((r.rows.filterMap rowCounts?).map column).sum =
        (r.entities.map fun e => column e.counts).sum
          + column ⟨countOutcomes Outcome.isEmitted r.functions,
            countOutcomes Outcome.isAdvisory r.functions,
            countOutcomes Outcome.isSkipped r.functions⟩ := by
    intro column hempty
    rw [rows, List.filterMap_append, List.map_append, List.sum_append,
      sum_entityRows hempty h.members fun e he hs => h.unread e he hs _,
      sum_functionsRow hempty h.functions]
  exact ⟨rowCounts?_countRow _ _ _ _ _ _,
    (hcolumn Counts.emitted rfl).trans (congrArg (· + _) (r.overEntities_eq _).symm),
    (hcolumn Counts.advisory rfl).trans (congrArg (· + _) (r.overEntities_eq _).symm),
    (hcolumn Counts.skipped rfl).trans (congrArg (· + _) (r.overEntities_eq _).symm)⟩

end RunReport

end FrameworkBindings
