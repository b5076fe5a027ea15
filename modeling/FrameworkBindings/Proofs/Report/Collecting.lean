import Mathlib.Algebra.GroupWithZero.Nat
import Mathlib.Data.List.Induction
import Mathlib.Data.List.Perm.Basic
import Mathlib.Tactic.Lemma
import FrameworkBindings.Report.Diagnostic

/-!
# What a collector keeps

A collector is worked on by operations, and what it holds in the end can be said from their history
alone.

**Histories.**  `recorded` lists the diagnostics that were added and not cleared away, each with the
context that the operations before it have left (`inForce`).  `after_eq` says that this is what the
collector holds, by induction on the history from its end.

**Categories.**  The diagnostics of the categories are those of the collector, sorted
(`perm_ofCategory`).

**The summary.**  A `Group` is what the summary says of a category.  `summary_eq` takes the text of
the summary apart into its first line and its groups.

**`nothing_lost`** joins the three for every history.

**What is said of a place.**  Whether a diagnostic is still there, and in which entity it is, is
decided for each place of the history on its own (`recordedAt`): by what comes behind it, and by
what came before.  This is said without running the collector, so that "not cleared away" and "in
force" mean what they say.

**What the summary leaves out.**  A group shows the first ten diagnostics.  It also says how many
there are and how many are not shown, so the numbers account for all of them (`sum_counts`).
-/

namespace FrameworkBindings

namespace Collector

/-! ## Histories -/

/-- What is done to a collector, with all that the caller says. -/
inductive Operation where
  | enter (entity : String)
  | leave
  | clear
  | add (d : Diagnostic)
  | addMember (category : Category) (member message : String)

namespace Operation

/-- The collector after an operation, by the function of the collector that does it. -/
def perform (c : Collector) : Operation → Collector
  | enter entity => c.enter entity
  | leave => c.leave
  | clear => c.clear
  | add d => c.add d
  | addMember category member message => c.addMember category member message

/-- The diagnostic that an operation adds, before the context has any say in it. -/
def added? : Operation → Option Diagnostic
  | add d => some d
  | addMember category member message => some { category, message, member := some member }
  | enter _ | leave | clear => none

/-- The context that an operation sets; clearing leaves the entity that is at hand as well. -/
def context? : Operation → Option (Option String)
  | enter entity => some (some entity)
  | leave | clear => some none
  | add _ | addMember _ _ _ => none

/-- Whether the operation forgets what was added. -/
def isClear : Operation → Bool
  | clear => true
  | _ => false

end Operation

/-- The collector after operations, done one after the other. -/
def after (c : Collector) (history : List Operation) : Collector :=
  history.foldl Operation.perform c

/-- The context after operations: the last that was set, none if none was. -/
def inForce (history : List Operation) : Option String :=
  (history.reverse.findSome? Operation.context?).getD none

/-- The diagnostic that was added in a place of a history and not cleared away: it keeps the entity
that it names, and gets the one in force if it names none. -/
def recordedAt (history : List Operation) (place : Nat) (operation : Operation) :
    Option Diagnostic :=
  if (history.drop place).any Operation.isClear then none
  else operation.added?.map fun d =>
    { d with entity := d.entity.or (inForce (history.take place)) }

/-- The diagnostics that were added and not cleared away, in order. -/
def recorded (history : List Operation) : List Diagnostic :=
  history.zipIdx.filterMap fun entry => recordedAt history entry.2 entry.1

variable {history : List Operation} {operation : Operation}

/-- A history that goes on is done after the first part of it. -/
lemma after_append (c : Collector) (history further : List Operation) :
    c.after (history ++ further) = (c.after history).after further :=
  List.foldl_append

/-- One more operation sets the context, or leaves it. -/
lemma inForce_concat (history : List Operation) (operation : Operation) :
    inForce (history ++ [operation]) = operation.context?.getD (inForce history) := by
  rw [inForce, List.reverse_append, List.reverse_singleton, List.singleton_append,
    List.findSome?_cons]
  cases operation.context? with
  | none => rfl
  | some context => rfl

/-- What comes later can only clear away what was added before. -/
lemma recordedAt_concat {place : Nat} (hplace : place < history.length) (added : Operation) :
    recordedAt (history ++ [operation]) place added =
      if operation.isClear then none else recordedAt history place added := by
  rw [recordedAt, recordedAt, List.take_append_of_le_length (Nat.le_of_lt hplace),
    List.drop_append_of_le_length (Nat.le_of_lt hplace), List.any_append, List.any_cons,
    List.any_nil, Bool.or_false]
  cases operation.isClear with
  | true => rw [Bool.or_true]; rfl
  | false => rw [Bool.or_false]; rfl

/-- The last operation is not cleared away, unless it clears itself away. -/
lemma recordedAt_last (history : List Operation) (operation : Operation) :
    recordedAt (history ++ [operation]) history.length operation =
      operation.added?.map (·.within (inForce history)) := by
  rw [recordedAt, List.drop_left, List.take_left]
  cases operation <;> rfl

/-- **One more operation** forgets everything, or may add a diagnostic. -/
lemma recorded_concat (history : List Operation) (operation : Operation) :
    recorded (history ++ [operation]) =
      if operation.isClear then []
      else recorded history ++ (operation.added?.map (·.within (inForce history))).toList := by
  have hbefore : history.zipIdx.filterMap
        (fun entry => recordedAt (history ++ [operation]) entry.2 entry.1) =
      if operation.isClear then [] else recorded history := by
    have hplaces : ∀ entry ∈ history.zipIdx,
        recordedAt (history ++ [operation]) entry.2 entry.1 =
          if operation.isClear then none else recordedAt history entry.2 entry.1 := by
      rintro ⟨added, place⟩ hentry
      exact recordedAt_concat (List.snd_lt_of_mem_zipIdx hentry) added
    rw [List.filterMap_congr hplaces]
    split
    · exact List.filterMap_none _
    · rfl
  rw [recorded, List.zipIdx_append, List.filterMap_append, hbefore]
  cases operation <;> simp [recordedAt_last, Operation.isClear, Operation.added?]

/-- **A collector holds what was recorded, in the context that is in force.** -/
lemma after_eq (history : List Operation) :
    ({} : Collector).after history = ⟨recorded history, inForce history⟩ := by
  induction history using List.reverseRecOn with
  | nil => rfl
  | append_singleton history operation ih =>
      rw [after_append, ih, recorded_concat, inForce_concat]
      cases operation with
      | enter entity | leave => exact congrArg (Collector.mk · _) (List.append_nil _).symm
      | clear => rfl
      | add d | addMember category member message => rfl

/-! ## Categories -/

/-- What is listed under a category is in the collector and of this category. -/
lemma mem_ofCategory {c : Collector} {category : Category} {d : Diagnostic} :
    d ∈ c.ofCategory category ↔ d ∈ c.entries ∧ d.category = category := by
  rw [ofCategory, List.mem_filter, beq_iff_eq]

/-- A diagnostic is listed under its category as often as it is in the collector. -/
lemma count_ofCategory (c : Collector) (category : Category) (d : Diagnostic) :
    (c.ofCategory category).count d = if d.category = category then c.entries.count d else 0 := by
  split
  · next h => exact List.count_filter (beq_iff_eq.2 h)
  · next h => exact List.count_eq_zero.2 fun hd => h (mem_ofCategory.1 hd).2

/-- The diagnostics of the categories are all diagnostics, since every category is in the list. -/
lemma perm_ofCategory (c : Collector) : (Category.all.flatMap c.ofCategory).Perm c.entries := by
  refine List.perm_iff_count.2 fun d => ?_
  rw [List.count_flatMap, Category.all]
  simp only [List.map_cons, List.map_nil, Function.comp_apply, count_ofCategory]
  cases d.category <;> simp

/-! ## The summary -/

/-- What the summary says of a category: how many diagnostics it has, which of them are shown, and
how many are not. -/
structure Group where
  category : Category
  count : Nat
  shown : List Diagnostic
  more : Option Nat

namespace Group

/-- The lines of a group: its title, the diagnostics that are shown and a last line on those that
are not. -/
def lines (g : Group) : List String :=
  ["## " ++ g.category.word ++ " (" ++ toString g.count ++ "):"]
    ++ g.shown.map (fun d => "  - " ++ d.line)
    ++ g.more.toList.map fun more => "  ... and " ++ toString more ++ " more"

/-- The text of a group: a blank line and its lines. -/
def text (g : Group) : String := String.join (("" :: g.lines).map (· ++ "\n"))

end Group

/-- The group of a category, as it should be. -/
def groupOf (c : Collector) (category : Category) : Group where
  category := category
  count := (c.ofCategory category).length
  shown := (c.ofCategory category).take (min 10 (c.ofCategory category).length)
  more :=
    if 10 < (c.ofCategory category).length then some ((c.ofCategory category).length - 10) else none

/-- The categories that occur, in the order in which the summary goes through them. -/
def occurring (c : Collector) : List Category :=
  Category.all.filter fun category => ∃ d ∈ c.entries, d.category = category

variable {c : Collector} {category : Category}

lemma ofCategory_eq_nil :
    c.ofCategory category = [] ↔ ¬ ∃ d ∈ c.entries, d.category = category := by
  rw [List.eq_nil_iff_forall_not_mem, not_exists]
  exact forall_congr' fun d => not_congr mem_ofCategory

/-- Where a category has nothing to say when it does not occur, those that occur say it all. -/
lemma flatMap_occurring {α : Type} {f : Category → List α}
    (h : ∀ category, c.ofCategory category = [] → f category = []) :
    c.occurring.flatMap f = Category.all.flatMap f := by
  rw [occurring]
  induction Category.all with
  | nil => rfl
  | cons category categories ih =>
      rw [List.filter_cons, List.flatMap_cons, ← ih]
      split
      · exact List.flatMap_cons
      · next hnone =>
          rw [h category (ofCategory_eq_nil.2 (by simpa using hnone)), List.nil_append]

/-- What the collector writes for a category is its group, with an empty line behind it. -/
lemma group_eq (h : c.ofCategory category ≠ []) :
    c.group category = (c.groupOf category).lines ++ [""] := by
  rw [group, if_neg (by rwa [List.isEmpty_iff]), shownPerCategory, Group.lines, groupOf,
    List.take_eq_take_min]
  split <;> rfl

/-- Lines in front of others each end in a line feed. -/
lemma intercalate_append_lines (lines : List String) {rest : List String} (h : rest ≠ []) :
    "\n".intercalate (lines ++ rest) =
      String.join (lines.map (· ++ "\n")) ++ "\n".intercalate rest := by
  induction lines with
  | nil => simp
  | cons line lines ih =>
      rw [List.cons_append, String.intercalate_cons_of_ne_nil (by simp [h]), ih, List.map_cons,
        String.join_cons, String.append_assoc, String.append_assoc, String.append_assoc]

/-- Groups are put after an empty line, and each ends with one. -/
lemma intercalate_groups (groups : List Group) :
    "\n".intercalate ("" :: groups.flatMap fun g => g.lines ++ [""]) =
      String.join (groups.map Group.text) := by
  induction groups with
  | nil => exact String.intercalate_singleton
  | cons g groups ih =>
      rw [List.flatMap_cons, List.append_assoc, List.singleton_append, ← List.cons_append,
        intercalate_append_lines _ (List.cons_ne_nil _ _), ih, ← Group.text, List.map_cons,
        String.join_cons]

/-- **The summary is its first line and the groups of the categories that occur.** -/
lemma summary_eq (h : c.entries ≠ []) :
    c.summary = "Found " ++ toString c.entries.length ++ " diagnostic(s):" ++ "\n"
      ++ String.join ((c.occurring.map c.groupOf).map Group.text) := by
  have hempty : c.isEmpty = false := List.isEmpty_eq_false_iff.2 h
  have hgroups : Category.all.flatMap c.group =
      (c.occurring.map c.groupOf).flatMap fun g => g.lines ++ [""] := by
    rw [← flatMap_occurring fun category hnone => by rw [group, hnone]; rfl, List.flatMap_map]
    refine List.flatMap_congr fun category hcategory => group_eq fun hnone => ?_
    exact ofCategory_eq_nil.1 hnone (by simpa using (List.mem_filter.1 hcategory).2)
  rw [summary, hempty, if_neg Bool.false_ne_true, hgroups, List.cons_append, List.singleton_append,
    String.intercalate_cons_of_ne_nil (List.cons_ne_nil _ _), intercalate_groups,
    String.append_assoc]

/-- The counts of the groups add up to the number of diagnostics. -/
lemma sum_counts (c : Collector) :
    ((c.occurring.map c.groupOf).map Group.count).sum = c.entries.length := by
  calc ((c.occurring.map c.groupOf).map Group.count).sum
      = (c.occurring.map fun category => (c.ofCategory category).length).sum := by
        rw [List.map_map]; rfl
    _ = (c.occurring.flatMap c.ofCategory).length := List.length_flatMap.symm
    _ = (Category.all.flatMap c.ofCategory).length := by rw [flatMap_occurring fun _ => id]
    _ = c.entries.length := (perm_ofCategory c).length_eq

/-! ## Together -/

/-- **Nothing is lost.**  After every history the collector holds the diagnostics that were added
since it was last cleared, in order, each in the entity that it names or in the one that was in
force.  The lists of the categories partition them and keep their order.  If there are any, the
summary gives their number, and after it a group for each category that occurs, in the order of the
categories: the counts of the groups add up to that number, and a group shows the first ten
diagnostics of its category and says how many more there are if there are more. -/
theorem nothing_lost (history : List Operation) :
    let c := ({} : Collector).after history
    c.entries = recorded history
      ∧ (Category.all.flatMap c.ofCategory).Perm c.entries
      ∧ (∀ category, (c.ofCategory category).Sublist c.entries
          ∧ ∀ d, d ∈ c.ofCategory category ↔ d ∈ c.entries ∧ d.category = category)
      ∧ (c.entries ≠ [] → ∃ groups : List Group,
          c.summary = "Found " ++ toString c.entries.length ++ " diagnostic(s):" ++ "\n"
              ++ String.join (groups.map Group.text)
            ∧ groups.map Group.category =
                Category.all.filter (fun category => ∃ d ∈ c.entries, d.category = category)
            ∧ (groups.map Group.count).sum = c.entries.length
            ∧ ∀ g ∈ groups, g.count = (c.ofCategory g.category).length
                ∧ g.shown = (c.ofCategory g.category).take (min 10 g.count)
                ∧ g.more = if 10 < g.count then some (g.count - 10) else none) := by
  intro c
  refine ⟨congrArg Collector.entries (after_eq history), perm_ofCategory c, fun category =>
    ⟨List.filter_sublist, fun d => mem_ofCategory⟩, fun h => ⟨c.occurring.map c.groupOf,
      summary_eq h, ?_, sum_counts c, ?_⟩⟩
  · rw [List.map_map]
    exact List.map_id _
  · intro g hg
    obtain ⟨category, -, rfl⟩ := List.mem_map.1 hg
    exact ⟨rfl, rfl, rfl⟩

/-- A class before the last clearing, twelve remarks on another class, and one that is on none. -/
def thirteen : List Operation :=
  [.enter "NSView", .addMember .missingCast "frame" "no cast", .clear, .enter "NSAlert"]
    ++ List.replicate 12 (.addMember .unrepresentableType "window" "no spelling")
    ++ [.leave, .add { category := .duplicate, message := "taken" }]

/-- Thirteen diagnostics in two groups: the one before the clearing is gone, and those that are not
shown are counted. -/
theorem nothing_lost_of_thirteen :
    let c := ({} : Collector).after thirteen
    c.entries ≠ [] ∧ ∃ groups : List Group,
      c.summary = "Found 13 diagnostic(s):" ++ "\n" ++ String.join (groups.map Group.text)
        ∧ groups.map Group.category = [.unrepresentableType, .duplicate]
        ∧ (groups.map Group.count).sum = 13 := by
  have hne : (({} : Collector).after thirteen).entries ≠ [] := by decide
  have hlength : (({} : Collector).after thirteen).entries.length = 13 := rfl
  obtain ⟨-, -, -, hsummary⟩ := nothing_lost thirteen
  obtain ⟨groups, htext, hcategories, hsum, -⟩ := hsummary hne
  refine ⟨hne, groups, ?_, hcategories.trans (by decide), hsum.trans hlength⟩
  rw [htext, hlength]
  rfl

end Collector

end FrameworkBindings
