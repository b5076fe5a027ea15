import FrameworkBindings.Report.Outcome

/-!
# The table of a run

One row for each entity, one for all free functions, and the totals, in columns.  The first column
is as wide as the longest name is long in bytes; the padding fills up characters.

* `padLeft`, `padRight` — a text as wide as a column.
* `RunReport.table` — the table, one row a line.

With names outside of ASCII the two measures differ, and the column comes out wider than it had to
be; the columns behind it are in line all the same, since the padding counts what is seen.  A number
that is longer than its column is written in full and pushes the rest of its row.
-/

namespace FrameworkBindings

/-- The text with blanks behind it, `width` characters wide; a longer text stays as it is. -/
def padRight (width : Nat) (text : String) : String :=
  text ++ String.ofList (List.replicate (width - text.length) ' ')

/-- The text with blanks in front of it, `width` characters wide; a longer text stays as it is. -/
def padLeft (width : Nat) (text : String) : String :=
  String.ofList (List.replicate (width - text.length) ' ') ++ text

/-- A row of a table: a name, what it is, and three numbers or words.  The heading is a row as
well. -/
def tableRow (width : Nat) (name kind emitted advisory skipped : String) : String :=
  padRight width name ++ "  " ++ padRight 8 kind ++ "  " ++ padLeft 7 emitted ++ "  "
    ++ padLeft 8 advisory ++ "  " ++ padLeft 7 skipped ++ "\n"

/-- A row with numbers, in the columns of the heading. -/
def countRow (width : Nat) (name kind : String) (emitted advisory skipped : Nat) : String :=
  tableRow width name kind (toString emitted) (toString advisory) (toString skipped)

/-- The row of an entity: its counts, or why it was left out. -/
def EntityReport.row (width : Nat) (e : EntityReport) : String :=
  match e.skipped with
  | some reason =>
    padRight width e.name ++ "  " ++ padRight 8 e.kind ++ "  skipped: " ++ reason ++ "\n"
  | none => countRow width e.name e.kind e.emitted e.advisory e.skippedMembers

namespace RunReport

/-- The name in the row of the free functions. -/
def functionsTitle : String := "free functions"

/-- The width of the first column: the number of bytes of the longest name, the titles included. -/
def nameWidth (r : RunReport) : Nat :=
  (r.entities.map (·.name.utf8ByteSize)).foldr max
    (max functionsTitle.utf8ByteSize "ENTITY".utf8ByteSize)

/-- The row of the free functions: those that were written, and all others.  It is missing if there
are none. -/
def functionsRow (r : RunReport) : String :=
  if r.functions.isEmpty then ""
  else
    let emitted := countOutcomes Outcome.isEmitted r.functions
    countRow r.nameWidth functionsTitle "func" emitted 0 (r.functions.length - emitted)

/-- The table of a run: heading, entities, free functions, totals. -/
def table (r : RunReport) : String :=
  let width := r.nameWidth
  let totals := r.totals
  tableRow width "ENTITY" "KIND" "EMITTED" "ADVISORY" "SKIPPED"
    ++ String.join (r.entities.map (·.row width))
    ++ r.functionsRow
    ++ countRow width "TOTAL" (toString totals.entities) totals.emitted totals.advisory
      totals.skipped

end RunReport

end FrameworkBindings
