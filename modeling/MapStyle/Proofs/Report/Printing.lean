import MapStyle.Output.Print
import MapStyle.Report.Lines

/-!
# Printed reports

A report is printed line by line, and can be printed if each of its lines can.

* `Check.printed_ofLines_of_each` puts what is shown of the lines together.
* `Check.printed_lines` is a report without color.
-/

namespace MapStyle.Check

variable {columns : Nat}

theorem printed_ofLines_of_each {α : Type} {text : α → String} {chars : α → List Char}
    {markup : Bool} {items : List α}
    (each : ∀ a ∈ items, Output.operationText columns (.line (text a) markup) = .ok (chars a)) :
    Output.printed columns (Output.ofLines (items.map text) markup) = .ok (items.flatMap chars) := by
  induction items with
  | nil => rfl
  | cons a items ih =>
      rw [List.forall_mem_cons] at each
      have rest := ih each.2
      rw [Output.ofLines] at rest
      rw [Output.ofLines, List.map_cons, List.map_cons, Output.printed, each.1, rest]
      rfl

/-- What a line shows on the console without color. -/
def lineChars (columns : Nat) (line : String) : List Char :=
  Output.line (Text.onConsole columns (Text.replaceEmoji line.toList))

/-- The report about one file without color. -/
def reportChars (columns : Nat) (result : CheckResult) : List Char :=
  (resultLines false result).flatMap (lineChars columns)

theorem printed_ofLines (lines : List String) :
    Output.printed columns (Output.ofLines lines false) =
      .ok (lines.flatMap (lineChars columns)) := by
  have each : ∀ line ∈ lines,
      Output.operationText columns (.line (id line) false) = .ok (lineChars columns line) :=
    fun _ _ => rfl
  rw [← printed_ofLines_of_each each, List.map_id]

/-- The report without color is the reports about the files one after the other. -/
theorem printed_lines (results : List CheckResult) :
    Output.printed columns (Output.ofLines (lines results false) false) =
      .ok (results.flatMap (reportChars columns)) := by
  rw [printed_ofLines, lines, List.flatMap_assoc]
  rfl

end MapStyle.Check
