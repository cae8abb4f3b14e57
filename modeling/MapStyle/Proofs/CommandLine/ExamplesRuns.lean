import MapStyle.Proofs.Catalog.Selection
import MapStyle.Proofs.CommandLine.QuietRuns
import MapStyle.Proofs.CommandLine.Requests
import MapStyle.Proofs.Config.Entries
import MapStyle.Proofs.Json.Keys

/-!
# Printing the catalog

A run that prints a part of the catalog prints just the JSON text of what is selected.  What the
command line says counts more than the config file, and that more than what is built in.

* `QuietExamples` gathers what a line of options and a config come to.
* `run_examples_refines` is the statement for whole command lines.
-/

namespace MapStyle.CommandLine

open Config

/-- What the command comes to for what is selected, under an indent, a color and a theme. -/
def shown (columns : Nat) (selected : Except Fault Value) (indent : Int) (colored : Bool)
    (theme : String) : Except Fault Printed :=
  if indent < 0 then .error (.usage .negativeIndent)
  else do
    let value ← selected
    let operations ← jsonOutput value indent colored theme
    let text ← printAll columns operations
    return ⟨0, text, colored⟩

theorem effective_eq {α : Type} (given setting : Option α) :
    effective given setting = given.or setting := by
  cases given <;> rfl

theorem runExamples_result (columns : Nat) (all : List Setting) (request : ExamplesRequest) :
    (runExamples columns all request).result = shown columns
      (Catalog.select request.group request.name).result
      ((request.indent.or (indentSetting all)).getD 2)
      ((request.color.or (colorSetting all)).getD false)
      ((request.theme.or (themeSetting all)).getD Output.defaultTheme) := by
  dsimp only [runExamples, useColor]
  rw [effective_eq, effective_eq, effective_eq, shown]
  have two : Output.defaultIndent = 2 := rfl
  rw [two]
  split_ifs <;> rfl

/-! ## What is in effect -/

/-- The indent in effect: the one that is asked for, else the one of the config, else two. -/
def indentInEffect (asked : Option Int) (entries : Entries) : Int :=
  (asked.or (indentOf entries)).getD 2

/-- The color in effect: as asked for, else as the config says, else none. -/
def colorInEffect (given : Option Bool) (entries : Entries) : Bool :=
  (given.or (colorOf entries)).getD false

/-- The command line that prints a part of the catalog. -/
def examplesLine (options : List String) : List String := Command.examples.name :: options

/-- A line that the command accepts and that does not ask for help, with at most one group and an
integer as its last indent, under a config that can be loaded and does not ask for more to be
said. -/
structure QuietExamples (system : FileSystem) (options : List String)
    (scanned : Scanned ExamplesOption) (asked : Option Int) (entries : Entries) : Prop where
  scans : Scans ExamplesOption.form? options scanned
  noHelp : .help ∉ scanned.options
  oneGroup : scanned.arguments.length ≤ 1
  indent : lastIndent? scanned.options = some asked
  loads : ofFile system
    (Location.resolve system.workingDirectory (fileArgument (examplesLine options))) =
      .ok (entries, false)
  quiet : verboseOf entries ≠ some true

variable {system : FileSystem} {options : List String} {scanned : Scanned ExamplesOption}
  {asked : Option Int} {entries : Entries}

/-- The part of the catalog that a line asks for. -/
def selection (scanned : Scanned ExamplesOption) : Except Fault Value :=
  (Catalog.select scanned.arguments.head? (lastOf ExamplesOption.name? scanned.options)).result

theorem nodup_keys_of_loads {path : String} (loads : ofFile system path = .ok (entries, false)) :
    entries.keys.Nodup := by
  unfold ofFile at loads
  split at loads
  · next members reads =>
      cases loads
      exact Document.nodup_keys_of_read reads
  all_goals cases loads
  exact List.nodup_nil

/-- A run ends by what the command comes to under what is in effect. -/
theorem run_examplesLine (line : QuietExamples system options scanned asked entries) :
    ∃ theme, run system (examplesLine options) =
      ended (warningText entries) (shown system.columns (selection scanned)
        (indentInEffect asked entries)
        (colorInEffect (lastOf ExamplesOption.color? scanned.options) entries) theme) := by
  have distinct := nodup_keys_of_loads line.loads
  have quiet : verboseSetting (settings entries) = false := by
    rw [verboseSetting_eq distinct]
    cases same : verboseOf entries with
    | none => rfl
    | some enabled =>
        cases enabled with
        | false => rfl
        | true => exact absurd same line.quiet
  have reads := ExamplesRequest.read?_eq_some_iff.mpr
    ⟨scanned, line.scans, line.noHelp, line.oneGroup, asked, line.indent, rfl⟩
  have request := congrArg (Option.map fun asked => Request.mk false (.examples asked)) reads
  rw [← Request.read?_examples, Option.map_some] at request
  have ends := run_quiet request line.loads quiet
  dsimp only [runAction] at ends
  rw [runExamples_result, indentSetting_eq distinct, colorSetting_eq] at ends
  exact ⟨_, ends⟩

/-! ## What is shown -/

variable {columns : Nat}

theorem shown_of_negative {selected : Except Fault Value} {indent : Int} (negative : indent < 0)
    (colored : Bool) (theme : String) :
    shown columns selected indent colored theme = .error (.usage .negativeIndent) := if_pos negative

theorem shown_of_error {fault : Fault} {indent : Int} (isIndent : 0 ≤ indent) (colored : Bool)
    (theme : String) : shown columns (.error fault) indent colored theme = .error fault :=
  if_neg (Int.not_lt.mpr isIndent)

/-- What cannot be written is not shown. -/
theorem shown_of_unwritten {v : Value} {indent : Int} (isIndent : 0 ≤ indent)
    (fails : Json.writeText v indent = .error .oversizedIndent) (colored : Bool) (theme : String) :
    shown columns (.ok v) indent colored theme = .error .oversizedIndent := by
  have output : jsonOutput v indent colored theme = .error .oversizedIndent := by
    rw [jsonOutput, Output.ofJson, fails]
    rfl
  rw [shown, if_neg (Int.not_lt.mpr isIndent)]
  dsimp only [bind, Except.bind]
  rw [output]

/-- Without color the text of what is selected is shown, and nothing else. -/
theorem shown_of_writes {v : Value} {indent : Int} (isIndent : 0 ≤ indent) {text : String}
    (writes : Json.writeText v indent = .ok text) (theme : String) :
    shown columns (.ok v) indent false theme = .ok ⟨0, Output.line text.toList, false⟩ := by
  have output : jsonOutput v indent false theme = .ok [.write text] := by
    rw [jsonOutput, Output.ofJson, writes]
    rfl
  rw [shown, if_neg (Int.not_lt.mpr isIndent)]
  dsimp only [bind, Except.bind]
  rw [output]
  dsimp only [printAll, Output.printed, Output.operationText, bind, Except.bind]
  rw [List.append_nil]
  rfl

/-- What is shown is styled just if color is on. -/
theorem styled_of_shown {selected : Except Fault Value} {indent : Int} {colored : Bool}
    {theme : String} {printed : Printed}
    (shows : shown columns selected indent colored theme = .ok printed) :
    printed.styled = colored := by
  unfold shown at shows
  split_ifs at shows
  obtain ⟨value, -, shows⟩ := except_bind_eq_ok.mp shows
  obtain ⟨operations, -, shows⟩ := except_bind_eq_ok.mp shows
  obtain ⟨text, -, shows⟩ := except_bind_eq_ok.mp shows
  cases shows
  rfl

/-! ## Whole command lines -/

/-- A run that prints a part of the catalog refines its parts.  Under a negative indent, or if there
is no such part, it is a wrong use and shows nothing.  Otherwise the text of the part and a line
feed after it are all that is shown; there is a text for every indent below `2 ^ 63`, and for a
wider one only if the part is itself a text, or else the run ends by the indent and shows nothing.
What is wrong with the config stands on the error stream only.  The indent and the color are those
of the last option, else of the entry of the config if that is valid, else what is built in. -/
theorem run_examples_refines (line : QuietExamples system options scanned asked entries) :
    let indent := indentInEffect asked entries
    let colored := colorInEffect (lastOf ExamplesOption.color? scanned.options) entries
    ((∃ v, selection scanned = .ok v) ∨ ∃ problem, selection scanned = .error (.usage problem)) ∧
    (indent < 0 ∨ (∃ problem, selection scanned = .error (.usage problem)) →
      ∃ outcome, run system (examplesLine options) = .ok outcome ∧
        outcome.exitCode = 2 ∧ outcome.stdout = "") ∧
    (0 ≤ indent → colored = false → ∀ v, selection scanned = .ok v →
      (indent < Nat.pow 2 63 ∨ v.isText = true → ∃ text, Json.writeText v indent = .ok text) ∧
      (∀ text, Json.writeText v indent = .ok text →
        run system (examplesLine options) =
          .ok ⟨0, text ++ "\n", warningText entries, none, false, none⟩) ∧
      (Nat.pow 2 63 ≤ indent → v.isText = false →
        Json.writeText v indent = .error .oversizedIndent ∧
        run system (examplesLine options) = .error .oversizedIndent)) ∧
    ∀ outcome, run system (examplesLine options) = .ok outcome → outcome.exitCode = 0 →
      outcome.styled = colored := by
  intro indent colored
  obtain ⟨theme, ends⟩ := run_examplesLine line
  have selected := Catalog.select_ok_or_usage scanned.arguments.head?
    (lastOf ExamplesOption.name? scanned.options)
  refine ⟨selected, ?_, ?_, ?_⟩
  · intro wrong
    rw [ends]
    by_cases negative : indent < 0
    · rw [shown_of_negative negative]
      exact ⟨_, rfl, rfl, rfl⟩
    · rcases wrong with negative' | ⟨problem, fails⟩
      · exact absurd negative' negative
      · rw [fails, shown_of_error (Int.not_lt.mp negative)]
        exact ⟨_, rfl, rfl, rfl⟩
  -- without color the theme plays no part
  · intro isIndent plain v selects
    rw [ends, selects]
    refine ⟨?_, fun text writes => ?_, fun wide other => ?_⟩
    · rintro (narrow | isText)
      · exact Json.exists_writeText_of_room (Catalog.writeProblem?_of_select selects)
          (Json.indentFault?_of_lt narrow)
      · exact Json.exists_writeText_of_text isText _
    · have whole : String.ofList (Output.line text.toList) = text ++ "\n" := by
        rw [Output.line, String.ofList_append, String.ofList_toList]
      have off : colorInEffect (lastOf ExamplesOption.color? scanned.options) entries = false :=
        plain
      rw [off, shown_of_writes isIndent writes, ended]
      dsimp only
      rw [whole]
    · have fails := Json.writeText_of_no_room (Json.indentFault?_of_le wide) other
      rw [shown_of_unwritten isIndent fails]
      exact ⟨fails, rfl⟩
  · intro outcome isOutcome success
    rw [ends] at isOutcome
    unfold ended at isOutcome
    split at isOutcome
    · next printed shows =>
        cases isOutcome
        exact styled_of_shown shows
    · cases isOutcome
      cases success
    · cases isOutcome

/-- One example on one line: of two indents the last one counts. -/
theorem run_examples_refines_zoom :
    let system := FileTree.toFileSystem ⟨"/work", 1, []⟩
    let options := ["--indent=4", "basic", "--name", "zoom", "--indent", " 0 "]
    let scanned : Scanned ExamplesOption := ⟨[.indent "4", .name "zoom", .indent " 0 "], ["basic"]⟩
    QuietExamples system options scanned (some 0) [] ∧
      run system (examplesLine options) =
        .ok ⟨0, "[\x22zoom\x22]" ++ "\n", "", none, false, none⟩ := by
  intro system options scanned
  have line : QuietExamples system options scanned (some 0) [] :=
    ⟨scan_eq_some_iff.mp rfl, by decide, by decide, by decide, ofFile_of_missing (by decide +kernel),
      by decide⟩
  obtain ⟨-, -, shows, -⟩ := run_examples_refines line
  obtain ⟨-, whole, -⟩ := shows (by decide) rfl _ rfl
  exact ⟨line, whole "[\x22zoom\x22]" rfl⟩

/-- An indent for which there is no room is accepted, but nothing is shown for it and the run does
not even end as a wrong use. -/
theorem run_examples_no_room :
    let system := FileTree.toFileSystem ⟨"/work", 1, []⟩
    let options := ["basic", "--name", "zoom", "--indent", "9223372036854775808"]
    let scanned : Scanned ExamplesOption :=
      ⟨[.name "zoom", .indent "9223372036854775808"], ["basic"]⟩
    QuietExamples system options scanned (some 9223372036854775808) [] ∧
      0 ≤ indentInEffect (some 9223372036854775808) [] ∧
      colorInEffect (lastOf ExamplesOption.color? scanned.options) [] = false ∧
      selection scanned = .ok (.list [.str "zoom"]) ∧
      run system (examplesLine options) = .error .oversizedIndent := by
  intro system options scanned
  have line : QuietExamples system options scanned (some 9223372036854775808) [] :=
    ⟨scan_eq_some_iff.mp rfl, by decide, by decide, by decide, ofFile_of_missing (by decide +kernel),
      by decide⟩
  refine ⟨line, by decide, rfl, rfl, ?_⟩
  obtain ⟨theme, ends⟩ := run_examplesLine line
  rw [ends]
  rfl

end MapStyle.CommandLine
