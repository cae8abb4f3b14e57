import MapStyle.Files.Document
import MapStyle.Markup.Basic
import MapStyle.Report.Basic
import MapStyle.Report.Log
import MapStyle.Shape.Document

/-!
# Check reports

Checking files and telling what was found: one line for each problem, and one line for each file
that has none.

* `Check.documents` loads a list of files and `Check.files` checks them, one after the other.
* `Check.lines` are the lines of a report, with style tags if color is on.
-/

namespace MapStyle

/-! ## Styles -/

/-- Whether color is used: as asked for, and not by default, since the output is no terminal. -/
def useColor (asked : Option Bool) : Bool := asked.getD false

/-- A text in a style: escaped between tags if color is on, as it is otherwise. -/
def colorize (text style : String) (enabled : Bool) : String :=
  if enabled then
    String.ofList ('[' :: style.toList ++ ']' :: Markup.escape text.toList ++ ['[', '/', ']'])
  else text

/-- The style of the label of a file without problems. -/
def okStyle : String := "bold green"

def problemStyle : String := "bold red"

def pathStyle : String := "dim white"

/-- The label of a file without problems. -/
def okLabel (enabled : Bool) : String := colorize "OK" okStyle enabled

def problemText (text : String) (enabled : Bool) : String := colorize text problemStyle enabled

def pathLabel (path : String) (enabled : Bool) : String := colorize path pathStyle enabled

namespace Check

/-- The messages of the problems of a document. -/
def problems (document : Value) : List String :=
  (Shape.documentProblems document).map DocumentProblem.message

/-- What is said before a file is checked. -/
def announcement (path : String) : LogEntry := .info ("Checking " ++ path)

/-- Load files one after the other; the first one that cannot be loaded ends it. -/
def documents (system : FileSystem) : List String → Logged (Except Fault (List (String × Value)))
  | [] => ⟨[], .ok []⟩
  | path :: rest =>
    match Document.load system path with
    | .error fault => ⟨[announcement path], .error fault⟩
    | .ok document =>
      let others := documents system rest
      ⟨announcement path :: others.log, others.result.map fun loaded => (path, document) :: loaded⟩

def results (documents : List (String × Value)) : List CheckResult :=
  documents.map fun document => ⟨document.1, problems document.2⟩

/-- Check files one after the other; the first one that cannot be loaded ends it. -/
def files (system : FileSystem) (paths : List String) : Logged (Except Fault (List CheckResult)) :=
  let loaded := documents system paths
  ⟨loaded.log, loaded.result.map results⟩

/-- Whether all that is found in a document can be shown. -/
def isShowable (document : Value) : Bool :=
  (Shape.documentProblems document).all DocumentProblem.isWhole

def resultLines (enabled : Bool) (result : CheckResult) : List String :=
  if result.isClean then [pathLabel result.path enabled ++ ": " ++ okLabel enabled]
  else result.problems.map fun problem =>
    pathLabel result.path enabled ++ ": " ++ problemText problem enabled

/-- The lines of a report. -/
def lines (results : List CheckResult) (enabled : Bool) : List String :=
  results.flatMap (resultLines enabled)

/-- How many problems were found in all. -/
def problemCount (results : List CheckResult) : Nat :=
  (results.flatMap fun result => result.problems).length

end Check

end MapStyle
