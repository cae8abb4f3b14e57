import MapStyle.Catalog
import MapStyle.CommandLine.Options
import MapStyle.Output.Print
import MapStyle.Report.Lines

/-!
# Running a command line

A run reads the config file, then the arguments, then does what they ask for.  It ends with an
exit code and two texts; what is said on the way comes first on the output, if it is asked for.

* `CommandLine.run` is the whole program, on the files that it sees.
-/

namespace MapStyle.CommandLine

/-- How a run ends: the exit code, what stands on the two streams, the message about a wrong use
(empty if the arguments could not be understood at all), whether the output is styled, and the help
screen that is shown after it. -/
structure Outcome where
  exitCode : Nat
  stdout : String
  stderr : String
  usage : Option String
  styled : Bool
  help : Option HelpScreen
deriving DecidableEq, Repr, Inhabited

/-- What a command comes to: the exit code and what it prints. -/
structure Printed where
  exitCode : Nat
  text : List Char
  styled : Bool
deriving Repr, Inhabited

/-! ## Settings in effect -/

def colorSetting (settings : List Setting) : Option Bool :=
  lastOf (fun s => match s with | .color b => some b | _ => none) settings

def indentSetting (settings : List Setting) : Option Int :=
  lastOf (fun s => match s with | .indent n => some n | _ => none) settings

/-- The theme setting among settings.  No theme has a name with half of a character, nor with its
escape. -/
def themeSetting (settings : List Setting) : Option String :=
  lastOf
    (fun s => match s with
      | .theme s => some s
      | .brokenTheme symbols => some (Text.escapedHalves symbols)
      | _ => none)
    settings

/-- The verbosity setting among settings. -/
def verboseSetting (settings : List Setting) : Bool :=
  (lastOf (fun s => match s with | .verbose b => some b | _ => none) settings).getD false

/-- What the command line says, else what the settings say. -/
def effective {α : Type} (given setting : Option α) : Option α :=
  match given with
  | some a => some a
  | none => setting

/-! ## The commands -/

/-- Print operations; a console line whose tags make no sense is a fault. -/
def printAll (columns : Nat) (operations : List OutputOperation) : Except Fault (List Char) :=
  (Output.printed columns operations).mapError .badMarkup

/-- A value as the output of a command; that it cannot be written is the user's problem. -/
def jsonOutput (value : Value) (indent : Int) (colored : Bool) (theme : String) :
    Except Fault (List OutputOperation) :=
  match Output.ofJson value indent colored theme with
  | .ok operations => .ok operations
  | .error (.unserializable problem) => .error (.usage (.unserializable problem))
  | .error fault => .error fault

/-- Print the catalog, or a part of it. -/
def runExamples (columns : Nat) (settings : List Setting) (request : ExamplesRequest) :
    Logged (Except Fault Printed) :=
  let indent := (effective request.indent (indentSetting settings)).getD Output.defaultIndent
  let colored := useColor (effective request.color (colorSetting settings))
  let theme := (effective request.theme (themeSetting settings)).getD Output.defaultTheme
  if indent < 0 then ⟨[], .error (.usage .negativeIndent)⟩
  else
    let selected := Catalog.select request.group request.name
    ⟨selected.log, do
      let value ← selected.result
      let operations ← jsonOutput value indent colored theme
      let text ← printAll columns operations
      return ⟨0, text, colored⟩⟩

/-- Print a report on documents.  A line that no stream takes ends it; nothing else does, so it does
not matter which lines come before. -/
def printReport (columns : Nat) (documents : List (String × Value)) (colored : Bool) :
    Except Fault (List Char) :=
  if documents.all fun document => Check.isShowable document.2 then
    printAll columns (Output.ofLines (Check.lines (Check.results documents) colored) colored)
  else .error (.badMarkup .halfCharacter)

/-- Check files and report on them. -/
def runCheck (system : FileSystem) (settings : List Setting) (request : CheckRequest) :
    Logged (Except Fault Printed) :=
  let colored := useColor (effective request.color (colorSetting settings))
  let loaded := Check.documents system request.files
  ⟨loaded.log, do
    let documents ← loaded.result
    let text ← printReport system.columns documents colored
    return ⟨if Check.problemCount (Check.results documents) = 0 then 0 else 1, text, colored⟩⟩

/-- Run a command under the settings of the config file. -/
def runAction (system : FileSystem) (settings : List Setting) (action : Action) :
    Logged (Except Fault Printed) :=
  match action with
  | .examples request =>
    let done := runExamples system.columns settings request
    ⟨Config.appliedLog .examples settings ++ done.log, done.result⟩
  | .check request =>
    let done := runCheck system settings request
    ⟨Config.appliedLog .check settings ++ done.log, done.result⟩

/-! ## The whole run -/

def messageLines (log : List LogEntry) : List Char :=
  log.flatMap fun entry => Output.line entry.message.toList

/-- The exit code after a wrong use. -/
def usageExit : Nat := 2

/-- How a run ends whose arguments cannot be understood. -/
def misused (stderr : String) (message : String) : Outcome :=
  ⟨usageExit, "", stderr, some message, false, none⟩

def helped (stderr : String) (screen : HelpScreen) : Outcome :=
  ⟨0, "", stderr, none, false, some screen⟩

/-- How a run ends once its config is loaded. -/
def runWith (system : FileSystem) (settings : List Setting) (stderr : String)
    (arguments : List String) : Except Fault Outcome :=
  match HelpScreen.asked? arguments, Request.read? arguments with
  | some screen, _ => .ok (helped stderr screen)
  | none, none => .ok (misused stderr "")
  | none, some request =>
    let done := runAction system settings request.action
    let said :=
      if request.verbose || verboseSetting settings then messageLines done.log else []
    match done.result with
    | .ok printed =>
      .ok ⟨printed.exitCode, String.ofList (said ++ printed.text), stderr, none, printed.styled,
        none⟩
    | .error (.usage problem) =>
      .ok ⟨usageExit, String.ofList said, stderr, some problem.message, false, none⟩
    | .error fault => .error fault

/-- Run the program on its arguments.  Warnings about the config are written even if the arguments
turn out to be wrong; a config that cannot be used ends the run before. -/
def run (system : FileSystem) (arguments : List String) : Except Fault Outcome :=
  let loaded := Config.load system arguments
  match loaded.result with
  | .ok config =>
    runWith system config.settings (String.ofList (messageLines loaded.log)) arguments
  | .error (.usage problem) => .ok (misused "" problem.message)
  | .error fault => .error fault

end MapStyle.CommandLine
