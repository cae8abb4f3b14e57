import MapStyle.CommandLine.Run
import MapStyle.Proofs.CommandLine.Requests
import MapStyle.Proofs.Files.Failures

/-!
# Runs that say nothing more

A run that is not asked to say more ends by what its command comes to; what is said on the way to
that is not shown.
-/

namespace MapStyle.CommandLine

open Config

/-- How a run ends that is given something it cannot use. -/
def rejected (stderr : String) (problem : UsageProblem) : Outcome :=
  ⟨usageExit, "", stderr, some problem.message, false, none⟩

/-- How a run ends by what its command comes to. -/
def ended (stderr : String) : Except Fault Printed → Except Fault Outcome
  | .ok printed =>
    .ok ⟨printed.exitCode, String.ofList printed.text, stderr, none, printed.styled, none⟩
  | .error (.usage problem) => .ok (rejected stderr problem)
  | .error fault => .error fault

/-- What stands on the error stream of a run: the warnings about its config. -/
def warningText (entries : Entries) : String := String.ofList (messageLines (warnings entries))

variable {system : FileSystem} {arguments : List String} {entries : Entries} {action : Action}

/-- A run whose config can be loaded and does not ask for more to be said ends by what its command
comes to. -/
theorem run_quiet (reads : Request.read? arguments = some ⟨false, action⟩)
    (loads : ofFile system (Location.resolve system.workingDirectory (fileArgument arguments)) =
      .ok (entries, false))
    (quiet : verboseSetting (settings entries) = false) :
    run system arguments =
      ended (warningText entries) (runAction system (settings entries) action).result := by
  have config : Config.load system arguments = _ := loadFile_of_entries loads
  rw [run, config]
  dsimp only
  rw [runWith, HelpScreen.asked?_of_read reads, reads]
  dsimp only
  rw [quiet]
  cases (runAction system (settings entries) action).result with
  | error fault => cases fault <;> rfl
  | ok printed => rfl

end MapStyle.CommandLine
