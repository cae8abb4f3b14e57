import MapStyle.CommandLine.Run

/-!
# The program

The files that the arguments can name are read first; then `CommandLine.run` decides everything,
and its outcome goes to the two streams.
-/

namespace MapStyle.CommandLine

/-- The paths that a run can read: the config file, and the files to check. -/
def pathsNamed (workingDirectory : String) (arguments : List String) : List String :=
  let checked :=
    match Request.read? arguments with
    | some ⟨_, .check request⟩ => request.files
    | _ => []
  Location.resolve workingDirectory (Config.fileArgument arguments) :: checked

/-- The number by which the system says that an operation is not permitted. -/
def notPermitted : Nat := 1

/-- The problem that the system tells by a number, with its words for it. -/
def problemOf (number : Nat) (words : String) : FileProblem :=
  if number = notPermitted then .denied
  else
    ([.missing, .denied, .notDirectory, .isDirectory, .nameTooLong].find?
      fun problem => problem.number == number).getD (.refused number words)

/-- The number and the words of an error about a file, if the system told it. -/
def systemError? : IO.Error → Option (Nat × String)
  | .alreadyExists _ number words | .noFileOrDirectory _ number words
  | .invalidArgument _ number words | .permissionDenied _ number words
  | .resourceExhausted _ number words | .inappropriateType _ number words
  | .noSuchThing _ number words | .interrupted _ number words
  | .otherError number words | .resourceBusy number words | .resourceVanished number words
  | .unsupportedOperation number words | .hardwareFault number words
  | .unsatisfiedConstraints number words | .illegalOperation number words
  | .protocolError number words | .timeExpired number words => some (number.toNat, words)
  | .unexpectedEof | .userError _ => none

/-- What reading a path gives; an error that the system has not told is none of the file. -/
def readPath (path : String) : IO (Except FileProblem ByteArray) := do
  match ← (IO.FS.readBinFile path).toBaseIO with
  | .ok content => return .ok content
  | .error error =>
    match systemError? error with
    | some (number, words) => return .error (problemOf number words)
    | none => throw error

/-- The columns of a console of which nothing is known. -/
def defaultColumns : Nat := 80

/-- The columns of the console, as the environment tells them. -/
def columnsTold : IO Nat := do
  return ((← IO.getEnv "COLUMNS").bind String.toNat?).getD defaultColumns

/-- The files behind some paths, as they are now. -/
def snapshot (workingDirectory : String) (paths : List String) : IO FileSystem := do
  let found ← paths.mapM fun path => do return (path, ← readPath path)
  let columns ← columnsTold
  return ⟨workingDirectory, fun path =>
    if path.toList.contains '\x00' then .error .badPath
    else ((found.find? fun entry => entry.1 == path).map Prod.snd).getD (.error .missing), columns⟩

def Outcome.write (outcome : Outcome) : IO Unit := do
  (← IO.getStdout).putStr outcome.stdout
  let errors ← IO.getStderr
  errors.putStr outcome.stderr
  match outcome.usage with
  | none => pure ()
  | some "" => errors.putStrLn "The arguments cannot be understood."
  | some message => errors.putStrLn message

end MapStyle.CommandLine

open MapStyle in
/-- Run the program; a fault that is not the user's is told and ends it with exit code 1. -/
def main (arguments : List String) : IO UInt32 := do
  let workingDirectory := (← IO.currentDir).toString
  let files ← CommandLine.snapshot workingDirectory
    (CommandLine.pathsNamed workingDirectory arguments)
  match CommandLine.run files arguments with
  | .ok outcome => do
    outcome.write
    return outcome.exitCode.toUInt32
  | .error fault => do
    (← IO.getStderr).putStrLn (fault.message.getD "The program cannot go on.")
    return 1
