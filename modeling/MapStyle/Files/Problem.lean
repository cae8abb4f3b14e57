/-!
# File problems

Why the content of a file cannot be had, with the number and the words that the system has for it.
-/

namespace MapStyle

/-- Why the content of a file cannot be had.  A file that may not be read is `denied`.  Any other
refusal to open it is known by its number and its words, and so is a failure to read it once it is
open. -/
inductive FileProblem where
  | missing
  | denied
  | notDirectory
  | isDirectory
  | nameTooLong
  | badPath
  | refused (number : Nat) (words : String)
  | unfinished (number : Nat) (words : String)
deriving DecidableEq, Repr, Inhabited

namespace FileProblem

def number : FileProblem → Nat
  | .missing => 2
  | .denied => 13
  | .notDirectory => 20
  | .isDirectory => 21
  | .badPath => 22
  | .nameTooLong => 36
  | .refused number _ | .unfinished number _ => number

def text : FileProblem → String
  | .missing => "No such file or directory"
  | .denied => "Permission denied"
  | .notDirectory => "Not a directory"
  | .isDirectory => "Is a directory"
  | .nameTooLong => "File name too long"
  | .badPath => "Invalid argument"
  | .refused _ words | .unfinished _ words => words

/-- Whether the system names the file when it tells the problem. -/
def namesFile : FileProblem → Bool
  | .unfinished .. => false
  | _ => true

end FileProblem

end MapStyle
