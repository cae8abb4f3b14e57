import MapStyle.Value.Basic

/-!
# Check results

What the checker found in one file.
-/

namespace MapStyle

/-- The structural problems found in one file, in the order they were found. -/
structure CheckResult where
  path : String
  problems : List String
deriving DecidableEq, Repr, Inhabited

namespace CheckResult

/-- A file without problems. -/
def isClean (r : CheckResult) : Bool := r.problems.isEmpty

def toValue (r : CheckResult) : Value :=
  .checkResult (.str r.path) (.tuple (r.problems.map Value.str))

end CheckResult

end MapStyle
