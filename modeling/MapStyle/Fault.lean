import MapStyle.Files.Problem
import MapStyle.Json.Problem
import MapStyle.Markup.Problem
import MapStyle.Shape.Problem
import MapStyle.Text.Quoted

/-!
# Faults

Every way in which a call of the library can fail, by cause, and the message for each cause that has
one.
-/

namespace MapStyle

/-- What a user of the command line did wrong. -/
inductive UsageProblem where
  | fileNotFound (path : String)
  | permissionDenied (path : String)
  | unreadable (path : String) (problem : FileProblem)
  | notOpen (number : Int)
  | badJson (path : String) (problem : Json.Problem)
  | malformedConfig
  | unknownGroup (name : String) (available : List String)
  | unknownExample (name : String)
  | negativeIndent
  | unserializable (problem : Json.WriteProblem)
deriving DecidableEq, Repr, Inhabited

/-- Why a call failed. -/
inductive Fault where
  /-- The callback of a functional `let` answered something that is not a set of bindings. -/
  | notBindings (kind : String)
  /-- A variable was named by something that is neither a text nor a map. -/
  | notVariable (kind : String)
  /-- A value is not a forged expression. -/
  | expressionShape (problem : ExpressionProblem)
  /-- A value is not a layer record. -/
  | layerShape (problem : LayerProblem)
  /-- A value cannot be written as JSON. -/
  | unserializable (problem : Json.WriteProblem)
  /-- The user gave something that cannot be used. -/
  | usage (problem : UsageProblem)
  /-- A name is not bound. -/
  | missingKey (name : String)
  /-- A map has no entry under a key that is not a text. -/
  | missingEntry (shown : String)
  /-- A list has no item of that index. -/
  | badIndex
  /-- A value has no operation of that name. -/
  | missingMember (kind member : String)
  /-- The bytes of a file are not UTF-8. -/
  | undecodable
  /-- An integer numeral has too many digits. -/
  | oversizedInteger
  /-- An indent is wider than any text. -/
  | oversizedIndent
  /-- There is no room for what is wanted. -/
  | outOfMemory
  /-- A path holds a character that no path can hold. -/
  | badPath
  /-- A line cannot be shown. -/
  | badMarkup (problem : Markup.Problem)
  /-- A sequence has another length than two where a pair is wanted. -/
  | badPair
  /-- A view of the scope or a console cannot be copied. -/
  | uncopyable
  /-- An argument is of a kind that the call cannot use. -/
  | mistyped
deriving DecidableEq, Repr, Inhabited

def UsageProblem.message : UsageProblem → String
  | .fileNotFound path => "File '" ++ path ++ "' not found"
  | .permissionDenied path => "Permission denied for '" ++ path ++ "'"
  | .unreadable path problem =>
    "Cannot read '" ++ path ++ "': [Errno " ++ toString problem.number ++ "] " ++ problem.text
      ++ (if problem.namesFile then ": " ++ Text.quoted path else "")
  | .notOpen number => "Cannot read '" ++ toString number ++ "': [Errno 9] Bad file descriptor"
  | .badJson path problem => "Invalid JSON in '" ++ path ++ "': " ++ problem.message
  | .malformedConfig => "Malformed config"
  | .unknownGroup name available =>
    "Unknown example group '" ++ name ++ "'. Available: " ++ ", ".intercalate available
  | .unknownExample name => "Unknown example '" ++ name ++ "'"
  | .negativeIndent => "--indent must be non-negative"
  | .unserializable problem => "Cannot serialize output as JSON: " ++ problem.message

/-- The message of a fault, for the causes that have one. -/
def Fault.message : Fault → Option String
  | .notBindings kind => some ("expected bindings wrapper from let callback, got " ++ kind)
  | .notVariable kind =>
    some ("var() expects a variable name or a mapping of bindings, got " ++ kind)
  | .expressionShape problem => some problem.message
  | .layerShape problem => some problem.message
  | .unserializable problem => some (UsageProblem.unserializable problem).message
  | .usage problem => some problem.message
  | .missingKey name => some (Text.quoted name)
  | .missingEntry shown => some shown
  | .missingMember kind member =>
    some ("'" ++ kind ++ "' object has no attribute '" ++ member ++ "'")
  | .badIndex | .undecodable | .oversizedInteger | .oversizedIndent | .outOfMemory | .badPath
  | .badMarkup _ | .badPair | .uncopyable | .mistyped => none

end MapStyle
