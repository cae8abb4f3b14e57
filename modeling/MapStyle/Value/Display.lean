import MapStyle.Number.Shortest
import MapStyle.Text.Console
import MapStyle.Text.Quoted
import MapStyle.Value.Basic
import MapStyle.Value.Outline

/-!
# Values in messages

How a message shows a value.  A text is shown as it is; inside a container it is quoted.  Containers
are shown between brackets of their own kind, and an object by its kind with its fields.

* `Value.outline` is a value with its brackets.
* `Value.inspect` shows a value inside a container, `Value.display` shows it on its own.
-/

namespace MapStyle

/-- A boolean as a message shows it. -/
def boolText (b : Bool) : String := if b then "True" else "False"

def consoleText (columns : Nat) (colored : Bool) : String :=
  "<console width=" ++ toString columns ++ " "
    ++ (if colored then "ColorSystem.STANDARD" else "None") ++ ">"

namespace Value

def mapOutline (entries : List Outline) : Outline := .ofItems "\x7b" entries "\x7d" false

/-- An object by its kind, with its fields, each after its name. -/
def objectOutline (object : Value) (fields : List Outline) : Outline :=
  .ofItems (object.kindName ++ "(")
    (object.fields.zipWith (fun field shown => shown.labelled (field.1 ++ "=")) fields) ")" false

mutual

/-- A value with its brackets; `again` is shown for a map that stands within itself. -/
def outline (again : String) : Value → Outline
  | .null => .leaf "None"
  | .bool b => .leaf (boolText b)
  | .int n => .leaf (integerText n)
  | .float x => .leaf x.text
  | .str s => .leaf (Text.quoted s)
  | .broken symbols => .leaf (Text.quotedSymbols symbols)
  | .list items => .ofItems "[" (outlines again items) "]" false
  | .tuple items => .ofItems "(" (outlines again items) ")" (items.length == 1)
  | .map es => mapOutline (entryOutlines again es)
  | .scope es =>
    let kind := (Value.scope es).kindName
    .ofItems (kind ++ "(\x7b") (entryOutlines again es) "\x7d)" false
  | .expression v => objectOutline (.expression v) [outline again v]
  | .caseChain cs => objectOutline (.caseChain cs) [outline again cs]
  | .pendingCase cs c =>
    objectOutline (.pendingCase cs c)
      [objectOutline (.caseChain cs) [outline again cs], outline again c]
  | .matchChain s cs => objectOutline (.matchChain s cs) [outline again s, outline again cs]
  | .matchEnding s cs =>
    objectOutline (.matchEnding s cs)
      [objectOutline (.matchChain s cs) [outline again s, outline again cs]]
  | .letChain bs => objectOutline (.letChain bs) [outline again bs]
  | .varBindings es => objectOutline (.varBindings es) [mapOutline (entryOutlines again es)]
  | .property v => objectOutline (.property v) [outline again v]
  | .constant v => objectOutline (.constant v) [outline again v]
  | .checkResult p ps => objectOutline (.checkResult p ps) [outline again p, outline again ps]
  | .loadedConfig p d => objectOutline (.loadedConfig p d) [outline again p, outline again d]
  | .preparedOutput os => objectOutline (.preparedOutput os) [outline again os]
  | .outputOperation k t r m =>
    objectOutline (.outputOperation k t r m)
      [outline again k, outline again t, outline again r, outline again m]
  | .record _ => .leaf again
  | .console _ columns colored => .leaf (consoleText columns colored)
  | other => .leaf ("<" ++ other.kindName ++ ">")

/-- The items of a list with their brackets. -/
def outlines (again : String) : List Value → List Outline
  | [] => []
  | item :: items => outline again item :: outlines again items

/-- The entries of a map with their brackets, each after its key. -/
def entryOutlines (again : String) : List (Value × Value) → List Outline
  | [] => []
  | (key, entry) :: entries =>
    (outline again entry).labelled ((outline again key).flat ++ ": ") :: entryOutlines again entries

end

/-- A value as a message shows it inside a container. -/
def inspect (v : Value) : String := (v.outline "\x7b...\x7d").flat

/-- A value as a message shows it on its own: a text as it is, and a view of the scope as the map
that it is a view of. -/
def display : Value → String
  | .str s => s
  | .broken symbols => Text.escapedHalves symbols
  | .scope es => (Value.map es).inspect
  | other => other.inspect

/-- A value as a console of some columns shows it, on as many lines as it takes. -/
def onLines (columns : Nat) (v : Value) : String :=
  "\n".intercalate ((v.outline "...").lines columns)

end Value

end MapStyle
