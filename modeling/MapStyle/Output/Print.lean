import MapStyle.Json.Writer
import MapStyle.Markup.Render
import MapStyle.Output.Highlight

/-!
# Printing

Prepared output becomes text on the stream.  JSON is written as it is, or highlighted in color.

* `Output.ofJson` and `Output.ofLines` prepare output, `Output.printed` is what it prints on a
  console of some columns.
-/

namespace MapStyle.Output

def defaultTheme : String := "github-dark"

def defaultIndent : Int := 2

/-- The name of a theme without blanks around it, or the default one if nothing is left. -/
def themeName (theme : String) : String :=
  match Text.strip theme.toList with
  | [] => defaultTheme
  | name => String.ofList name

/-- Output of a value as JSON, highlighted if color is on. -/
def ofJson (value : Value) (indent : Int) (colored : Bool) (theme : String) :
    Except Fault (List OutputOperation) := do
  let text ← Json.writeText value indent
  return [if colored then .highlight text (themeName theme) else .write text]

def ofLines (lines : List String) (markup : Bool) : List OutputOperation :=
  lines.map fun line => .line line markup

/-! ## Operations -/

def line (text : List Char) : List Char := text ++ ['\n']

/-- What a console shows of a line: its text with emoji, and without its tags if it has markup. -/
def lineText (columns : Nat) (text : List Char) (markup : Bool) :
    Except Markup.Problem (List Char) :=
  if markup then Markup.render columns text
  else .ok (Text.onConsole columns (Text.replaceEmoji text))

/-- What one operation prints; a line whose tags make no sense cannot be printed. -/
def operationText (columns : Nat) : OutputOperation → Except Markup.Problem (List Char)
  | .write text => .ok (line text.toList)
  | .line text markup => (lineText columns text.toList markup).map line
  | .plain text => .ok (line (Text.onConsole columns text.toList))
  | .highlight code theme => .ok (line (highlighted columns theme code.toList))

/-- What operations print, if all of them can be printed. -/
def printed (columns : Nat) : List OutputOperation → Except Markup.Problem (List Char)
  | [] => .ok []
  | operation :: rest => do
    let text ← operationText columns operation
    let others ← printed columns rest
    return text ++ others

end MapStyle.Output
