import MapStyle.Value.Basic

/-!
# Prepared output

What a command is about to print, before any of it is printed: a list of operations, each a text for
the plain stream, a line for the console, or a piece of JSON to highlight.
-/

namespace MapStyle

/-- One operation of a prepared output: write a text to the plain stream, or print on the console a
line with or without style tags, a line that is left as it is, or JSON text in the colors of a
theme. -/
inductive OutputOperation where
  | write (text : String)
  | line (text : String) (markup : Bool)
  | plain (text : String)
  | highlight (code theme : String)
deriving DecidableEq, Repr, Inhabited

namespace OutputOperation

/-- The kind of an operation that writes its text to the plain stream. -/
def plainKind : String := "plain_write"

def consoleKind : String := "console_print"

def writeValue (text : String) : Value :=
  .outputOperation (.str plainKind) (.str text) .null (.bool false)

/-- An operation that prints a line, as a value; what is to be printed is not looked at. -/
def lineValue (text markup : Value) : Value :=
  .outputOperation (.str consoleKind) text .null markup

def highlightValue (mark : Nat) (code theme : String) : Value :=
  .outputOperation (.str consoleKind) .null (.highlighted mark code theme) (.bool false)

end OutputOperation

end MapStyle
