import MapStyle.Output.Basic
import MapStyle.Text.Console

/-!
# Highlighted text

JSON that is written in color is fitted to the console, line by line.  The colors fall on quoted
texts and on what stands between them; a line that is too wide is cut in the part that reaches the
width.

* `Output.highlighted` is the text that is left.
-/

namespace MapStyle.Output

/-- The themes without a background. -/
def plainThemes : List String := ["ansi_dark", "ansi_light"]

/-- A character at the start of the first part. -/
def joinFirst (c : Char) : List (List Char) → List (List Char)
  | [] => [[c]]
  | part :: parts => (c :: part) :: parts

/-- The quoted texts of a line, and the parts between them; the flag says whether the line starts
inside of quotes. -/
def quotedParts : Bool → List Char → List (List Char)
  | _, [] => [[]]
  | true, '\\' :: c :: rest => joinFirst '\\' (joinFirst c (quotedParts true rest))
  | true, '\x22' :: rest => ['\x22'] :: quotedParts false rest
  | false, '\x22' :: rest => [] :: joinFirst '\x22' (quotedParts true rest)
  | quoted, c :: rest => joinFirst c (quotedParts quoted rest)

/-- A line that fits stays as it is; another one is cut at the width of the console. -/
def fittedLine (columns : Nat) (line : List Char) : List Char :=
  if Text.width line ≤ columns then line else Text.fitCells columns (quotedParts false line)

/-- Blanks that fill a line up to the width of the console. -/
def filling (columns : Nat) (line : List Char) : List Char :=
  List.replicate (columns - Text.width line) ' '

/-- A line of highlighted text; a theme with a background fills it up. -/
def highlightedLine (columns : Nat) (theme : String) (text : List Char) : List Char :=
  let line := fittedLine columns text
  if plainThemes.contains theme then line else line ++ filling columns line

def highlighted (columns : Nat) (theme : String) (code : List Char) : List Char :=
  ['\n'].intercalate ((Text.splitAt '\n' code).map (highlightedLine columns theme))

end MapStyle.Output
