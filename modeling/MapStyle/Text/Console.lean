import MapStyle.Text.Split
import MapStyle.Text.Blank
import MapStyle.Text.Width

/-!
# Lines of a console

What a console makes of a text.  Control characters that would move the cursor are dropped, tabs
reach to the next stop, and blanks that stand beyond the width at the end of a line are dropped.

* `Text.onConsole` is a text as a console of some columns shows it, `Text.shownFlags` says which of
  its characters leave something there.
* `Text.fitCells` cuts a line to a number of columns.
-/

namespace MapStyle.Text

/-- The columns between two tab stops. -/
def tabWidth : Nat := 8

/-- The control characters that a console drops: the bell, the backspace, and those that return or
feed more than a line. -/
def isDropped (c : Char) : Bool :=
  c == '\x07' || c == '\x08' || c == '\x0b' || c == '\x0c' || c == '\x0d'

/-- The text from a column on, with blanks up to the next stop in the place of each tab. -/
def expandTabs (column : Nat) : List Char → List Char
  | [] => []
  | c :: rest =>
    if c = '\t' then
      let stop := (column / tabWidth + 1) * tabWidth
      List.replicate (stop - column) ' ' ++ expandTabs stop rest
    else c :: expandTabs (column + charWidth c) rest

/-- The line without the blanks at its end, as many as it has characters beyond the width. -/
def cropEnd (columns : Nat) (line : List Char) : List Char :=
  let blanks := (line.reverse.takeWhile isBlank).length
  line.take (line.length - min blanks (line.length - columns))

def consoleLine (columns : Nat) (line : List Char) : List Char :=
  cropEnd columns (expandTabs 0 line)

/-- A text as a console shows it. -/
def onConsole (columns : Nat) (s : List Char) : List Char :=
  ['\n'].intercalate ((splitAt '\n' (s.filter (!isDropped ·))).map (consoleLine columns))

/-! ## Places -/

/-- The place of each character of a line after its tabs are expanded, from a column and a place
on. -/
def placesFrom (column place : Nat) : List Char → List Nat
  | [] => []
  | c :: rest =>
    if c = '\t' then
      let stop := (column / tabWidth + 1) * tabWidth
      place :: placesFrom stop (place + (stop - column)) rest
    else place :: placesFrom (column + charWidth c) (place + 1) rest

/-- For each character of a line whether the console shows it, or at least the start of a tab. -/
def shownInLine (columns : Nat) (line : List Char) : List Bool :=
  let shown := (consoleLine columns line).length
  (placesFrom 0 0 line).map fun place => place < shown

/-- For each character of a text whether it stands on a line of the console; ends of lines do
not. -/
def shownFlags (columns : Nat) (s : List Char) : List Bool :=
  [false].intercalate ((splitAt '\n' s).map (shownInLine columns))

/-! ## Cutting -/

/-- The start of a text that a halving search between two places finds for a number of columns, in
so many steps; a character that does not fit whole gives way to a blank. -/
def searchCut (room : Nat) (s : List Char) : Nat → Nat → Nat → List Char
  | 0, _, _ => []
  | fuel + 1, low, high =>
    let middle := (low + high) / 2
    let before := s.take (middle + 1)
    if width before = room + 1 ∧ width (before.drop middle) = 2 then s.take middle ++ [' ']
    else if width before = room then before
    else if room < width before then searchCut room s fuel low middle
    else searchCut room s fuel middle high

/-- A text that takes at least as many columns as there is room for, cut to the room. -/
def cutCells (room : Nat) (s : List Char) : List Char :=
  if width s = room then s
  else if room = 0 then []
  else searchCut room s (s.length + 1) 0 s.length

/-- The parts of a line up to the one that fills the room, which is cut. -/
def fitCells (room : Nat) : List (List Char) → List Char
  | [] => []
  | part :: parts =>
    if width part < room then part ++ fitCells (room - width part) parts else cutCells room part

end MapStyle.Text
