import MapStyle.Text.Width

/-!
# Outlines

An outline is a text with nested brackets: a leaf, or items with commas between them in brackets of
some kind.  It can be written on one line, or on as many lines as a width asks for: a group that is
too wide has its items on lines of their own, further to the right.

* `Outline.flat` is an outline on one line, `Outline.lines` on lines of a width.
-/

namespace MapStyle

/-- A text with nested brackets.  Of a `closed` group, the last item has a comma after it, too. -/
inductive Outline where
  | leaf (text : String)
  | group (left : String) (items : List Outline) (right : String) (closed : Bool)
deriving Inhabited, Repr

namespace Outline

/-- A group of items with commas between them, or what stands for a group without items. -/
def ofItems (left : String) (items : List Outline) (right : String) (closed : Bool) : Outline :=
  if items.isEmpty then .leaf (left ++ right) else .group left items right closed

def labelled (label : String) : Outline → Outline
  | .leaf text => .leaf (label ++ text)
  | .group left items right closed => .group (label ++ left) items right closed

mutual

def flat : Outline → String
  | .leaf text => text
  | .group left items right closed =>
    left ++ ", ".intercalate (flatItems items) ++ (if closed then "," else "") ++ right

/-- The items of a group, each on one line. -/
def flatItems : List Outline → List String
  | [] => []
  | item :: items => flat item :: flatItems items

end

/-- The blanks at the start of a line. -/
def margin (indent : Nat) : String := String.ofList (List.replicate indent ' ')

/-- How much further to the right the items of a group stand. -/
def indentStep : Nat := 4

/-- Whether an outline fits on one line after its indent and before what follows it. -/
def fits (width indent follows : Nat) (outline : Outline) : Bool :=
  indent + Text.width outline.flat.toList + follows ≤ width

mutual

/-- An outline on lines of a width, from an indent on.  `follows` columns are kept free on each line
for the comma after the outline, and `ending` is what is written there. -/
def linesFrom (width indent follows : Nat) (ending : String) : Outline → List String
  | .leaf text => [margin indent ++ text ++ ending]
  | .group left items right closed =>
    if fits width indent follows (.group left items right closed) then
      [margin indent ++ flat (.group left items right closed) ++ ending]
    else
      (margin indent ++ left) :: linesOfItems width (indent + indentStep) closed items
        ++ [margin indent ++ right ++ ending]

/-- The items of a group on lines of a width, from an indent on. -/
def linesOfItems (width indent : Nat) (closed : Bool) : List Outline → List String
  | [] => []
  | [item] => linesFrom width indent (if closed then 1 else 2) (if closed then "," else "") item
  | item :: items => linesFrom width indent 2 "," item ++ linesOfItems width indent closed items

end

def lines (width : Nat) (outline : Outline) : List String := outline.linesFrom width 0 0 ""

end Outline

end MapStyle
