import MapStyle.Markup.Basic
import MapStyle.Markup.Literal
import MapStyle.Markup.Style
import MapStyle.Markup.Styled
import MapStyle.Text.Emoji
import MapStyle.Text.Word

/-!
# Rendering markup

What a line with style tags leaves on a console.  Tags that count are dropped, the escaping of the
others is undone, and emoji stand for their codes.  Each closing tag closes the last open one of its
name, or the last of all if it has no name.  A tag whose name starts with an at sign is an action;
its parameters must be a literal when it is closed.

* `Markup.styledText` is a line as a styled text, `Markup.render` what a console shows of it, if it
  can be shown.
-/

namespace MapStyle.Markup

/-- Text between tags, with the backslash before a bracket dropped. -/
def unescapePlain : List Char → List Char
  | [] => []
  | '\\' :: '[' :: rest => '[' :: unescapePlain rest
  | c :: rest => c :: unescapePlain rest

def plainText (text : List Char) : List Char := Text.replaceEmoji (unescapePlain text)

/-! ## Tags -/

/-- An open tag, by the canonical form of its name; the parameters follow an equals sign. -/
structure OpenTag where
  name : List Char
  parameters : Option (List Char)
deriving DecidableEq, Repr, Inhabited

def openTag (body : List Char) : Except Problem OpenTag := do
  let (name, parameters) := Text.cutAt '=' body
  return ⟨← canonicalName name, parameters⟩

def OpenTag.isAction (tag : OpenTag) : Bool := tag.name.head? == some '@'

def inHandler (c : Char) : Bool := Text.isWordChar c || c == '.'

/-- The arguments in the parameters of an action: what stands in brackets after the name of a
handler, none if nothing follows the name, and otherwise all of the parameters. -/
def actionArguments (parameters : List Char) : List Char :=
  let s := Text.strip parameters
  match s.dropWhile inHandler with
  | [] => "()".toList
  | '(' :: rest => if rest.getLast? = some ')' && !rest.contains '\n' then '(' :: rest else s
  | _ => s

/-- The parameters of an action that is closed must be a literal, if there are any. -/
def checkAction (tag : OpenTag) : Except Problem Unit :=
  let parameters := tag.parameters.getD []
  if tag.isAction && !parameters.isEmpty && !isLiteral (actionArguments parameters) then
    .error .badParameters
  else .ok ()

/-- The style of a tag: its name, and its parameters after a blank. -/
def OpenTag.style (tag : OpenTag) : List Char :=
  match tag.parameters with
  | none => tag.name
  | some parameters => tag.name ++ ' ' :: parameters

/-! ## Lines -/

/-- How far a line has been rendered: its text and its styled stretches so far, and the tags that
are open, the last one first, each with the place where it was opened. -/
structure Progress where
  text : List Char
  spans : List Span
  opened : List (OpenTag × Nat)
deriving DecidableEq, Repr, Inhabited

namespace Progress

/-- Nothing has been rendered yet. -/
def start : Progress := ⟨[], [], []⟩

/-- Add text; what a console drops is left out. -/
def add (progress : Progress) (text : List Char) : Progress :=
  { progress with text := progress.text ++ text.filter (!Text.isDropped ·) }

/-- The stretch of a tag that ends here. -/
def spanOf (progress : Progress) (opened : OpenTag × Nat) : Span :=
  ⟨opened.2, progress.text.length, opened.1.style⟩

/-- Take the last open tag of a name out of the open ones. -/
def takeNamed? (name : List Char) :
    List (OpenTag × Nat) → Option ((OpenTag × Nat) × List (OpenTag × Nat))
  | [] => none
  | tag :: tags =>
    if tag.1.name = name then some (tag, tags)
    else (takeNamed? name tags).map fun found => (found.1, tag :: found.2)

/-- The open tag that a closing one closes, and the others. -/
def closed? (name : List Char) (opened : List (OpenTag × Nat)) :
    Except Problem (Option ((OpenTag × Nat) × List (OpenTag × Nat))) :=
  if (Text.strip name).isEmpty then .ok (opened.head?.map fun tag => (tag, opened.drop 1))
  else do return takeNamed? (← canonicalName (Text.strip name)) opened

/-- Apply a tag that counts.  The style of an action that is closed is never looked up. -/
def apply (progress : Progress) (body : List Char) : Except Problem Progress :=
  match (Text.cutAt '=' body).1 with
  | '/' :: name => do
    match ← closed? name progress.opened with
    | some (tag, others) => do
      checkAction tag.1
      let spans := if tag.1.isAction then [] else [progress.spanOf tag]
      return { progress with spans := progress.spans ++ spans, opened := others }
    | none => throw .unmatchedTag
  | _ => do
    let tag ← openTag body
    return { progress with opened := (tag, progress.text.length) :: progress.opened }

def addPiece (progress : Progress) : Piece → Except Problem Progress
  | .plain text => .ok (progress.add (plainText text))
  | .tag n body =>
    if n % 2 = 1 then .ok (progress.add (backslashes (n / 2) ++ plainText (bracketed body)))
    else (progress.add (backslashes (n / 2))).apply body

/-- The text with its styled stretches; a tag that is still open ends here. -/
def finish (progress : Progress) : StyledText :=
  ⟨progress.text, progress.spans ++ progress.opened.map progress.spanOf⟩

end Progress

def styledText (s : List Char) : Except Problem StyledText := do
  return ((← (pieces s).foldlM Progress.addPiece .start)).finish

/-- The text that a line with markup leaves on a console of some columns.  A style that is no style
at all does nothing; one with a component of a color that is no number cannot be shown. -/
def render (columns : Nat) (s : List Char) : Except Problem (List Char) := do
  let styled ← styledText s
  let _ ← (styled.neededStyles columns).mapM readStyle
  return Text.onConsole columns styled.text

end MapStyle.Markup
