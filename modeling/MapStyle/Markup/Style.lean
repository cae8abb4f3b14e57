import MapStyle.Markup.Color
import MapStyle.Text.Blank

/-!
# Text styles

A style is a row of words: attributes, each set or unset, a color, a background after `on`, and a
link.  Two rows of words are the same style if they set the same things, whatever their order and
their abbreviations.

* `Markup.readStyle` reads a style, `TextStyle.text` writes it in its one canonical form.
* `Markup.canonicalName` is the name that two tags are compared by.
-/

namespace MapStyle.Markup

/-- An attribute of text that a style can set. -/
inductive Attribute where
  | bold | dim | italic | underline | blink | blink2 | reverse | conceal | strike | underline2
  | frame | encircle | overline
deriving DecidableEq, Repr, Inhabited

namespace Attribute

/-- Every attribute, in the order in which a style writes them. -/
def all : List Attribute :=
  [.bold, .dim, .italic, .underline, .blink, .blink2, .reverse, .conceal, .strike, .underline2,
   .frame, .encircle, .overline]

def word : Attribute → String
  | .bold => "bold"
  | .dim => "dim"
  | .italic => "italic"
  | .underline => "underline"
  | .blink => "blink"
  | .blink2 => "blink2"
  | .reverse => "reverse"
  | .conceal => "conceal"
  | .strike => "strike"
  | .underline2 => "underline2"
  | .frame => "frame"
  | .encircle => "encircle"
  | .overline => "overline"

def shortWord? : Attribute → Option String
  | .bold => some "b"
  | .dim => some "d"
  | .italic => some "i"
  | .underline => some "u"
  | .reverse => some "r"
  | .conceal => some "c"
  | .strike => some "s"
  | .underline2 => some "uu"
  | .overline => some "o"
  | _ => none

def ofWord? (name : List Char) : Option Attribute :=
  let name := String.ofList name
  all.find? fun a => a.word == name || a.shortWord? == some name

/-- The word for every attribute is read back. -/
theorem ofWord?_word (a : Attribute) : ofWord? a.word.toList = some a := by cases a <;> decide

end Attribute

/-- What a style sets; of an attribute set twice the later setting comes first. -/
structure TextStyle where
  attributes : List (Attribute × Bool)
  color : Option (List Char)
  background : Option (List Char)
  link : Option (List Char)
deriving DecidableEq, Repr, Inhabited

namespace TextStyle

def empty : TextStyle := ⟨[], none, none, none⟩

def attributeWords (style : TextStyle) (a : Attribute) : List (List Char) :=
  match style.attributes.lookup a with
  | some true => [a.word.toList]
  | some false => ["not".toList, a.word.toList]
  | none => []

/-- The words of a style: its attributes in order, its color, its background and its link. -/
def words (style : TextStyle) : List (List Char) :=
  Attribute.all.flatMap style.attributeWords
    ++ style.color.toList
    ++ (style.background.map fun c => ["on".toList, c]).getD []
    ++ (style.link.map fun l => ["link".toList, l]).getD []

def text (style : TextStyle) : List Char :=
  match style.words with
  | [] => "none".toList
  | words => [' '].intercalate words

end TextStyle

/-- Read the words of a style on top of what has been read; no answer if a word makes no sense. -/
def readWords (style : TextStyle) : List (List Char) → Except Problem (Option TextStyle)
  | [] => .ok (some style)
  | written :: rest =>
    let word := Text.lowercase written
    if word = "on".toList then
      match rest with
      | [] => .ok none
      | color :: rest' => do
        match ← color? color with
        | some name => readWords { style with background := some name } rest'
        | none => return none
    else if word = "not".toList then
      match rest with
      | [] => .ok none
      | negated :: rest' =>
        match Attribute.ofWord? negated with
        | some a => readWords { style with attributes := (a, false) :: style.attributes } rest'
        | none => .ok none
    else if word = "link".toList then
      match rest with
      | [] => .ok none
      | link :: rest' => readWords { style with link := some link } rest'
    else
      match Attribute.ofWord? word with
      | some a => readWords { style with attributes := (a, true) :: style.attributes } rest
      | none => do
        match ← color? word with
        | some name => readWords { style with color := some name } rest
        | none => return none

/-- The style that a text describes, if it describes one. -/
def readStyle (s : List Char) : Except Problem (Option TextStyle) :=
  if Text.strip s = "none".toList then .ok (some .empty) else readWords .empty (Text.words s)

/-- The name that two tags are compared by: the canonical form of a style, or the text without
blanks around it in lower case if it is no style. -/
def canonicalName (s : List Char) : Except Problem (List Char) := do
  match ← readStyle s with
  | some style => return style.text
  | none => return Text.lowercase (Text.strip s)

end MapStyle.Markup
