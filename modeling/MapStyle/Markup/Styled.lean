import MapStyle.Text.Console

/-!
# Styled texts

A text in which some stretches have a style.  A console looks a style up only if it needs it.

* `StyledText.neededStyles` are the styles that a console looks up.
-/

namespace MapStyle.Markup

/-- A stretch of a text, from a place on up to another one, and the words of its style. -/
structure Span where
  start : Nat
  stop : Nat
  style : List Char
deriving DecidableEq, Repr, Inhabited

/-- A text with the stretches that have a style. -/
structure StyledText where
  text : List Char
  spans : List Span
deriving DecidableEq, Repr, Inhabited

namespace StyledText

/-- A text that a console takes apart: it has more than one line, or tabs. -/
def isBroken (styled : StyledText) : Bool := styled.text.any fun c => c == '\n' || c == '\t'

/-- The stretches whose styles a console looks up, if `flags` say which characters it shows.  Where
the text is taken apart, a stretch must hold a character that is shown; otherwise it must not start
behind all that is shown, unless all of the text is. -/
def neededSpans (styled : StyledText) (flags : List Bool) : List Span :=
  if styled.isBroken then
    styled.spans.filter fun span => ((flags.drop span.start).take (span.stop - span.start)).any id
  else if flags.all id then styled.spans
  else styled.spans.filter fun span => (flags.drop span.start).any id

/-- The styles that a console of some columns looks up. -/
def neededStyles (styled : StyledText) (columns : Nat) : List (List Char) :=
  (styled.neededSpans (Text.shownFlags columns styled.text)).map Span.style

end StyledText

end MapStyle.Markup
