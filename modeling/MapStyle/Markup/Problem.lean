/-!
# Markup problems

Why a line cannot be shown.
-/

namespace MapStyle.Markup

/-- Why a line cannot be shown. -/
inductive Problem where
  /-- A tag is closed that is not open. -/
  | unmatchedTag
  /-- The parameters of an action are no literal. -/
  | badParameters
  /-- A component of a color is no number. -/
  | badNumber
  /-- Half of a character stands in it, which no stream takes. -/
  | halfCharacter
deriving DecidableEq, Repr, Inhabited

end MapStyle.Markup
