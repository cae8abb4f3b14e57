import MapStyle.Text.Symbol

/-!
# Settings

The defaults that a config file can set for the commands.
-/

namespace MapStyle

/-- One default taken from a config file.  The name of a theme can hold half of a character. -/
inductive Setting where
  | color (enabled : Bool)
  | indent (width : Int)
  | theme (name : String)
  | brokenTheme (name : List Text.Symbol)
  | verbose (enabled : Bool)
deriving DecidableEq, Repr, Inhabited

/-- The settings of a config file and the place it was read from. -/
structure LoadedConfig where
  path : String
  settings : List Setting
deriving DecidableEq, Repr, Inhabited

end MapStyle
