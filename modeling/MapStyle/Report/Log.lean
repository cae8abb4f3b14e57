/-!
# Log entries

What a command says about its work besides its output: information, shown only when asked for, and
warnings.
-/

namespace MapStyle

/-- How much an entry matters. -/
inductive LogLevel where
  | info
  | warning
deriving DecidableEq, Repr, Inhabited

/-- A message at a level. -/
structure LogEntry where
  level : LogLevel
  message : String
deriving DecidableEq, Repr, Inhabited

namespace LogEntry

def info (message : String) : LogEntry := ⟨.info, message⟩

def warning (message : String) : LogEntry := ⟨.warning, message⟩

end LogEntry

/-- A result together with what was said on the way to it. -/
structure Logged (α : Type) where
  log : List LogEntry
  result : α
deriving Repr, Inhabited

end MapStyle
