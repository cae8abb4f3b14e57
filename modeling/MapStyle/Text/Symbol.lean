import MapStyle.Text.Quoted

/-!
# Symbols

A character beyond the first 65536 can be written as two escapes, one for each half of it.  A file
can hold an escape for one half without the other, so what a text of a file is made of are symbols:
characters, and halves of characters that stand alone.  No stream takes such a half; where a text of
characters is wanted, its escape stands for it.
-/

namespace MapStyle.Text

/-- A character, or half of one that stands alone, by its number. -/
inductive Symbol where
  | char (c : Char)
  | half (number : Nat)
deriving DecidableEq, Repr, Inhabited

/-- The characters that symbols are, if none of them is half of one. -/
def wholeChars? : List Symbol → Option (List Char)
  | [] => some []
  | .char c :: symbols => (wholeChars? symbols).map (c :: ·)
  | .half _ :: _ => none

/-- The escape for half of a character. -/
def halfEscape (number : Nat) : List Char := '\\' :: 'u' :: hex 4 number

/-- Symbols with each half shown by its escape, and the characters as `showChar` has them. -/
def showSymbols (showChar : Char → List Char) (symbols : List Symbol) : List Char :=
  symbols.flatMap fun
    | .char c => showChar c
    | .half number => halfEscape number

/-- Symbols as a text of characters. -/
def escapedHalves (symbols : List Symbol) : String :=
  String.ofList (showSymbols (fun c => [c]) symbols)

def quotedSymbols (symbols : List Symbol) : String :=
  let q := quoteFor (showSymbols (fun c => [c]) symbols)
  String.ofList (q :: (showSymbols (quoteChar q) symbols ++ [q]))

theorem wholeChars?_map (s : List Char) : wholeChars? (s.map .char) = some s := by
  induction s with
  | nil => rfl
  | cons c s ih => rw [List.map_cons, wholeChars?, ih]; rfl

end MapStyle.Text
