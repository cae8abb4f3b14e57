import MapStyle.Text.Split

/-!
# Blank characters

The characters that count as space around a text: the ASCII controls and separators, and the space
separators of Unicode.  `Text.strip` drops them from both ends, and `Text.words` cuts a text at
them.
-/

namespace MapStyle.Text

/-- The ranges of blank characters, both ends included. -/
def blankRanges : List (Nat × Nat) :=
  [(0x9, 0xd), (0x1c, 0x20), (0x85, 0x85), (0xa0, 0xa0), (0x1680, 0x1680), (0x2000, 0x200a),
   (0x2028, 0x2029), (0x202f, 0x202f), (0x205f, 0x205f), (0x3000, 0x3000)]

def isBlank (c : Char) : Bool := blankRanges.any fun r => r.1 ≤ c.toNat && c.toNat ≤ r.2

/-- The text without the blank characters at its start and at its end. -/
def strip (s : List Char) : List Char :=
  ((s.dropWhile isBlank).reverse.dropWhile isBlank).reverse

/-- The words of a text: what stands between blanks. -/
def words (s : List Char) : List (List Char) := (splitWhere isBlank s).filter (!·.isEmpty)

def isAllBlank (s : List Char) : Bool := s.all isBlank

end MapStyle.Text
