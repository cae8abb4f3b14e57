import MapStyle.Text.CharacterNames
import MapStyle.Text.Digit
import MapStyle.Text.Split

/-!
# Characters by name

A character can be written by its name.  Most names are listed, as a pattern; the syllables of
Hangul are named by their letters, and other characters by their number.  The case of a listed name
does not matter.

* `NamePattern.fits` says whether a name fits a pattern, `NamePattern.ofText` reads a pattern.
* `isCharacterName` says whether there is a character of a name.
-/

namespace MapStyle.Text

/-! ## Patterns -/

/-- A pattern of names: a word, or a choice between rows of patterns. -/
inductive NamePattern where
  | word (text : List Char)
  | choice (options : List (List NamePattern))
deriving Inhabited, Repr

namespace NamePattern

mutual

/-- What can be left of a text after a pattern. -/
def rests : NamePattern → List Char → List (List Char)
  | .word text, s => if text.isPrefixOf s then [s.drop text.length] else []
  | .choice options, s => restsOfOptions options s

/-- What can be left of a text after one of some rows of patterns. -/
def restsOfOptions : List (List NamePattern) → List Char → List (List Char)
  | [], _ => []
  | row :: rows, s => restsOfRow row s ++ restsOfOptions rows s

def restsOfRow : List NamePattern → List Char → List (List Char)
  | [], s => [s]
  | pattern :: row, s => (rests pattern s).flatMap fun rest => restsOfRow row rest

end

/-- Whether a pattern describes the whole of a name. -/
def fits (pattern : NamePattern) (name : List Char) : Bool := (pattern.rests name).any (·.isEmpty)

def ofWords (words : List (List Char)) : NamePattern := .choice (words.map fun w => [.word w])

/-- The words for the numbers between two, with at least as many digits as the first one. -/
def numbersBetween (first last : List Char) : List (List Char) :=
  let start := digitsValue first
  (List.range' start (digitsValue last + 1 - start)).map fun n =>
    let digits := Nat.toDigits 10 n
    List.replicate (first.length - digits.length) '0' ++ digits

/-- A word of a pattern, or all numbers between two. -/
def ofWord (text : List Char) : NamePattern :=
  match cutAt '~' text with
  | (first, some last) => ofWords (numbersBetween first last)
  | (text, none) => .word text

/-! ## Reading patterns -/

/-- A choice that is being read: its rows so far, the row and the word that are being read, all of
them backwards. -/
structure Reading where
  rows : List (List NamePattern)
  row : List NamePattern
  word : List Char

namespace Reading

/-- Nothing has been read yet. -/
def start : Reading := ⟨[], [], []⟩

def addChar (reading : Reading) (c : Char) : Reading := { reading with word := c :: reading.word }

def endWord (reading : Reading) : Reading :=
  if reading.word.isEmpty then reading
  else ⟨reading.rows, ofWord reading.word.reverse :: reading.row, []⟩

def endRow (reading : Reading) : Reading :=
  let reading := reading.endWord
  ⟨reading.row.reverse :: reading.rows, [], []⟩

def toPattern (reading : Reading) : NamePattern := .choice reading.endRow.rows.reverse

/-- A choice inside the present row. -/
def addPattern (reading : Reading) (pattern : NamePattern) : Reading :=
  { reading with row := pattern :: reading.row }

end Reading

/-- Read one more character, with the choices that are open around the present one. -/
def readChar : List Reading × Reading → Char → List Reading × Reading
  | (around, reading), c =>
    if c = '(' then (reading.endWord :: around, .start)
    else if c = '|' then (around, reading.endRow)
    else if c = ')' then
      match around with
      | outer :: others => (others, outer.addPattern reading.toPattern)
      | [] => ([], reading)
    else if c = '\n' then (around, reading)
    else (around, reading.addChar c)

def ofText (text : String) : NamePattern :=
  (text.toList.foldl readChar ([], .start)).2.toPattern

end NamePattern

def listedNames : NamePattern := .ofText characterNames

def syllableNames : NamePattern :=
  .ofText "HANGUL SYLLABLE (G|GG|N|D|DD|R|M|B|BB|S|SS||J|JJ|C|K|T|P|H)
(A|AE|YA|YAE|EO|E|YEO|YE|O|WA|WAE|OE|YO|U|WEO|WE|WI|YU|EU|YI|I)
(|G|GG|GS|N|NJ|NH|D|L|LG|LM|LB|LS|LT|LP|LH|M|B|BS|S|SS|NG|J|C|K|T|P|H)"

/-! ## Names with a number -/

/-- How the names start that end with the number of the character, and the ranges of the numbers. -/
def numberedNames : List (String × List (Nat × Nat)) :=
  [("CJK COMPATIBILITY IDEOGRAPH-", [(0xF900, 0xFA6D), (0xFA70, 0xFAD9), (0x2F800, 0x2FA1D)]),
   ("KHITAN SMALL SCRIPT CHARACTER-", [(0x18B00, 0x18CD5)]),
   ("NUSHU CHARACTER-", [(0x1B170, 0x1B2FB)])]

def ideographRanges : List (Nat × Nat) :=
  [(0x3400, 0x4DBF), (0x4E00, 0x9FFF), (0x20000, 0x2A6DF), (0x2A700, 0x2B738), (0x2B740, 0x2B81D),
   (0x2B820, 0x2CEA1), (0x2CEB0, 0x2EBE0), (0x30000, 0x3134A)]

def isCapitalHexDigit (c : Char) : Bool := isAsciiDigit c || ('A' ≤ c && c ≤ 'F')

/-- Whether digits are the number of a character in some ranges, four or five of them. -/
def areNumberIn (ranges : List (Nat × Nat)) (digits : List Char) : Bool :=
  digits.all isCapitalHexDigit && (digits.length == 4 || digits.length == 5)
    && ranges.any fun r => r.1 ≤ hexValue digits && hexValue digits ≤ r.2

/-- A name with a number that has no zero before it. -/
def isNumberedName (name : List Char) : Bool :=
  numberedNames.any fun entry =>
    match afterStart? entry.1.toList name with
    | some digits => areNumberIn entry.2 digits && digits.head? != some '0'
    | none => false

def isIdeographName (name : List Char) : Bool :=
  match afterStart? "CJK UNIFIED IDEOGRAPH-".toList name with
  | some digits => areNumberIn ideographRanges digits
  | none => false

/-- Whether there is a character of a name. -/
def isCharacterName (name : List Char) : Bool :=
  let capital := name.map Char.toUpper
  syllableNames.fits name || isIdeographName name || isNumberedName capital
    || listedNames.fits capital

end MapStyle.Text
