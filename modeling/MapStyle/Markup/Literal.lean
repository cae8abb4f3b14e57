import MapStyle.Markup.Numeral
import MapStyle.Number.Binary64
import MapStyle.Text.CharacterName
import MapStyle.Text.Newline

/-!
# Literals

The parameters of an action are a literal: a number, a quoted text, a constant, or a tuple, a map or
a set of literals.  Only whether a text is a literal matters here, so the readers below answer the
kind of what they have read, and the rest.

A literal that is not in brackets ends with its line; lines without anything but a comment may stand
before and after it, and nothing may be indented.

* `Markup.isLiteral` says whether a text is one literal.
-/

namespace MapStyle.Markup

/-- What kind of literal has been read: a number with or without a sign, a sum of a real and an
imaginary number, a text, bytes, or something else that can or cannot be a key.  The word for a set
is a literal only after brackets have followed it. -/
inductive Literal where
  | number (kind : Numeral.Kind)
  | signed (kind : Numeral.Kind)
  | sum
  | text
  | bytes
  | fixed
  | changeable
  | setWord
deriving DecidableEq, Repr, Inhabited

namespace Literal

/-- What has been read, and the rest. -/
abbrev Result := Option (Literal × List Char)

/-- A literal that can be the key of a map or the element of a set. -/
def isKey : Literal → Bool
  | .changeable | .setWord => false
  | _ => true

def isWhole : Literal → Bool
  | .setWord => false
  | _ => true

/-- How many brackets can be open at the same time. -/
def bracketLimit : Nat := 200

/-! ## Blanks and lines -/

/-- A blank within a line. -/
def isGap (c : Char) : Bool := c == ' ' || c == '\t' || c == '\x0c'

/-- The text from the end of its first line on. -/
def afterLine (s : List Char) : List Char := s.dropWhile (· ≠ '\n')

/-- The text without the blanks and the comments at its start, in so many steps.  A backslash takes
the meaning of the end of a line away, which is a blank only inside of brackets. -/
def skipWithin (inside : Bool) : Nat → List Char → List Char
  | 0, s => s
  | fuel + 1, s =>
    match s with
    | '\\' :: '\n' :: c :: rest => skipWithin inside fuel (c :: rest)
    | '#' :: rest => skipWithin inside fuel (afterLine rest)
    | c :: rest =>
      if isGap c || (inside && c == '\n') then skipWithin inside fuel rest else c :: rest
    | [] => []

/-- The text without the blanks and the comments at its start, if so many brackets are open. -/
def skip (depth : Nat) (s : List Char) : List Char := skipWithin (0 < depth) s.length s

/-- Whether a line is indented, and the text from its first character on.  A form feed takes the
blanks before it back; what stands before the end of a line that has lost its meaning stays. -/
def indentation (indented : Bool) : List Char → Bool × List Char
  | ' ' :: rest => indentation true rest
  | '\t' :: rest => indentation true rest
  | '\x0c' :: rest => indentation false rest
  | '\\' :: '\n' :: c :: rest =>
    let after := indentation false (c :: rest)
    (indented || after.1, after.2)
  | s => (indented, s)

/-- The text from its first line on that holds more than a comment, in so many steps; that line must
not be indented. -/
def linesWithin : Nat → List Char → Option (List Char)
  | 0, _ => none
  | fuel + 1, s =>
    match indentation false s with
    | (_, '\n' :: rest) => linesWithin fuel rest
    | (_, '#' :: rest) =>
      match afterLine rest with
      | _ :: others => linesWithin fuel others
      | [] => some []
    | (indented, s) => if indented then none else some s

/-- The text from its first line on that holds more than a comment. -/
def skipLines? (s : List Char) : Option (List Char) := linesWithin (s.length + 1) s

/-- Whether nothing but comments follows on a line and after it. -/
def isOver (s : List Char) : Bool :=
  match skip 0 s with
  | [] => true
  | '\n' :: rest => skipLines? rest = some []
  | _ => false

/-! ## Quoted texts -/

/-- What stands before the quotes says: backslashes stand for themselves, or it is bytes. -/
structure Prelude where
  raw : Bool
  bytes : Bool
deriving DecidableEq, Repr

/-- The letters before the quotes of a text. -/
def preludes : List (String × Prelude) :=
  [("", ⟨false, false⟩), ("u", ⟨false, false⟩), ("r", ⟨true, false⟩), ("b", ⟨false, true⟩),
   ("br", ⟨true, true⟩), ("rb", ⟨true, true⟩)]

/-- The letters before the quotes, if the text goes on with a quote. -/
def prelude? (s : List Char) : Option (Prelude × List Char) :=
  let letters := s.takeWhile Char.isAlpha
  match s.drop letters.length with
  | quote :: rest =>
    if quote = '\x22' ∨ quote = '\x27' then
      (preludes.find? fun entry => entry.1.toList == letters.map Char.toLower).map fun entry =>
        (entry.2, quote :: rest)
    else none
  | [] => none

/-- The number of hexadecimal digits after the letter of an escape. -/
def escapeDigits? (bytes : Bool) (c : Char) : Option Nat :=
  if c = 'x' then some 2
  else if bytes then none
  else if c = 'u' then some 4
  else if c = 'U' then some 8
  else none

def greatestCharacter : Nat := 0x10FFFF

/-- The rest after some hexadecimal digits, which must denote a character. -/
def afterDigits? (count : Nat) (s : List Char) : Option (List Char) :=
  let digits := s.take count
  if digits.length = count && digits.all Numeral.isHexadecimal
    && Text.hexValue digits ≤ greatestCharacter
  then some (s.drop count) else none

/-- The rest after the name of a character in braces. -/
def afterName? (s : List Char) : Option (List Char) :=
  match s with
  | '\x7b' :: rest =>
    match rest.dropWhile (· ≠ '\x7d') with
    | _ :: after => if Text.isCharacterName (rest.takeWhile (· ≠ '\x7d')) then some after else none
    | [] => none
  | _ => none

/-- The rest after the closing quotes, in so many steps.  A text in single quotes ends on its
line. -/
def afterQuotesWithin (p : Prelude) (quotes : List Char) : Nat → List Char → Option (List Char)
  | 0, _ => none
  | fuel + 1, s =>
    if quotes.isPrefixOf s then some (s.drop quotes.length)
    else
      match s with
      | [] => none
      | '\\' :: c :: rest =>
        if p.bytes && c.toNat ≥ 0x80 then none
        else if p.raw then afterQuotesWithin p quotes fuel rest
        else if c = 'N' && !p.bytes then
          (afterName? rest).bind (afterQuotesWithin p quotes fuel)
        else
          match escapeDigits? p.bytes c with
          | some count => (afterDigits? count rest).bind (afterQuotesWithin p quotes fuel)
          | none => afterQuotesWithin p quotes fuel rest
      | c :: rest =>
        if c = '\\' || (c = '\n' && quotes.length = 1) || (p.bytes && c.toNat ≥ 0x80) then none
        else afterQuotesWithin p quotes fuel rest

def quoted? (s : List Char) : Result := do
  let (p, rest) ← prelude? s
  let quote := rest.take 1
  let quotes := if (quote ++ quote ++ quote).isPrefixOf rest then quote ++ quote ++ quote else quote
  let after ← afterQuotesWithin p quotes rest.length (rest.drop quotes.length)
  return (if p.bytes then .bytes else .text, after)

/-- Further quoted texts after one, in so many steps; all must be of one kind. -/
def joinedWithin (depth : Nat) (kind : Literal) : Nat → List Char → Result
  | 0, _ => none
  | fuel + 1, s =>
    match quoted? (skip depth s) with
    | none => some (kind, s)
    | some (other, rest) => if other = kind then joinedWithin depth kind fuel rest else none

/-! ## Words -/

def constants : List (List Char) := ["True".toList, "False".toList, "None".toList]

def inWord (c : Char) : Bool := c.isAlphanum || c == '_' || 0x80 ≤ c.toNat

/-- The other forms of the letters of the word for a set: raised, lowered, wide, and of the
mathematical alphabets. -/
def otherForms : List (Char × List Nat) :=
  [('s', [0x17F, 0x2E2, 0x209B, 0xFF53, 0x1D42C, 0x1D460, 0x1D494, 0x1D4C8, 0x1D4FC, 0x1D530,
      0x1D564, 0x1D598, 0x1D5CC, 0x1D600, 0x1D634, 0x1D668, 0x1D69C]),
   ('e', [0x1D49, 0x2091, 0x212F, 0x2147, 0xFF45, 0x1D41E, 0x1D452, 0x1D486, 0x1D4EE, 0x1D522,
      0x1D556, 0x1D58A, 0x1D5BE, 0x1D5F2, 0x1D626, 0x1D65A, 0x1D68E]),
   ('t', [0x1D57, 0x209C, 0xFF54, 0x1D42D, 0x1D461, 0x1D495, 0x1D4C9, 0x1D4FD, 0x1D531, 0x1D565,
      0x1D599, 0x1D5CD, 0x1D601, 0x1D635, 0x1D669, 0x1D69D])]

def plainLetter (c : Char) : Char :=
  ((otherForms.find? fun entry => entry.2.contains c.toNat).map Prod.fst).getD c

/-- A constant by its word, the three dots, or the word for a set. -/
def word? (s : List Char) : Result :=
  let word := s.takeWhile inWord
  let rest := s.drop word.length
  if constants.contains word then some (.fixed, rest)
  else if word.map plainLetter = "set".toList then some (.setWord, rest)
  else if "...".toList.isPrefixOf s then some (.fixed, s.drop 3)
  else none

/-- What a literal is with the brackets that follow it: the word for a set needs them to be one. -/
def withBrackets (depth : Nat) (kind : Literal) (rest : List Char) : Result :=
  match kind, skip depth rest with
  | .setWord, '(' :: inner =>
    match skip (depth + 1) inner with
    | ')' :: after => if depth < bracketLimit then some (.changeable, after) else none
    | _ => none
  | kind, after => some (kind, after)

/-! ## Literals in literals -/

def number? (s : List Char) : Result :=
  let (numeral, rest) := Numeral.cut s
  (Numeral.kind? numeral).map fun kind => (.number kind, rest)

/-- Items in one tuple: it can be a key if all of them can. -/
def together? (items : List Literal) : Option Literal :=
  if items.all isKey then some .fixed
  else if items.all isWhole then some .changeable
  else none

mutual

/-- A literal without a sign before it, in so many steps. -/
def atomWithin : Nat → Nat → List Char → Result
  | 0, _, _ => none
  | fuel + 1, depth, s =>
    match s with
    | '(' :: rest =>
      if bracketLimit ≤ depth then none
      else
        match itemsWithin fuel (depth + 1) rest with
        | some ([], false, ')' :: after) => some (.fixed, after)
        | some ([item], false, ')' :: after) => some (item, after)
        | some (items, _, ')' :: after) =>
          if items = [] then none else (together? items).map fun kind => (kind, after)
        | _ => none
    | '\x7b' :: rest =>
      if bracketLimit ≤ depth then none
      else
        match skip (depth + 1) rest with
        | '\x7d' :: after => some (.changeable, after)
        | inner =>
          match literalWithin fuel (depth + 1) inner with
          | some (key, ':' :: value) =>
            match entriesWithin fuel (depth + 1) key value with
            | some ('\x7d' :: after) => some (.changeable, after)
            | _ => none
          | some (item, ',' :: more) =>
            match itemsWithin fuel (depth + 1) more with
            | some (items, _, '\x7d' :: after) =>
              if (item :: items).all isKey then some (.changeable, after) else none
            | _ => none
          | some (item, '\x7d' :: after) => if item.isKey then some (.changeable, after) else none
          | _ => none
    | _ =>
      match quoted? s with
      | some (kind, rest) => joinedWithin depth kind s.length rest
      | none => (word? s).or (number? s)

/-- A literal, in so many steps, and the text after the blanks behind it. -/
def literalWithin : Nat → Nat → List Char → Result
  | 0, _, _ => none
  | fuel + 1, depth, s => do
    let s := skip depth s
    let (first, rest) ←
      if s.head? = some '+' ∨ s.head? = some '-' then
        match atomWithin fuel depth (skip depth (s.drop 1)) with
        | some (.number kind, rest) => some (.signed kind, rest)
        | _ => none
      else atomWithin fuel depth s
    let (first, after) ← withBrackets depth first rest
    let after := skip depth after
    if after.head? = some '+' ∨ after.head? = some '-' then
      match first, atomWithin fuel depth (skip depth (after.drop 1)) with
      | .number .real, some (.number .imaginary, rest) => some (.sum, skip depth rest)
      | .signed .real, some (.number .imaginary, rest) => some (.sum, skip depth rest)
      | _, _ => none
    else some (first, after)

/-- Literals with commas between them, whether a comma follows the last one, and the rest, in so
many steps. -/
def itemsWithin : Nat → Nat → List Char → Option (List Literal × Bool × List Char)
  | 0, _, _ => none
  | fuel + 1, depth, s =>
    match literalWithin fuel depth s with
    | none => some ([], false, skip depth s)
    | some (item, ',' :: rest) =>
      match itemsWithin fuel depth rest with
      | some ([], false, after) => some ([item], true, after)
      | some (items, comma, after) => some (item :: items, comma, after)
      | none => none
    | some (item, rest) => some ([item], false, rest)

/-- What follows the colon of a key: its value, further entries with commas between them, and the
rest, in so many steps. -/
def entriesWithin : Nat → Nat → Literal → List Char → Option (List Char)
  | 0, _, _, _ => none
  | fuel + 1, depth, key, s =>
    match key.isKey, literalWithin fuel depth s with
    | true, some (value, rest) =>
      if !value.isWhole then none
      else
        match rest with
        | ',' :: more =>
          match skip depth more with
          | '\x7d' :: after => some ('\x7d' :: after)
          | inner =>
            match literalWithin fuel depth inner with
            | some (next, ':' :: value) => entriesWithin fuel depth next value
            | _ => none
        | rest => some rest
    | _, _ => none

end

end Literal

/-- One literal, or several with commas between them. -/
def isLiteral (s : List Char) : Bool :=
  let s := Text.unifyLineEnds s
  if s.contains '\x00' then false
  else
    match (Literal.skipLines? s).bind (Literal.itemsWithin (4 * s.length + 8) 0) with
    | some (item :: items, _, rest) => (item :: items).all Literal.isWhole && Literal.isOver rest
    | _ => false

end MapStyle.Markup
