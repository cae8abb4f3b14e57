import MapStyle.Json.Problem
import MapStyle.Text.Digit
import MapStyle.Text.Symbol
import MapStyle.Value.Map

/-!
# Reading JSON

A text is read as one value between blanks.  The reader goes from left to right and stops at the
first problem; a problem is found at the number of characters that are left, which is the same as
a position and does not depend on what was read before.

* `Json.readString`, `Json.readNumber?` and `Json.readValue` read one item and give back the rest.
* `Json.read` reads a whole text.

A text in which half of a character stands alone is kept as it is.  Of equal keys the last value
counts, at the place of the first.  Integers may have as many digits as any integer numeral; other
numbers are read as the nearest double.
-/

namespace MapStyle.Json

/-- Why reading stopped: a reason with the number of characters left, or an oversized integer. -/
inductive Stop where
  | problem (reason : Reason) (left : Nat)
  | oversizedInteger
deriving DecidableEq, Repr, Inhabited

/-- A blank between the items of a text. -/
def isSpace (c : Char) : Bool := c == ' ' || c == '\t' || c == '\n' || c == '\r'

/-- The text without the blanks at its start. -/
def skipSpace (s : List Char) : List Char := s.dropWhile isSpace

/-! ## Texts -/

/-- The number that four hexadecimal digits denote, and the rest. -/
def hexFour? : List Char → Option (Nat × List Char)
  | a :: b :: c :: d :: rest => do
    let w ← Text.hexDigit? a
    let x ← Text.hexDigit? b
    let y ← Text.hexDigit? c
    let z ← Text.hexDigit? d
    return (((w * 16 + x) * 16 + y) * 16 + z, rest)
  | _ => none

/-- The first half of a character that is written as two escapes. -/
def isHighHalf (n : Nat) : Bool := 0xD800 ≤ n && n ≤ 0xDBFF

/-- The second half of a character that is written as two escapes. -/
def isLowHalf (n : Nat) : Bool := 0xDC00 ≤ n && n ≤ 0xDFFF

/-- The symbol with a number: a half stands alone, any other number is that of a character. -/
def symbolOf (n : Nat) : Text.Symbol :=
  if isHighHalf n || isLowHalf n then .half n else .char (Char.ofNat n)

/-- The character that a letter stands for after a backslash. -/
def escapeLetter? (c : Char) : Option Char :=
  if c = '\x22' ∨ c = '\\' ∨ c = '/' then some c
  else if c = 'b' then some '\x08'
  else if c = 'f' then some '\x0c'
  else if c = 'n' then some '\n'
  else if c = 'r' then some '\r'
  else if c = 't' then some '\t'
  else none

/-- A symbol written by its number; `s` follows the letter.  At least one character must follow the
digits.  Two escapes make one character if they are the halves of it. -/
def readUnicode (s : List Char) : Except Stop (Text.Symbol × List Char) :=
  let problem := Except.error (.problem .badUnicodeEscape (s.length + 1))
  if s.length ≤ 4 then problem
  else
    match hexFour? s with
    | none => problem
    | some (high, rest) =>
      match rest with
      | '\\' :: 'u' :: digits =>
        if isHighHalf high && 4 < digits.length then
          match hexFour? digits with
          | none => .error (.problem .badUnicodeEscape (digits.length + 1))
          | some (low, rest') =>
            if isLowHalf low then
              .ok (.char (Char.ofNat (0x10000 + (high - 0xD800) * 0x400 + (low - 0xDC00))), rest')
            else .ok (symbolOf high, rest)
        else .ok (symbolOf high, rest)
      | _ => .ok (symbolOf high, rest)

/-- The symbol that an escape stands for; `s` follows the backslash, and `opening` characters are
left from the quote that opened the text. -/
def readEscape (opening : Nat) (s : List Char) : Except Stop (Text.Symbol × List Char) :=
  match s with
  | [] => .error (.problem .unterminated opening)
  | 'u' :: rest => readUnicode rest
  | c :: rest =>
    match escapeLetter? c with
    | some d => .ok (.char d, rest)
    | none => .error (.problem .badEscape (s.length + 1))

/-- The symbols up to the closing quote. -/
def readChars (opening : Nat) : Nat → List Char → Except Stop (List Text.Symbol × List Char)
  | 0, _ => .error (.problem .unterminated opening)
  | fuel + 1, s =>
    match s with
    | [] => .error (.problem .unterminated opening)
    | c :: rest =>
      if c = '\x22' then .ok ([], rest)
      else if c = '\\' then do
        let (d, rest') ← readEscape opening rest
        let (cs, rest'') ← readChars opening fuel rest'
        return (d :: cs, rest'')
      else if c.toNat < 0x20 then .error (.problem .controlCharacter s.length)
      else do
        let (cs, rest') ← readChars opening fuel rest
        return (.char c :: cs, rest')

/-- A text; `s` follows the opening quote. -/
def readString (s : List Char) : Except Stop (List Text.Symbol × List Char) :=
  readChars (s.length + 1) (s.length + 1) s

/-! ## Numbers -/

/-- A number as it is written: its sign, its digits, those after a point, and an exponent. -/
structure NumberText where
  negative : Bool
  whole : List Char
  fraction : Option (List Char)
  exponent : Option (Bool × List Char)
deriving DecidableEq, Repr

/-- The digits before the point: a zero alone, or digits that start with another one. -/
def readWhole? (s : List Char) : Option (List Char × List Char) :=
  match s with
  | '0' :: rest => some (['0'], rest)
  | _ =>
    let digits := s.takeWhile Text.isAsciiDigit
    if digits.isEmpty then none else some (digits, s.dropWhile Text.isAsciiDigit)

/-- A point and the digits after it, if there are any. -/
def readFraction (s : List Char) : Option (List Char) × List Char :=
  match s with
  | '.' :: rest =>
    let digits := rest.takeWhile Text.isAsciiDigit
    if digits.isEmpty then (none, s) else (some digits, rest.dropWhile Text.isAsciiDigit)
  | _ => (none, s)

def readExponent (s : List Char) : Option (Bool × List Char) × List Char :=
  match s with
  | c :: rest =>
    if c = 'e' ∨ c = 'E' then
      let (negative, rest') := Text.splitSign rest
      let digits := rest'.takeWhile Text.isAsciiDigit
      if digits.isEmpty then (none, s)
      else (some (negative, digits), rest'.dropWhile Text.isAsciiDigit)
    else (none, s)
  | [] => (none, s)

def readNumber? (s : List Char) : Option (NumberText × List Char) :=
  let (negative, unsigned) :=
    match s with
    | '-' :: rest => (true, rest)
    | _ => (false, s)
  match readWhole? unsigned with
  | none => none
  | some (whole, rest) =>
    let (fraction, rest') := readFraction rest
    let (exponent, rest'') := readExponent rest'
    some (⟨negative, whole, fraction, exponent⟩, rest'')

/-- What a number denotes: an integer if it has neither point nor exponent, else a double. -/
def NumberText.value (n : NumberText) : Except Stop Value :=
  match n.fraction, n.exponent with
  | none, none =>
    if n.whole.length ≤ Text.integerDigitLimit then
      .ok (.int (Binary64.signed n.negative (Text.digitsValue n.whole)))
    else .error .oversizedInteger
  | fraction, exponent =>
    let after := fraction.getD []
    let power := (exponent.map fun e => Binary64.signed e.1 (Text.digitsValue e.2)).getD 0
    .ok (.float (Binary64.ofDecimal n.negative (Text.digitsValue (n.whole ++ after))
      (power - after.length)))

/-! ## Values -/

/-- The words that are values, and what they mean. -/
def words : List (List Char × Value) :=
  [("null".toList, .null), ("true".toList, .bool true), ("false".toList, .bool false),
   ("NaN".toList, .float (.nan 0)), ("Infinity".toList, .float (.infinite false)),
   ("-Infinity".toList, .float (.infinite true))]

def readWord? (s : List Char) : Option (Value × List Char) :=
  (words.find? fun word => word.1.isPrefixOf s).map fun word => (word.2, s.drop word.1.length)

/-- A value that is neither a text nor a list nor a map. -/
def readScalar (s : List Char) : Except Stop (Value × List Char) :=
  match readWord? s with
  | some found => .ok found
  | none =>
    match readNumber? s with
    | some (number, rest) => do
      let value ← number.value
      return (value, rest)
    | none => .error (.problem .expectedValue s.length)

/-- A name at the start of a text, and what follows the colon after it. -/
def readName (s : List Char) : Except Stop (List Text.Symbol × List Char) :=
  match s with
  | c :: rest =>
    if c = '\x22' then do
      let (name, rest') ← readString rest
      match skipSpace rest' with
      | ':' :: rest'' => return (name, skipSpace rest'')
      | other => .error (.problem .expectedColon other.length)
    else .error (.problem .expectedName s.length)
  | [] => .error (.problem .expectedName 0)

mutual

def readValue : Nat → List Char → Except Stop (Value × List Char)
  | 0, s => .error (.problem .expectedValue s.length)
  | fuel + 1, s =>
    match s with
    | c :: rest =>
      if c = '\x22' then do
        let (symbols, rest') ← readString rest
        return (.ofSymbols symbols, rest')
      else if c = '[' then
        match skipSpace rest with
        | ']' :: rest' => .ok (.list [], rest')
        | inner => do
          let (items, rest') ← readItems fuel inner
          return (.list items, rest')
      else if c = '\x7b' then
        match skipSpace rest with
        | '\x7d' :: rest' => .ok (.map [], rest')
        | inner => do
          let (entries, rest') ← readMembers fuel [] inner
          return (.map entries, rest')
      else readScalar s
    | [] => .error (.problem .expectedValue 0)

/-- The items of a list up to its end. -/
def readItems : Nat → List Char → Except Stop (List Value × List Char)
  | 0, s => .error (.problem .expectedValue s.length)
  | fuel + 1, s => do
    let (item, rest) ← readValue fuel s
    match skipSpace rest with
    | ']' :: rest' => return ([item], rest')
    | ',' :: rest' => do
      let (items, rest'') ← readItems fuel (skipSpace rest')
      return (item :: items, rest'')
    | other => .error (.problem .expectedComma other.length)

/-- The members of a map up to its end, written over the entries read before. -/
def readMembers : Nat → Entries → List Char → Except Stop (Entries × List Char)
  | 0, _, s => .error (.problem .expectedName s.length)
  | fuel + 1, entries, s => do
    let (name, rest) ← readName s
    let (value, rest') ← readValue fuel rest
    let entries' := Entries.put entries (.ofSymbols name) value
    match skipSpace rest' with
    | '\x7d' :: rest'' => return (entries', rest'')
    | ',' :: rest'' => readMembers fuel entries' (skipSpace rest'')
    | other => .error (.problem .expectedComma other.length)

end

/-- The value that a whole text is. -/
def readAll (s : List Char) : Except Stop Value :=
  match s with
  | '\uFEFF' :: _ => .error (.problem .byteOrderMark s.length)
  | _ => do
    let (value, rest) ← readValue (2 * s.length + 1) (skipSpace s)
    match skipSpace rest with
    | [] => return value
    | other => .error (.problem .extraData other.length)

/-- Why a text is not a value of JSON. -/
inductive Failure where
  | malformed (problem : Problem)
  | oversizedInteger
deriving DecidableEq, Repr, Inhabited

/-- Read a whole text; a problem is shown at its position. -/
def read (s : List Char) : Except Failure Value :=
  match readAll s with
  | .ok value => .ok value
  | .error .oversizedInteger => .error .oversizedInteger
  | .error (.problem reason left) => .error (.malformed (.at s reason (s.length - left)))

end MapStyle.Json
