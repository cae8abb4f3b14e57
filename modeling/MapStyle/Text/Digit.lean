import MapStyle.Text.Blank
import MapStyle.Number.Binary64

/-!
# Decimal digits and the numerals made of them

Every script's decimal digits stand in a row of ten, so a table of the zeros is enough.
`digitValue?` reads one digit of any script, `asciiDigit?` one of ASCII, and `integer?` reads an
integer as a person would type it: blanks around it, a sign, single underscores between digits.
-/

namespace MapStyle.Text

def scriptZeros : List Nat :=
  [0x30, 0x660, 0x6f0, 0x7c0, 0x966, 0x9e6, 0xa66, 0xae6, 0xb66, 0xbe6, 0xc66, 0xce6, 0xd66,
   0xde6, 0xe50, 0xed0, 0xf20, 0x1040, 0x1090, 0x17e0, 0x1810, 0x1946, 0x19d0, 0x1a80, 0x1a90,
   0x1b50, 0x1bb0, 0x1c40, 0x1c50, 0xa620, 0xa8d0, 0xa900, 0xa9d0, 0xa9f0, 0xaa50, 0xabf0,
   0xff10, 0x104a0, 0x10d30, 0x11066, 0x110f0, 0x11136, 0x111d0, 0x112f0, 0x11450, 0x114d0,
   0x11650, 0x116c0, 0x11730, 0x118e0, 0x11950, 0x11c50, 0x11d50, 0x11da0, 0x16a60, 0x16ac0,
   0x16b50, 0x1d7ce, 0x1d7d8, 0x1d7e2, 0x1d7ec, 0x1d7f6, 0x1e140, 0x1e2f0, 0x1e950, 0x1fbf0]

/-- The value of a decimal digit of any script. -/
def digitValue? (c : Char) : Option Nat :=
  (scriptZeros.find? fun z => z ≤ c.toNat && c.toNat < z + 10).map (c.toNat - ·)

def asciiDigit? (c : Char) : Option Nat :=
  if '0' ≤ c ∧ c ≤ '9' then some (c.toNat - '0'.toNat) else none

def isAsciiDigit (c : Char) : Bool := (asciiDigit? c).isSome

def hexDigit? (c : Char) : Option Nat :=
  if '0' ≤ c ∧ c ≤ '9' then some (c.toNat - '0'.toNat)
  else if 'a' ≤ c ∧ c ≤ 'f' then some (c.toNat - 'a'.toNat + 10)
  else if 'A' ≤ c ∧ c ≤ 'F' then some (c.toNat - 'A'.toNat + 10)
  else none

/-- The number that a row of hexadecimal digits denotes. -/
def hexValue (digits : List Char) : Nat :=
  digits.foldl (fun n c => 16 * n + (hexDigit? c).getD 0) 0

/-- The number that a row of ASCII digits denotes in base ten. -/
def digitsValue (digits : List Char) : Nat :=
  digits.foldl (fun n c => 10 * n + (asciiDigit? c).getD 0) 0

/-- The most digits that an integer numeral may have to be read. -/
def integerDigitLimit : Nat := 4300

/-- The values of digits with single underscores between them. -/
def spacedDigits? : List Char → Option (List Nat)
  | [] => none
  | [c] => (digitValue? c).map ([·])
  | c :: '_' :: rest => do
    let d ← digitValue? c
    let ds ← spacedDigits? rest
    return d :: ds
  | c :: rest => do
    let d ← digitValue? c
    let ds ← spacedDigits? rest
    return d :: ds

/-- A sign and what follows it; no sign counts as plus. -/
def splitSign : List Char → Bool × List Char
  | '-' :: rest => (true, rest)
  | '+' :: rest => (false, rest)
  | rest => (false, rest)

/-- A separator of files, groups, records or units; no blank as far as integers go. -/
def isSeparator (c : Char) : Bool := '\x1c' ≤ c && c ≤ '\x1f'

/-- A blank that may stand around an integer. -/
def isMargin (c : Char) : Bool := isBlank c && !isSeparator c

/-- The text without the blanks that may stand around an integer. -/
def withoutMargins (s : List Char) : List Char :=
  ((s.dropWhile isMargin).reverse.dropWhile isMargin).reverse

/-- The integer that a text denotes: blanks around it, a sign, digits of any script with single
underscores between them, and not more digits than the limit. -/
def integer? (s : List Char) : Option Int :=
  let (negative, rest) := splitSign (withoutMargins s)
  match spacedDigits? rest with
  | none => none
  | some ds =>
    if ds.length ≤ integerDigitLimit then
      some (Binary64.signed negative (ds.foldl (fun n d => 10 * n + d) 0))
    else none

end MapStyle.Text
