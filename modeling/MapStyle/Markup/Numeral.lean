import MapStyle.Text.Digit
import MapStyle.Text.Split

/-!
# Numerals

The numerals of literals: integers in base ten and in three other bases, numbers with a point or an
exponent, and imaginary numbers.  Single underscores may stand between digits.

* `Numeral.kind?` says whether a text is a numeral, and of which kind.
-/

namespace MapStyle.Markup.Numeral

/-- A number on the real or on the imaginary axis. -/
inductive Kind where
  | real
  | imaginary
deriving DecidableEq, Repr, Inhabited

/-- Digits with single underscores between them. -/
def areDigits (isDigit : Char → Bool) (s : List Char) : Bool :=
  (Text.splitAt '_' s).all fun group => !group.isEmpty && group.all isDigit

/-- Digits of base ten. -/
def areDecimal (s : List Char) : Bool := areDigits Text.isAsciiDigit s

/-- A digit of base two. -/
def isBinary (c : Char) : Bool := c == '0' || c == '1'

/-- A digit of base eight. -/
def isOctal (c : Char) : Bool := '0' ≤ c && c ≤ '7'

/-- A digit of base sixteen. -/
def isHexadecimal (c : Char) : Bool := (Text.hexDigit? c).isSome

def baseDigits? (c : Char) : Option (Char → Bool) :=
  if c = 'x' ∨ c = 'X' then some isHexadecimal
  else if c = 'o' ∨ c = 'O' then some isOctal
  else if c = 'b' ∨ c = 'B' then some isBinary
  else none

/-- Digits after the letter of a base, with or without an underscore between. -/
def areBased (isDigit : Char → Bool) : List Char → Bool
  | '_' :: digits => areDigits isDigit digits
  | digits => areDigits isDigit digits

/-- An integer in base ten: any number of zeros, or digits that do not start with a zero and are not
more than an integer may have. -/
def isInteger (s : List Char) : Bool :=
  areDecimal s &&
    if s.head? = some '0' then s.all fun c => c == '0' || c == '_'
    else (s.filter Text.isAsciiDigit).length ≤ Text.integerDigitLimit

def areOptionalDigits (s : List Char) : Bool := s.isEmpty || areDecimal s

/-- Digits, with or without a point among, before or after them. -/
def isMantissa (s : List Char) : Bool :=
  match Text.cutAt '.' s with
  | (whole, none) => areDecimal whole
  | (whole, some fraction) =>
    areOptionalDigits whole && areOptionalDigits fraction && !(whole.isEmpty && fraction.isEmpty)

/-- A sign that may be missing, and digits. -/
def isExponent (s : List Char) : Bool := areDecimal (Text.splitSign s).2

def startsExponent (c : Char) : Bool := c == 'e' || c == 'E'

/-- A number with a point or an exponent, or both, or neither. -/
def isDecimal (s : List Char) : Bool :=
  match s.dropWhile fun c => !startsExponent c with
  | [] => isMantissa s
  | _ :: exponent => isMantissa (s.takeWhile fun c => !startsExponent c) && isExponent exponent

/-- A number with a point or an exponent. -/
def isFraction (s : List Char) : Bool :=
  isDecimal s && s.any fun c => c == '.' || startsExponent c

def endsImaginary (c : Char) : Bool := c == 'j' || c == 'J'

/-- The kind of the number that a text is a numeral for, if it is one. -/
def kind? (s : List Char) : Option Kind :=
  let based :=
    match s with
    | '0' :: letter :: digits =>
      match baseDigits? letter with
      | some isDigit => areBased isDigit digits
      | none => false
    | _ => false
  if based || isInteger s || isFraction s then some .real
  else if (s.getLast?.map endsImaginary).getD false && isDecimal s.dropLast then some .imaginary
  else none

/-- A character that can stand inside a numeral, signs apart. -/
def inNumeral (c : Char) : Bool :=
  Text.isAsciiDigit c || ('a' ≤ c && c ≤ 'z') || ('A' ≤ c && c ≤ 'Z') || c == '_' || c == '.'

/-- A numeral of another base than ten. -/
def isBased (s : List Char) : Bool :=
  match s with
  | '0' :: letter :: _ => (baseDigits? letter).isSome
  | _ => false

/-- The numeral at the start of a text, as far as it can reach, and the rest: a sign belongs to it
after the letter of an exponent. -/
def cut (s : List Char) : List Char × List Char :=
  let run := s.takeWhile inNumeral
  match s.dropWhile inNumeral with
  | sign :: rest =>
    if (sign == '+' || sign == '-') && (run.getLast?.map startsExponent).getD false
        && !isBased run then
      (run ++ sign :: rest.takeWhile inNumeral, rest.dropWhile inNumeral)
    else (run, sign :: rest)
  | [] => (run, [])

end MapStyle.Markup.Numeral
