import MapStyle.Number.Binary64

/-!
# The shortest text of a double

A double is written with the fewest digits that read back as the same double, and among those with
the digits nearest to its value.  `Binary64.shortest` finds the digits, `NumberLayout` says how they
are laid out, and `Binary64.text` is the text.
-/

namespace MapStyle

/-- The decimal `digits * 10 ^ exponent`. -/
structure Decimal where
  digits : Nat
  exponent : Int
deriving DecidableEq, Repr

def decimalDigits (n : Nat) : List Char := Nat.toDigits 10 n

/-- The text of an integer: a minus sign if it is negative, then its decimal digits. -/
def integerDigits (n : Int) : List Char :=
  if n < 0 then '-' :: decimalDigits n.natAbs else decimalDigits n.natAbs

namespace Binary64

/-! ## The digits -/

/-- The largest `k` with `10 ^ k ≤ n / d`, for positive `n` and `d`. -/
def floorLog10 (n d : Nat) : Int :=
  if d ≤ n then ((decimalDigits (n / d)).length : Int) - 1
  else -((decimalDigits ((n + d - 1) / n - 1)).length : Int)

/-- The point of the grid of multiples of `10 ^ unit` that lies nearest to `n / d` among the two
neighbours of `n / d` that read back as `x`; the even one if both are equally near. -/
def onGrid (x : Binary64) (n d : Nat) (unit : Int) : Option Decimal :=
  let scaled :=
    if unit < 0 then (n * Nat.pow 10 unit.natAbs, d) else (n, d * Nat.pow 10 unit.natAbs)
  let low := scaled.1 / scaled.2
  let near := divNearestEven scaled.1 scaled.2
  let far := if near = low then low + 1 else low
  if ofDecimal false near unit = x then some ⟨near, unit⟩
  else if ofDecimal false far unit = x then some ⟨far, unit⟩
  else none

/-- The fewest digits, from `count` upwards, that read back as `x`; the search ends after `more`
further counts with the nearest grid point. -/
def shortestFrom (x : Binary64) (n d : Nat) (top : Int) : Nat → Nat → Decimal
  | count, 0 =>
    let unit := top - count + 1
    (onGrid x n d unit).getD ⟨mantissaAtTen n d unit, unit⟩
  | count, more + 1 =>
    match onGrid x n d (top - count + 1) with
    | some found => found
    | none => shortestFrom x n d top (count + 1) more
where
  /-- `n / d` in units of `10 ^ unit`, rounded to the nearest. -/
  mantissaAtTen (n d : Nat) (unit : Int) : Nat :=
    if unit < 0 then divNearestEven (n * Nat.pow 10 unit.natAbs) d
    else divNearestEven n (d * Nat.pow 10 unit.natAbs)

/-- The shortest decimal that reads back as the positive double `mantissa * 2 ^ exponent`.
Seventeen digits always suffice. -/
def shortest (mantissa : Nat) (exponent : Int) : Decimal :=
  let x : Binary64 := .finite false mantissa exponent
  let n := if exponent < 0 then mantissa else mantissa * Nat.pow 2 exponent.natAbs
  let d := if exponent < 0 then Nat.pow 2 exponent.natAbs else 1
  shortestFrom x n d (floorLog10 n d) 1 16

end Binary64

/-! ## The layout -/

/-- How digits become text: which exponents are written positionally, and how many digits an
exponent has at least. -/
structure NumberLayout where
  leastPositional : Int
  greatestPositional : Int
  exponentWidth : Nat

/-- Numbers from a ten-thousandth up to below `10 ^ 16` are written positionally; an exponent has a
sign and two digits at least. -/
def numberLayout : NumberLayout := ⟨-4, 15, 2⟩

namespace NumberLayout

/-- Digits with the point after the first `point` of them, padded with zeros on either side; at
least one digit stands on each side of the point. -/
def positional (digits : List Char) (point : Int) : List Char :=
  if point ≤ 0 then '0' :: '.' :: (List.replicate point.natAbs '0' ++ digits)
  else if digits.length ≤ point.natAbs then
    digits ++ List.replicate (point.natAbs - digits.length) '0' ++ ['.', '0']
  else digits.take point.natAbs ++ '.' :: digits.drop point.natAbs

/-- One digit, the others after a point if there are any, and the exponent. -/
def scientific (layout : NumberLayout) (digits : List Char) (exponent : Int) : List Char :=
  let power := decimalDigits exponent.natAbs
  let fraction := digits.drop 1
  digits.take 1 ++ (if fraction.isEmpty then [] else '.' :: fraction)
    ++ 'e' :: (if exponent < 0 then '-' else '+')
    :: (List.replicate (layout.exponentWidth - power.length) '0' ++ power)

/-- The digits without the zeros at their end. -/
def significant (digits : List Char) : List Char :=
  (digits.reverse.dropWhile (· == '0')).reverse

/-- The text of a positive decimal. -/
def write (layout : NumberLayout) (x : Decimal) : List Char :=
  let all := decimalDigits x.digits
  let digits := significant all
  let exponent := x.exponent + all.length - 1
  if layout.leastPositional ≤ exponent ∧ exponent ≤ layout.greatestPositional then
    positional digits (exponent + 1)
  else layout.scientific digits exponent

end NumberLayout

namespace Binary64

def magnitudeText (mantissa : Nat) (exponent : Int) : List Char :=
  if mantissa = 0 then ['0', '.', '0']
  else numberLayout.write (shortest mantissa exponent)

/-- The text of a double: `nan`, `inf`, or the shortest digits, with a sign if negative. -/
def chars : Binary64 → List Char
  | .nan _ => ['n', 'a', 'n']
  | .infinite s => (if s then ['-'] else []) ++ ['i', 'n', 'f']
  | .finite s m e => (if s then ['-'] else []) ++ magnitudeText m e

def text (x : Binary64) : String := String.ofList x.chars

end Binary64

def integerText (n : Int) : String := String.ofList (integerDigits n)

end MapStyle
