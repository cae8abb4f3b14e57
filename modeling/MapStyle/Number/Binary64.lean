/-!
# Double-precision numbers

A double is kept as what it denotes: nothing (`nan`), an infinity, or a signed magnitude
`mantissa * 2 ^ exponent`.  All arithmetic is on natural numbers, so a statement about a double is a
statement about integers.  A double that denotes nothing carries a payload, by which it can be told
from another one.

* `Binary64.ofRatio` is the double nearest to a quotient, a tie going to the even mantissa.
* `Binary64.ofDecimal` is the double nearest to `digits * 10 ^ exponent`.
* `Binary64.toInt?` is the integer that a double denotes, if it denotes one.
* `Binary64.equals` compares what is denoted, `Binary64.same` also holds of equal payloads.
* `Binary64.exceeds` compares a double with an integer, without rounding either.
-/

namespace MapStyle

/-- A double-precision number: nothing, an infinity, or `±mantissa * 2 ^ exponent`. -/
inductive Binary64 where
  | nan (payload : Nat)
  | infinite (negative : Bool)
  | finite (negative : Bool) (mantissa : Nat) (exponent : Int)
deriving DecidableEq, Repr, Inhabited

namespace Binary64

/-- The number of binary digits of a full mantissa. -/
def precision : Nat := 53

/-- The exponent of the smallest positive double. -/
def leastExponent : Int := -1074

/-- The exponent of the largest finite double. -/
def greatestExponent : Int := 971

/-- Zero of either sign. -/
def zero (negative : Bool) : Binary64 := .finite negative 0 leastExponent

/-! ## Rounding -/

/-- `n / d` rounded to the nearest natural number, a tie going to the even one. -/
def divNearestEven (n d : Nat) : Nat :=
  let q := n / d
  let r := n % d
  if 2 * r < d then q
  else if d < 2 * r then q + 1
  else if q % 2 = 0 then q else q + 1

/-- `n / d` in units of `2 ^ exponent`, rounded to the nearest. -/
def mantissaAt (n d : Nat) (exponent : Int) : Nat :=
  if exponent < 0 then divNearestEven (n * Nat.pow 2 exponent.natAbs) d
  else divNearestEven n (d * Nat.pow 2 exponent.natAbs)

/-- `2 ^ k ≤ n / d`, for positive `d`. -/
def reachesPower (n d : Nat) (k : Int) : Bool :=
  if k < 0 then d ≤ n * Nat.pow 2 k.natAbs else d * Nat.pow 2 k.natAbs ≤ n

/-- The largest `k` with `2 ^ k ≤ n / d`, for positive `n` and `d`. -/
def floorLog2 (n d : Nat) : Int :=
  let k : Int := (n.log2 : Int) - (d.log2 : Int)
  if reachesPower n d k then k else k - 1

/-- The double nearest to `n / d`, for positive `d`. -/
def ofRatio (negative : Bool) (n d : Nat) : Binary64 :=
  if n = 0 then zero negative
  else
    let e := max leastExponent (floorLog2 n d - (precision - 1))
    let m := mantissaAt n d e
    if m = Nat.pow 2 precision then
      if e + 1 ≤ greatestExponent then .finite negative (Nat.pow 2 (precision - 1)) (e + 1)
      else .infinite negative
    else if e ≤ greatestExponent then .finite negative m e
    else .infinite negative

/-- Beyond this power of ten every decimal with a digit overflows, and below its negative every
decimal rounds to zero. -/
def decimalReach : Int := 400

/-- The double nearest to `digits * 10 ^ exponent`.  Magnitudes out of reach are answered before any
power is formed, so a numeral with a long exponent costs nothing. -/
def ofDecimal (negative : Bool) (digits : Nat) (exponent : Int) : Binary64 :=
  if digits = 0 then zero negative
  else if decimalReach < exponent then .infinite negative
  else if exponent + digits.log2 / 3 + 1 < -decimalReach then zero negative
  else if exponent < 0 then ofRatio negative digits (Nat.pow 10 exponent.natAbs)
  else ofRatio negative (digits * Nat.pow 10 exponent.natAbs) 1

/-! ## What a double denotes -/

/-- Neither nothing nor an infinity. -/
def isFinite : Binary64 → Bool
  | .finite .. => true
  | _ => false

def isZero : Binary64 → Bool
  | .finite _ m _ => m == 0
  | _ => false

/-- The integer with a given sign and magnitude. -/
def signed (negative : Bool) (n : Nat) : Int := if negative then -(n : Int) else n

/-- The integer that a double denotes, if it denotes one. -/
def toInt? : Binary64 → Option Int
  | .finite s m e =>
    if 0 ≤ e then some (signed s (m * Nat.pow 2 e.natAbs))
    else if m % Nat.pow 2 e.natAbs = 0 then some (signed s (m / Nat.pow 2 e.natAbs))
    else none
  | _ => none

/-- An integer lies below what a double denotes. -/
def exceeds (x : Binary64) (n : Int) : Bool :=
  match x with
  | .nan _ => false
  | .infinite s => !s
  | .finite s m e =>
    if 0 ≤ e then n < signed s (m * Nat.pow 2 e.natAbs)
    else n * (Nat.pow 2 e.natAbs : Nat) < signed s m

/-- Equality of what is denoted: `nan` equals nothing, and zero has no sign. -/
def equals : Binary64 → Binary64 → Bool
  | .infinite s, .infinite t => s == t
  | .finite s m e, .finite t n f =>
    let least := min e f
    signed s (m * Nat.pow 2 (e - least).natAbs) == signed t (n * Nat.pow 2 (f - least).natAbs)
  | _, _ => false

/-- Equality of what is denoted, or of what is carried where nothing is denoted. -/
def same : Binary64 → Binary64 → Bool
  | .nan p, .nan q => p == q
  | x, y => equals x y

theorem same_self (x : Binary64) : same x x = true := by
  cases x <;> simp [same, equals]

end Binary64

end MapStyle
