import MapStyle.Text.Digit
import MapStyle.Value.Basic

/-!
# Match keys

A branch of a `match` may be keyed by a text that reads as a number.  `MatchKey.normalize` turns
such a text into the number: into an integer if it has no point or denotes a whole number, else
into the nearest double.  A text of another form, an integer with too many digits and a number
beyond the doubles are kept as they are.
-/

namespace MapStyle.MatchKey

/-- A decimal numeral: a sign, the digits before the point, and those after it if there is a
point. -/
structure Numeral where
  negative : Bool
  whole : List Char
  fraction : Option (List Char)
deriving DecidableEq, Repr

/-- Read a numeral: an optional sign, then ASCII digits with at most one point among, before or
after them, and at least one digit. -/
def numeral? (s : List Char) : Option Numeral :=
  let (negative, rest) := Text.splitSign s
  let whole := rest.takeWhile Text.isAsciiDigit
  match rest.dropWhile Text.isAsciiDigit with
  | [] => if whole.isEmpty then none else some ⟨negative, whole, none⟩
  | '.' :: fraction =>
    if fraction.all Text.isAsciiDigit && !(whole.isEmpty && fraction.isEmpty) then
      some ⟨negative, whole, some fraction⟩
    else none
  | _ => none

/-- The number that a numeral stands for as a key, if it can be had. -/
def Numeral.key? (n : Numeral) : Option Value :=
  match n.fraction with
  | none =>
    if n.whole.length ≤ Text.integerDigitLimit then
      some (.int (Binary64.signed n.negative (Text.digitsValue n.whole)))
    else none
  | some fraction =>
    let x := Binary64.ofDecimal n.negative (Text.digitsValue (n.whole ++ fraction))
      (-(fraction.length : Int))
    if x.isFinite then
      match x.toInt? with
      | some k => some (.int k)
      | none => some (.float x)
    else none

/-- The key that a branch is stored under. -/
def normalize (key : Value) : Value :=
  match key with
  | .str s => ((numeral? s.toList).bind Numeral.key?).getD key
  | _ => key

theorem number_of_key? {n : Numeral} {v : Value} (has : n.key? = some v) :
    (∃ k, v = .int k) ∨ ∃ x, v = .float x := by
  unfold Numeral.key? at has
  split at has
  · split at has <;> cases has
    exact Or.inl ⟨_, rfl⟩
  · dsimp only at has
    split at has
    · split at has <;> cases has
      · exact Or.inl ⟨_, rfl⟩
      · exact Or.inr ⟨_, rfl⟩
    · cases has

/-- A key is kept or becomes a number. -/
theorem normalize_cases (key : Value) :
    normalize key = key ∨ (∃ k, normalize key = .int k) ∨ ∃ x, normalize key = .float x := by
  cases key with
  | str s =>
      rw [normalize]
      cases found : (numeral? s.toList).bind Numeral.key? with
      | none => exact Or.inl rfl
      | some v =>
          obtain ⟨n, -, has⟩ := Option.bind_eq_some_iff.mp found
          exact Or.inr (number_of_key? has)
  | _ => exact Or.inl rfl

end MapStyle.MatchKey
