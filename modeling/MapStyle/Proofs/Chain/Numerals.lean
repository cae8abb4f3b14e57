import Mathlib.Data.List.TakeWhile
import MapStyle.Chain.MatchKey
import MapStyle.Proofs.Json.Scalars
import MapStyle.Proofs.Number.Rounding

/-!
# Decimal numerals

The texts that are read as numerals, and the numbers that they denote.

* `MatchKey.IsNumeral` is the grammar, and `MatchKey.numeral?_eq_some_iff` says that just the texts
  of the grammar are read.
* `MatchKey.Numeral.value` is the number of a numeral.
* `MatchKey.isNumeral_pointedText`: a point with zeros behind it makes no difference to the number.
-/

namespace MapStyle.MatchKey

open Binary64

/-! ## The grammar of numerals -/

/-- A row of ASCII digits. -/
def IsDigits (s : List Char) : Prop := ∀ c ∈ s, '0' ≤ c ∧ c ≤ '9'

/-- A sign, which may be absent, and whether it is a minus sign. -/
inductive IsSign : List Char → Bool → Prop
  | absent : IsSign [] false
  | plus : IsSign ['+'] false
  | minus : IsSign ['-'] true

/-- The texts that are numerals: a sign, and digits with at most one point among, before or after
them. -/
inductive IsNumeral : List Char → Numeral → Prop
  | undotted {sign whole : List Char} {negative : Bool} :
    IsSign sign negative → IsDigits whole → whole ≠ [] →
    IsNumeral (sign ++ whole) ⟨negative, whole, none⟩
  | dotted {sign whole fraction : List Char} {negative : Bool} :
    IsSign sign negative → IsDigits whole → IsDigits fraction → whole ++ fraction ≠ [] →
    IsNumeral (sign ++ (whole ++ '.' :: fraction)) ⟨negative, whole, some fraction⟩

theorem isAsciiDigit_iff {c : Char} : Text.isAsciiDigit c = true ↔ '0' ≤ c ∧ c ≤ '9' := by
  unfold Text.isAsciiDigit Text.asciiDigit?
  split_ifs with digit
  · exact iff_of_true rfl digit
  · exact iff_of_false nofun digit

theorem isDigits_iff {s : List Char} : IsDigits s ↔ ∀ c ∈ s, Text.isAsciiDigit c = true :=
  forall₂_congr fun _ _ => isAsciiDigit_iff.symm

theorem isDigits_takeWhile (s : List Char) : IsDigits (s.takeWhile Text.isAsciiDigit) :=
  isDigits_iff.mpr (List.all_eq_true.mp List.all_takeWhile)

/-- Whatever is read as a sign is one. -/
theorem splitSign_isSign (s : List Char) :
    ∃ sign, IsSign sign (Text.splitSign s).1 ∧ s = sign ++ (Text.splitSign s).2 := by
  unfold Text.splitSign
  split
  · exact ⟨_, .minus, rfl⟩
  · exact ⟨_, .plus, rfl⟩
  · exact ⟨_, .absent, rfl⟩

/-- A sign is read before what does not begin with one. -/
theorem splitSign_append {sign rest : List Char} {negative : Bool} (isSign : IsSign sign negative)
    (other : ∀ c ∈ rest.head?, c ≠ '-' ∧ c ≠ '+') :
    Text.splitSign (sign ++ rest) = (negative, rest) := by
  cases isSign with
  | absent =>
      rw [List.nil_append]
      unfold Text.splitSign
      split
      · exact ((other _ rfl).1 rfl).elim
      · exact ((other _ rfl).2 rfl).elim
      · rfl
  | plus => rfl
  | minus => rfl

/-- Digits are no signs. -/
theorem head_of_isDigits {digits rest : List Char} (isDigits : IsDigits digits)
    (other : ∀ c ∈ rest.head?, c ≠ '-' ∧ c ≠ '+') :
    ∀ c ∈ (digits ++ rest).head?, c ≠ '-' ∧ c ≠ '+' := by
  cases digits with
  | nil => exact other
  | cons d digits =>
      rintro c ⟨⟩
      obtain ⟨least, greatest⟩ := isDigits d List.mem_cons_self
      constructor
      · rintro rfl
        exact absurd least (by decide)
      · rintro rfl
        exact absurd least (by decide)

section Reading

variable {sign whole fraction : List Char} {negative : Bool}

theorem numeral?_undotted (isSign : IsSign sign negative) (isDigits : IsDigits whole)
    (given : whole ≠ []) : numeral? (sign ++ whole) = some ⟨negative, whole, none⟩ := by
  have all := isDigits_iff.mp isDigits
  have cut : Text.splitSign (sign ++ whole) = (negative, whole) := by
    refine splitSign_append isSign ?_
    rw [← List.append_nil whole]
    exact head_of_isDigits isDigits nofun
  have taken : whole.takeWhile Text.isAsciiDigit = whole := List.takeWhile_eq_self_iff.mpr all
  have dropped : whole.dropWhile Text.isAsciiDigit = [] := List.dropWhile_eq_nil_iff.mpr all
  rw [numeral?, cut]
  dsimp only
  rw [taken, dropped]
  exact if_neg fun empty => given (List.isEmpty_iff.mp empty)

theorem numeral?_dotted (isSign : IsSign sign negative) (isDigits : IsDigits whole)
    (isFraction : IsDigits fraction) (given : whole ++ fraction ≠ []) :
    numeral? (sign ++ (whole ++ '.' :: fraction)) = some ⟨negative, whole, some fraction⟩ := by
  have all := isDigits_iff.mp isDigits
  have point : ∀ c ∈ ('.' :: fraction).head?, c ≠ '-' ∧ c ≠ '+' := by
    rintro c ⟨⟩
    decide
  have cut := splitSign_append isSign (head_of_isDigits isDigits point)
  have taken : (whole ++ '.' :: fraction).takeWhile Text.isAsciiDigit = whole := by
    rw [List.takeWhile_append_of_pos all, List.takeWhile_cons_of_neg (by decide), List.append_nil]
  have dropped : (whole ++ '.' :: fraction).dropWhile Text.isAsciiDigit = '.' :: fraction := by
    rw [List.dropWhile_append_of_pos all, List.dropWhile_cons_of_neg (by decide)]
  have form : (fraction.all Text.isAsciiDigit && !(whole.isEmpty && fraction.isEmpty)) = true := by
    rw [Bool.and_eq_true_iff]
    refine ⟨List.all_eq_true.mpr (isDigits_iff.mp isFraction), ?_⟩
    rw [Bool.not_eq_true', ← Bool.not_eq_true, Bool.and_eq_true_iff, List.isEmpty_iff,
      List.isEmpty_iff]
    exact fun both => given (List.append_eq_nil_iff.mpr both)
  rw [numeral?, cut]
  dsimp only
  rw [taken, dropped]
  exact if_pos form

end Reading

/-- Whatever is read as a numeral is one. -/
theorem isNumeral_of_numeral? {s : List Char} {n : Numeral} (reads : numeral? s = some n) :
    IsNumeral s n := by
  obtain ⟨sign, isSign, start⟩ := splitSign_isSign s
  unfold numeral? at reads
  generalize Text.splitSign s = split at *
  obtain ⟨negative, rest⟩ := split
  dsimp only at *
  have isDigits := isDigits_takeWhile rest
  have cut := List.takeWhile_append_dropWhile (p := Text.isAsciiDigit) (l := rest)
  generalize rest.takeWhile Text.isAsciiDigit = whole at *
  rw [start, ← cut]
  split at reads
  · next none =>
      split_ifs at reads with empty
      cases reads
      rw [none, List.append_nil]
      exact .undotted isSign isDigits fun isNil => empty (List.isEmpty_iff.mpr isNil)
  · next fraction point =>
      split_ifs at reads with form
      cases reads
      rw [point]
      obtain ⟨all, given⟩ := Bool.and_eq_true_iff.mp form
      refine .dotted isSign isDigits (isDigits_iff.mpr (List.all_eq_true.mp all)) fun isNil => ?_
      obtain ⟨rfl, rfl⟩ := List.append_eq_nil_iff.mp isNil
      cases given
  · cases reads

/-- A text is read as a numeral just as the grammar says. -/
theorem numeral?_eq_some_iff {s : List Char} {n : Numeral} :
    numeral? s = some n ↔ IsNumeral s n := by
  refine ⟨isNumeral_of_numeral?, fun form => ?_⟩
  cases form with
  | undotted isSign isDigits given => exact numeral?_undotted isSign isDigits given
  | dotted isSign isDigits isFraction given => exact numeral?_dotted isSign isDigits isFraction given

/-! ## The number of a numeral -/

namespace Numeral

/-- The digits of a numeral without its point. -/
def digits (n : Numeral) : Nat := Text.digitsValue (n.whole ++ n.fraction.getD [])

/-- How many digits stand after the point. -/
def places (n : Numeral) : Nat := (n.fraction.getD []).length

/-- What a numeral denotes without its sign. -/
def magnitude (n : Numeral) : ℚ := n.digits * 10 ^ (-(n.places : Int))

/-- What a numeral denotes. -/
def value (n : Numeral) : ℚ := if n.negative then -n.magnitude else n.magnitude

theorem magnitude_eq_div (n : Numeral) : n.magnitude = (n.digits : ℚ) / (10 ^ n.places : Nat) := by
  rw [magnitude, zpow_neg, zpow_natCast, ← div_eq_mul_inv, Nat.cast_pow, Nat.cast_ofNat]

theorem magnitude_nonneg (n : Numeral) : 0 ≤ n.magnitude := by
  unfold magnitude
  positivity

theorem abs_value (n : Numeral) : |n.value| = n.magnitude := by
  unfold value
  split_ifs
  · rw [abs_neg, abs_of_nonneg n.magnitude_nonneg]
  · exact abs_of_nonneg n.magnitude_nonneg

theorem cast_signed (negative : Bool) (k : Nat) :
    ((signed negative k : Int) : ℚ) = if negative then -(k : ℚ) else k := by
  cases negative with
  | false => exact Int.cast_natCast k
  | true => exact (Int.cast_neg _).trans (congrArg _ (Int.cast_natCast k))

/-- A numeral denotes an integer just if it does so without its sign. -/
theorem value_eq_iff (n : Numeral) {N : Int} :
    n.value = N ↔ n.magnitude = N.natAbs ∧ N = signed n.negative N.natAbs := by
  constructor
  · intro same
    have size : n.magnitude = N.natAbs := by
      rw [← n.abs_value, same, Nat.cast_natAbs, Int.cast_abs]
    refine ⟨size, Int.cast_injective (α := ℚ) ?_⟩
    rw [← same, cast_signed, value, size]
  · rintro ⟨size, sign⟩
    rw [sign, cast_signed, value, size]

end Numeral

/-! ## Texts of integers -/

/-- The text of an integer is a sign and its digits. -/
theorem integerDigits_eq (N : Int) :
    ∃ sign, IsSign sign (decide (N < 0)) ∧ integerDigits N = sign ++ decimalDigits N.natAbs := by
  unfold integerDigits
  split_ifs with below
  · rw [decide_eq_true below]
    exact ⟨_, .minus, rfl⟩
  · rw [decide_eq_false below]
    exact ⟨_, .absent, rfl⟩

theorem isDigits_decimalDigits (k : Nat) : IsDigits (decimalDigits k) :=
  isDigits_iff.mpr (Json.isAsciiDigit_decimalDigits k)

theorem decimalDigits_ne_nil (k : Nat) : decimalDigits k ≠ [] := by
  obtain ⟨d, ds, same, -⟩ := Json.head_decimalDigits k
  rw [same]
  exact List.cons_ne_nil d ds

theorem natAbs_signed (negative : Bool) (k : Nat) : (signed negative k).natAbs = k := by
  cases negative with
  | false => exact Int.natAbs_natCast k
  | true => exact (Int.natAbs_neg k).trans (Int.natAbs_natCast k)

theorem signed_natAbs (N : Int) : signed (decide (N < 0)) N.natAbs = N := by
  unfold signed
  split_ifs with sign
  · have := of_decide_eq_true sign
    omega
  · have := of_decide_eq_false (Bool.not_eq_true _ ▸ sign)
    omega

/-- Each zero behind digits multiplies by ten. -/
theorem digitsValue_append_zeros (digits : List Char) (k : Nat) :
    Text.digitsValue (digits ++ List.replicate k '0') = Text.digitsValue digits * 10 ^ k := by
  have zero : Text.asciiDigit? '0' = some 0 := rfl
  induction k with
  | zero => rw [List.replicate_zero, List.append_nil, Nat.pow_zero, Nat.mul_one]
  | succ k ih =>
      rw [Text.digitsValue] at ih ⊢
      rw [List.replicate_succ', ← List.append_assoc, List.foldl_append, ih, List.foldl_cons,
        List.foldl_nil, zero, Option.getD_some, Nat.pow_succ, Text.digitsValue]
      ring

/-- The text of an integer with a point and zeros behind it. -/
def pointedText (N : Int) (zeros : Nat) : String :=
  integerText N ++ String.ofList ('.' :: List.replicate zeros '0')

/-- A point with zeros behind it does not change what is denoted. -/
theorem isNumeral_pointedText (N : Int) (zeros : Nat) :
    ∃ n, IsNumeral (pointedText N zeros).toList n ∧ n.fraction ≠ none ∧ n.value = N := by
  obtain ⟨sign, isSign, text⟩ := integerDigits_eq N
  have isFraction : IsDigits (List.replicate zeros '0') := by
    intro c member
    rw [List.eq_of_mem_replicate member]
    decide
  refine ⟨⟨decide (N < 0), decimalDigits N.natAbs, some (List.replicate zeros '0')⟩, ?_, nofun, ?_⟩
  · rw [pointedText, String.toList_append, integerText, String.toList_ofList, String.toList_ofList,
      text, List.append_assoc]
    exact .dotted isSign (isDigits_decimalDigits _) isFraction
      fun isNil => decimalDigits_ne_nil _ (List.append_eq_nil_iff.mp isNil).1
  · refine (Numeral.value_eq_iff _).mpr ⟨?_, (signed_natAbs N).symm⟩
    have tens : ((10 ^ zeros : Nat) : ℚ) ≠ 0 := by positivity
    rw [Numeral.magnitude_eq_div, Numeral.digits, Numeral.places, Option.getD_some,
      List.length_replicate, digitsValue_append_zeros, Json.digitsValue_decimalDigits, Nat.cast_mul,
      mul_div_cancel_right₀ _ tens]

end MapStyle.MatchKey
