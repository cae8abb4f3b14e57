import MapStyle.Proofs.Chain.Numerals

/-!
# Keys of a match

A text that reads as a numeral becomes a number when it is made a key.  Without a point it becomes
the integer that it denotes; with one it becomes the nearest double, as an integer if that denotes
one.

* `MatchKey.key?_dotted` takes a numeral with a point to the nearest double.
* `MatchKey.normalize_grammar` is the statement about all keys.
* `MatchKey.normalize_dotted` says how far a numeral with a point keeps its number.
-/

namespace MapStyle.MatchKey

open Binary64

section Keys

variable {s : String} {n : Numeral}

theorem normalize_of_isNumeral (form : IsNumeral s.toList n) :
    normalize (.str s) = n.key?.getD (.str s) := by
  rw [normalize, numeral?_eq_some_iff.mpr form, Option.bind_some]

/-- Without a point the key is the integer, unless there are too many digits. -/
theorem normalize_undotted (form : IsNumeral s.toList n) (undotted : n.fraction = none) :
    normalize (.str s) =
      if n.whole.length ≤ 4300 then .int (signed n.negative (Text.digitsValue n.whole))
      else .str s := by
  have limit : Text.integerDigitLimit = 4300 := rfl
  rw [normalize_of_isNumeral form, Numeral.key?, undotted, limit]
  dsimp only
  split_ifs <;> rfl

/-- What is kept of a numeral with a point is the nearest double, as an integer if it denotes
one. -/
theorem key?_dotted {fraction : List Char} (dotted : n.fraction = some fraction) :
    (overflowBound ≤ n.magnitude ∧ n.key? = none) ∨
      n.magnitude < overflowBound ∧ ∃ m e, IsNearest n.magnitude m e ∧
        ((∃ k : Nat, Binary64.magnitude m e = k ∧ n.key? = some (.int (signed n.negative k))) ∨
          (∀ k : Nat, Binary64.magnitude m e ≠ k) ∧
            n.key? = some (.float (.finite n.negative m e))) := by
  have rounds : RoundsTo n.negative n.magnitude (ofDecimal n.negative n.digits (-(n.places : Int))) :=
    ofDecimal_rounds n.negative n.digits (-(n.places : Int))
  have definition : n.key? =
      let x := ofDecimal n.negative n.digits (-(n.places : Int))
      if x.isFinite then some ((x.toInt?.map Value.int).getD (.float x)) else none := by
    rw [Numeral.key?, Numeral.digits, Numeral.places, dotted]
    dsimp only [Option.getD_some]
    split_ifs
    · split <;> next found => rw [found]; rfl
    · rfl
  dsimp only at definition
  generalize ofDecimal n.negative n.digits (-(n.places : Int)) = x at rounds definition
  cases rounds with
  | infinite beyond => exact Or.inl ⟨beyond, definition⟩
  | @finite m e within near =>
      refine Or.inr ⟨within, m, e, near, ?_⟩
      cases integral : (Binary64.finite n.negative m e).toInt? with
      | some k =>
          obtain ⟨j, natural, rfl⟩ := toInt?_eq_some_iff.mp integral
          rw [integral] at definition
          exact Or.inl ⟨j, natural, definition⟩
      | none =>
          rw [integral] at definition
          refine Or.inr ⟨fun k natural => ?_, definition⟩
          rw [toInt?_eq_some_iff.mpr ⟨k, natural, rfl⟩] at integral
          cases integral

end Keys

/-! ## Exact keys -/

section Exact

variable {s : String} {n : Numeral} {N : Int}

/-- A numeral with a point that denotes an integer becomes the one of the nearest double, which is
the same just if a double has it. -/
theorem normalize_of_value_eq (form : IsNumeral s.toList n) (dotted : n.fraction ≠ none)
    (same : n.value = N) (small : N.natAbs < 10 ^ 300) :
    (∃ k m e, IsNearest N.natAbs m e ∧ Binary64.magnitude m e = (k : Nat) ∧
      normalize (.str s) = .int (signed n.negative k)) ∧
    (normalize (.str s) = .int N ↔ IsMagnitude N.natAbs) := by
  obtain ⟨size, sign⟩ := n.value_eq_iff.mp same
  obtain ⟨fraction, dotted⟩ := Option.ne_none_iff_exists'.mp dotted
  have within : n.magnitude < overflowBound := by
    rw [size]
    exact lt_trans (by exact_mod_cast small) ten_pow_lt_overflowBound
  rcases key?_dotted dotted with ⟨beyond, -⟩ | ⟨-, m, e, near, found⟩
  · exact absurd within (not_lt.mpr beyond)
  rw [size] at near
  obtain ⟨k, natural⟩ := near.exists_nat
  rcases found with ⟨k', natural', found⟩ | ⟨other, -⟩
  · obtain rfl : k' = k := by exact_mod_cast natural'.symm.trans natural
    have becomes : normalize (.str s) = .int (signed n.negative k') := by
      rw [normalize_of_isNumeral form, found]
      rfl
    refine ⟨⟨k', m, e, near, natural, becomes⟩, ?_⟩
    rw [becomes, Value.int.injEq]
    constructor
    · rintro rfl
      rw [natAbs_signed]
      exact ⟨m, e, near.double, natural.symm⟩
    · intro isMagnitude
      have equal : k' = N.natAbs := by
        exact_mod_cast natural.symm.trans (near.magnitude_eq isMagnitude)
      rw [equal]
      exact sign.symm
  · exact absurd natural (other k)

/-- A numeral with a point becomes an integer just if the nearest double denotes one. -/
theorem exists_normalize_int_iff (form : IsNumeral s.toList n) (dotted : n.fraction ≠ none) :
    (∃ K : Int, normalize (.str s) = .int K) ↔ n.magnitude < overflowBound ∧
      ∃ m e, IsNearest n.magnitude m e ∧ ∃ k : Nat, Binary64.magnitude m e = k := by
  obtain ⟨fraction, dotted⟩ := Option.ne_none_iff_exists'.mp dotted
  rw [normalize_of_isNumeral form]
  rcases key?_dotted dotted with ⟨beyond, none⟩ |
    ⟨within, m, e, near, ⟨k, natural, found⟩ | ⟨other, found⟩⟩
  · rw [none]
    refine iff_of_false ?_ fun ⟨within, _⟩ => absurd beyond (not_le.mpr within)
    rintro ⟨K, ⟨⟩⟩
  · rw [found]
    exact iff_of_true ⟨_, rfl⟩ ⟨within, m, e, near, k, natural⟩
  · rw [found]
    refine iff_of_false ?_ ?_
    · rintro ⟨K, ⟨⟩⟩
    · rintro ⟨-, m', e', near', k, natural⟩
      obtain ⟨rfl, rfl⟩ := near.unique near'
      exact other k natural

/-- A numeral with few digits that denotes no integer does not become one. -/
theorem normalize_ne_int (form : IsNumeral s.toList n) (dotted : n.fraction ≠ none)
    (other : ∀ N : Int, n.value ≠ N) (few : n.digits < 2 ^ 53) (short : n.places ≤ 323) (K : Int) :
    normalize (.str s) ≠ .int K := by
  have noNatural : ∀ k : Nat, n.magnitude ≠ k := by
    intro k size
    refine other (signed n.negative k) (n.value_eq_iff.mpr ?_)
    rw [natAbs_signed]
    exact ⟨size, rfl⟩
  have positive : 0 < n.digits := by
    refine Nat.pos_of_ne_zero fun none => noNatural 0 ?_
    rw [Numeral.magnitude, none, Nat.cast_zero, zero_mul]
  intro becomes
  obtain ⟨-, m, e, near, k, natural⟩ := (exists_normalize_int_iff form dotted).mp ⟨K, becomes⟩
  rw [Numeral.magnitude_eq_div] at near
  have whole := near.eq_mul positive few short natural
  have tens : ((10 ^ n.places : Nat) : ℚ) ≠ 0 := by positivity
  refine noNatural k ?_
  rw [Numeral.magnitude_eq_div, whole, Nat.cast_mul, mul_div_cancel_right₀ _ tens]

/-- The text of an integer that has not too many digits becomes it. -/
theorem normalize_integerText {count : Nat} (small : N.natAbs < 10 ^ count)
    (few : count ≤ Text.integerDigitLimit) : normalize (.str (integerText N)) = .int N := by
  obtain ⟨sign, isSign, text⟩ := integerDigits_eq N
  have form : IsNumeral (integerText N).toList ⟨decide (N < 0), decimalDigits N.natAbs, none⟩ := by
    rw [integerText, String.toList_ofList, text]
    exact .undotted isSign (isDigits_decimalDigits _) (decimalDigits_ne_nil _)
  have short : (decimalDigits N.natAbs).length ≤ Text.integerDigitLimit :=
    (Nat.length_toDigits_le_iff (by decide) (by decide)).mpr
      (small.trans_le (Nat.pow_le_pow_right (by decide) few))
  rw [normalize_undotted form rfl]
  refine (if_pos short).trans ?_
  rw [Json.digitsValue_decimalDigits, signed_natAbs]

/-- How far a numeral with a point keeps its number.  If it denotes an integer of at most 300
digits, it becomes the integer of the nearest double; that is the one that it becomes without the
point just if a double has it.  If it denotes no integer, it becomes one just if the nearest double
denotes one, which it does not if the digits are few. -/
theorem normalize_dotted (form : IsNumeral s.toList n) (dotted : n.fraction ≠ none) :
    (∀ N : Int, n.value = N → N.natAbs < 10 ^ 300 →
      normalize (.str (integerText N)) = .int N ∧
      (∃ k m e, IsNearest N.natAbs m e ∧ Binary64.magnitude m e = (k : Nat) ∧
        normalize (.str s) = .int (signed n.negative k)) ∧
      (normalize (.str s) = .int N ↔ IsMagnitude N.natAbs)) ∧
    ((∀ N : Int, n.value ≠ N) →
      ((∃ K : Int, normalize (.str s) = .int K) ↔ n.magnitude < overflowBound ∧
        ∃ m e, IsNearest n.magnitude m e ∧ ∃ k : Nat, Binary64.magnitude m e = k) ∧
      (n.digits < 2 ^ 53 → n.places ≤ 323 → ∀ K : Int, normalize (.str s) ≠ .int K)) := by
  constructor
  · intro N same small
    exact ⟨normalize_integerText small (by decide), normalize_of_value_eq form dotted same small⟩
  · intro other
    exact ⟨exists_normalize_int_iff form dotted, normalize_ne_int form dotted other⟩

/-- The fifty-third power of two with a point behind it, which a double has. -/
theorem normalize_dotted_two_pow :
    let n : Numeral := ⟨false, "9007199254740992".toList, some ['0']⟩
    IsNumeral "9007199254740992.0".toList n ∧ n.value = (9007199254740992 : Int) ∧
      normalize (.str "9007199254740992.0") = .int 9007199254740992 := by
  intro n
  have form : IsNumeral "9007199254740992.0".toList n := numeral?_eq_some_iff.mp rfl
  have same : n.value = (9007199254740992 : Int) := by
    have digits : n.digits = 90071992547409920 := rfl
    have places : n.places = 1 := rfl
    rw [Numeral.value, if_neg (by decide), Numeral.magnitude_eq_div, digits, places]
    norm_num
  have small : (9007199254740992 : Int).natAbs < 10 ^ 300 :=
    (by decide : 9007199254740992 < 10 ^ 16).trans_le (pow_le_pow_right₀ (by decide) (by decide))
  have kept := ((normalize_dotted form (Option.some_ne_none _)).1 _ same small).2.2
  exact ⟨form, same, kept.mpr (isMagnitude_of_le (by decide))⟩

/-- The first integer that no double has: with a point behind it it becomes another one.  And a
number just below one, with more digits than a double, becomes one. -/
theorem normalize_dotted_ne :
    (∃ n, IsNumeral (pointedText 9007199254740993 1).toList n ∧ n.fraction ≠ none ∧
      n.value = (9007199254740993 : Int)) ∧
    normalize (.str (pointedText 9007199254740993 1)) = .int 9007199254740992 ∧
    normalize (.str "9007199254740993.0") = .int 9007199254740992 ∧
    normalize (.str "9007199254740993.") = .int 9007199254740992 ∧
    normalize (.str "9007199254740993") = .int 9007199254740993 ∧
    normalize (.str "0.99999999999999999") = .int 1 := by
  refine ⟨isNumeral_pointedText _ _, ?_, ?_, ?_, ?_, ?_⟩
  · rfl
  · rfl
  · rfl
  · rfl
  · rfl

end Exact

end MapStyle.MatchKey
