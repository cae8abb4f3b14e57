import MapStyle.Expression.Basic

/-!
# Writing values

Texts, numbers and expressions may be written where a value is wanted.
-/

namespace MapStyle

instance : Coe String Value := ⟨.str⟩

instance (n : Nat) : OfNat Value n := ⟨.int n⟩

instance : Coe Expression Value := ⟨Expression.toValue⟩

/-- The double nearest to `digits * 10 ^ exponent`, as a value. -/
def Value.decimal (digits : Nat) (exponent : Int) : Value :=
  .float (Binary64.ofDecimal false digits exponent)

end MapStyle
