import MapStyle.Shape.Problem
import MapStyle.Expression.Operator
import MapStyle.Value.Basic

/-!
# The shape of an expression

A forged expression is a non-empty array led by the tag of a known operator; nothing else is
looked at. `Shape.isExpression` decides it and `Shape.checkExpression` says what is wrong.
-/

namespace MapStyle.Shape

/-- A non-empty array led by the tag of a known operator. -/
def isExpression : Value → Bool
  | .list (.str tag :: _) => (Operator.ofTag? tag).isSome
  | _ => false

/-- What keeps a value from being a forged expression, if anything does. -/
def checkExpression : Value → Option ExpressionProblem
  | .list [] => some .notArray
  | .list (.str tag :: _) =>
    match Operator.ofTag? tag with
    | some _ => none
    | none => some (.unknownOperator tag)
  | .list (.broken symbols :: _) => some (.brokenOperator symbols)
  | .list _ => some .noOperator
  | _ => some .notArray

end MapStyle.Shape
