import MapStyle.Chain.Match
import MapStyle.Expression.Style

/-!
# Property values

The value of a layer property is a literal, a forged expression, or a function record.  `Property`
is for properties that depend on data, `Constant` for those that do not.
-/

namespace MapStyle

/-- The value of a property that may depend on data. -/
structure Property where
  value : Value
deriving Inhabited, Repr

/-- The value of a property that does not depend on data. -/
structure Constant where
  value : Value
deriving Inhabited, Repr

namespace Property

def ofExpression (e : Expression) : Property := ⟨e.forged⟩

def interpolate (interpolation input : Value) (stops : List Value) : Property :=
  ofExpression (Style.interpolate interpolation input stops)

def step (input base : Value) (stops : List Value) : Property :=
  ofExpression (Style.step input base stops)

/-- Conditions with results and a default. -/
def caseOf (arguments : List Value) : Property := ofExpression (Style.caseOf arguments)

/-- What a match with a fallback forges to: without a table there is no place for the fallback, and
the match has no branch. -/
def matchOn (subject : Value) (table : Option Entries) (fallback : Value) : Property :=
  match Style.matchOn subject table (some fallback) with
  | .finished ending value => ofExpression (ending.fallback value)
  | .unfinished chain => ofExpression chain.build
  | .closing ending => ofExpression ending.chain.build

def toValue (p : Property) : Value := .property p.value

end Property

namespace Constant

def ofExpression (e : Expression) : Constant := ⟨e.forged⟩

def toValue (c : Constant) : Value := .constant c.value

end Constant

namespace Value

/-- A value as a layer stores it: expressions and property values are forged. -/
def asPropertyValue : Value → Value
  | .expression forged => forged
  | .property v | .constant v => v
  | v => v

end Value

end MapStyle
