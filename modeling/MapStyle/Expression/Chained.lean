import MapStyle.Expression.Style

/-!
# Chained forms

Every operation as a step from an expression: the receiver is the first operand, except where the
grammar wants an index, an item or an interpolation before it, and except for the spatial forms,
which do not use it.
-/

namespace MapStyle.Expression

/-! ## Arithmetic -/

def add (self : Expression) (values : List Value) : Expression :=
  ofOperator .add (self.toValue :: values)
def subtract (self : Expression) (value : Value) : Expression :=
  ofOperator .subtract [self.toValue, value]
def multiply (self : Expression) (values : List Value) : Expression :=
  ofOperator .multiply (self.toValue :: values)
def divide (self : Expression) (value : Value) : Expression :=
  ofOperator .divide [self.toValue, value]
def remainder (self : Expression) (value : Value) : Expression :=
  ofOperator .remainder [self.toValue, value]
def power (self : Expression) (exponent : Value) : Expression :=
  ofOperator .power [self.toValue, exponent]
def sqrt (self : Expression) : Expression := ofOperator .sqrt [self.toValue]
def log10 (self : Expression) : Expression := ofOperator .log10 [self.toValue]

/-! ## Comparison -/

def eq (self : Expression) (value : Value) : Expression := ofOperator .eq [self.toValue, value]
def neq (self : Expression) (value : Value) : Expression := ofOperator .neq [self.toValue, value]
def gt (self : Expression) (value : Value) : Expression := ofOperator .gt [self.toValue, value]
def gte (self : Expression) (value : Value) : Expression := ofOperator .gte [self.toValue, value]
def lt (self : Expression) (value : Value) : Expression := ofOperator .lt [self.toValue, value]
def lte (self : Expression) (value : Value) : Expression := ofOperator .lte [self.toValue, value]

/-! ## Logic -/

def all (self : Expression) (conditions : List Value) : Expression :=
  ofOperator .all (self.toValue :: conditions)

def any (self : Expression) (conditions : List Value) : Expression :=
  ofOperator .any (self.toValue :: conditions)

/-! ## Types -/

def toNumber (self : Expression) : Expression := ofOperator .toNumber [self.toValue]
def toText (self : Expression) : Expression := ofOperator .toText [self.toValue]
def toBoolean (self : Expression) : Expression := ofOperator .toBoolean [self.toValue]
def toColor (self : Expression) : Expression := ofOperator .toColor [self.toValue]
def string (self : Expression) : Expression := ofOperator .string [self.toValue]
def number (self : Expression) : Expression := ofOperator .number [self.toValue]
def boolean (self : Expression) : Expression := ofOperator .boolean [self.toValue]

/-- Assert an array, of an item type and, together with one, of a length. -/
def array (self : Expression) (itemType length : Value) : Expression :=
  if itemType.isFalsy then ofOperator .array [self.toValue]
  else if length.isNull then ofOperator .array [itemType, self.toValue]
  else ofOperator .array [itemType, length, self.toValue]

def object (self : Expression) : Expression := ofOperator .object [self.toValue]
def typeOf (self : Expression) : Expression := ofOperator .typeOf [self.toValue]
def coalesce (self : Expression) (values : List Value) : Expression :=
  ofOperator .coalesce (self.toValue :: values)

/-! ## Texts -/

def concat (self : Expression) (values : List Value) : Expression :=
  ofOperator .concat (self.toValue :: values)
def upcase (self : Expression) : Expression := ofOperator .upcase [self.toValue]
def downcase (self : Expression) : Expression := ofOperator .downcase [self.toValue]
def image (self : Expression) : Expression := ofOperator .image [self.toValue]

/-- This number as text, with a record of options when one of them is set. -/
def numberFormat (self : Expression)
    (locale currency minFractionDigits maxFractionDigits : Value) : Expression :=
  let options := optionRecord
    [namedEntry "locale" locale,
     namedEntry "currency" currency,
     namedEntry "min-fraction-digits" minFractionDigits,
     namedEntry "max-fraction-digits" maxFractionDigits]
  if options.isEmpty then ofOperator .numberFormat [self.toValue]
  else ofOperator .numberFormat [self.toValue, .map options]

def resolvedLocale (self : Expression) : Expression := ofOperator .resolvedLocale [self.toValue]
def isSupportedScript (self : Expression) : Expression :=
  ofOperator .isSupportedScript [self.toValue]

/-! ## Lookup -/

def length (self : Expression) : Expression := ofOperator .length [self.toValue]

/-- The item at an index; the receiver is the array and stands last. -/
def itemAt (self : Expression) (index : Value) : Expression :=
  ofOperator .itemAt [index, self.toValue]

/-- A part of this text or array; without an end it reaches to the last item. -/
def slice (self : Expression) (start stop : Value) : Expression :=
  if stop.isNull then ofOperator .slice [self.toValue, start]
  else ofOperator .slice [self.toValue, start, stop]

/-- Whether this value is in a collection. -/
def isIn (self : Expression) (collection : Value) : Expression :=
  ofOperator .isIn [self.toValue, collection]

/-- The position of an item in this value; the receiver follows the item. -/
def indexOf (self : Expression) (item fromIndex : Value) : Expression :=
  if fromIndex.isNull then ofOperator .indexOf [item, self.toValue]
  else ofOperator .indexOf [item, self.toValue, fromIndex]

/-! ## Ramps -/

def interpolate (self : Expression) (interpolation : Value) (stops : List Value) : Expression :=
  ofOperator .interpolate (interpolation :: self.toValue :: stops)
def interpolateHcl (self : Expression) (interpolation : Value) (stops : List Value) : Expression :=
  ofOperator .interpolateHcl (interpolation :: self.toValue :: stops)
def interpolateLab (self : Expression) (interpolation : Value) (stops : List Value) : Expression :=
  ofOperator .interpolateLab (interpolation :: self.toValue :: stops)
def step (self : Expression) (base : Value) (stops : List Value) : Expression :=
  ofOperator .step (self.toValue :: base :: stops)

/-! ## Space -/

/-- The distance to a geometry; the receiver does not appear. -/
def distance (_self : Expression) (geometry : Value) : Expression :=
  ofParts .distance [geometry.asOperand]

/-- Containment in a geometry; the receiver does not appear. -/
def within (_self : Expression) (geometry : Value) : Expression :=
  ofParts .within [geometry.asOperand]

end MapStyle.Expression
