import MapStyle.Expression.Basic

/-!
# The style vocabulary

One function per form of the style grammar, with all operands given explicitly.  Optional operands
that are null are left out.

The names of properties and states (`get`, `has`, `globalState`) and the payload of `literal` are
kept as they are; every other argument is an operand.
-/

namespace MapStyle.Style

open Expression

/-! ## Leaves -/

/-- A constant, kept as it is. -/
def literal (value : Value) : Expression := ofParts .literal [value]

/-- The value of a feature property. -/
def get (name : Value) : Expression := ofParts .get [name]

/-- Whether a feature has a property. -/
def has (name : Value) : Expression := ofParts .has [name]

def zoom : Expression := ofParts .zoom []

def globalState (key : Value) : Expression := ofParts .globalState [key]

def elevation : Expression := ofParts .elevation []

/-- Euler's number. -/
def e : Expression := ofParts .e []

def pi : Expression := ofParts .pi []

/-- The natural logarithm of two. -/
def ln2 : Expression := ofParts .ln2 []

def var (name : Value) : Expression := ofParts .var [name]

/-! ## Interpolation types -/

/-- Linear interpolation, a bare array. -/
def linear : Value := .list [.str "linear"]

/-- Exponential interpolation, a bare array. -/
def exponential (base : Value) : Value := .list [.str "exponential", base.asOperand]

/-- Interpolation along a cubic curve, a bare array. -/
def cubicBezier (x₁ y₁ x₂ y₂ : Value) : Value :=
  .list (.str "cubic-bezier" :: [x₁, y₁, x₂, y₂].map Value.asOperand)

/-! ## Decisions -/

/-- Alternating conditions and results, and a default. -/
def caseOf (arguments : List Value) : Expression := ofOperator .caseOf arguments

/-! ## Arithmetic -/

def add (values : List Value) : Expression := ofOperator .add values
def subtract (a b : Value) : Expression := ofOperator .subtract [a, b]
def multiply (values : List Value) : Expression := ofOperator .multiply values
def divide (a b : Value) : Expression := ofOperator .divide [a, b]
def remainder (a b : Value) : Expression := ofOperator .remainder [a, b]
def power (base exponent : Value) : Expression := ofOperator .power [base, exponent]
def sqrt (value : Value) : Expression := ofOperator .sqrt [value]
def log10 (value : Value) : Expression := ofOperator .log10 [value]

/-! ## Comparison -/

def eq (a b : Value) : Expression := ofOperator .eq [a, b]
def neq (a b : Value) : Expression := ofOperator .neq [a, b]
def gt (a b : Value) : Expression := ofOperator .gt [a, b]
def gte (a b : Value) : Expression := ofOperator .gte [a, b]
def lt (a b : Value) : Expression := ofOperator .lt [a, b]
def lte (a b : Value) : Expression := ofOperator .lte [a, b]

/-! ## Logic -/

def all (conditions : List Value) : Expression := ofOperator .all conditions
def any (conditions : List Value) : Expression := ofOperator .any conditions
def negate (condition : Value) : Expression := ofOperator .negate [condition]

/-! ## Types -/

def toNumber (value : Value) : Expression := ofOperator .toNumber [value]
def toText (value : Value) : Expression := ofOperator .toText [value]
def toBoolean (value : Value) : Expression := ofOperator .toBoolean [value]
def toColor (value : Value) : Expression := ofOperator .toColor [value]
def string (value : Value) : Expression := ofOperator .string [value]
def number (value : Value) : Expression := ofOperator .number [value]
def boolean (value : Value) : Expression := ofOperator .boolean [value]

/-- Assert an array.  An item type stands before the value if it is not falsy, and a length between
the two if both are given. -/
def array (value itemType length : Value) : Expression :=
  if itemType.isFalsy then ofOperator .array [value]
  else if length.isNull then ofOperator .array [itemType, value]
  else ofOperator .array [itemType, length, value]

def object (value : Value) : Expression := ofOperator .object [value]
def typeOf (value : Value) : Expression := ofOperator .typeOf [value]
def coalesce (values : List Value) : Expression := ofOperator .coalesce values

/-- A collator, with a record of options when one of them is set. -/
def collator (caseSensitive diacriticSensitive locale : Value) : Expression :=
  let options := optionRecord
    [namedEntry "case-sensitive" caseSensitive,
     namedEntry "diacritic-sensitive" diacriticSensitive,
     namedEntry "locale" locale]
  if options.isEmpty then ofOperator .collator [] else ofOperator .collator [.map options]

/-- The options by which a record styles the section before it, in the order they are written. -/
def sectionOptions : List String := ["font-scale", "text-font", "text-color", "vertical-align"]

/-- A section of formatted text: of a record only the style options are kept, anything else is an
operand. -/
def formatSection (part : Value) : Value :=
  match part.entries? with
  | some entries =>
    .map (optionRecord (sectionOptions.map fun name =>
      namedEntry name ((Entries.lookupName entries name).getD .null)))
  | none => part.asOperand

/-- Formatted text from texts, expressions and style records. -/
def format (sections : List Value) : Expression := ofParts .format (sections.map formatSection)

/-! ## Texts -/

def concat (values : List Value) : Expression := ofOperator .concat values
def upcase (value : Value) : Expression := ofOperator .upcase [value]
def downcase (value : Value) : Expression := ofOperator .downcase [value]
def image (name : Value) : Expression := ofOperator .image [name]

/-- A number as text, with a record of options when one of them is set. -/
def numberFormat (value locale currency minFractionDigits maxFractionDigits : Value) : Expression :=
  let options := optionRecord
    [namedEntry "locale" locale,
     namedEntry "currency" currency,
     namedEntry "min-fraction-digits" minFractionDigits,
     namedEntry "max-fraction-digits" maxFractionDigits]
  if options.isEmpty then ofOperator .numberFormat [value]
  else ofOperator .numberFormat [value, .map options]

def resolvedLocale (collator : Value) : Expression := ofOperator .resolvedLocale [collator]
def isSupportedScript (value : Value) : Expression := ofOperator .isSupportedScript [value]

/-! ## Lookup -/

def length (value : Value) : Expression := ofOperator .length [value]
def itemAt (index value : Value) : Expression := ofOperator .itemAt [index, value]

/-- A part of a text or an array; without an end it reaches to the last item. -/
def slice (value start stop : Value) : Expression :=
  if stop.isNull then ofOperator .slice [value, start]
  else ofOperator .slice [value, start, stop]

def isIn (needle haystack : Value) : Expression := ofOperator .isIn [needle, haystack]

/-- The position of an item, from an index on if one is given. -/
def indexOf (item value fromIndex : Value) : Expression :=
  if fromIndex.isNull then ofOperator .indexOf [item, value]
  else ofOperator .indexOf [item, value, fromIndex]

/-! ## Ramps -/

def interpolate (interpolation input : Value) (stops : List Value) : Expression :=
  ofOperator .interpolate (interpolation :: input :: stops)
def interpolateHcl (interpolation input : Value) (stops : List Value) : Expression :=
  ofOperator .interpolateHcl (interpolation :: input :: stops)
def interpolateLab (interpolation input : Value) (stops : List Value) : Expression :=
  ofOperator .interpolateLab (interpolation :: input :: stops)
def step (input base : Value) (stops : List Value) : Expression :=
  ofOperator .step (input :: base :: stops)

/-! ## Space -/

def distance (geometry : Value) : Expression := ofParts .distance [geometry.asOperand]

/-- Whether the feature lies within a geometry. -/
def within (geometry : Value) : Expression := ofParts .within [geometry.asOperand]

end MapStyle.Style
