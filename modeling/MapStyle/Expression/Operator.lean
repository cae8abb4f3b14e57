/-!
# Operators

The operators of the style grammar.  Each has a tag, the text that leads its array;
`Operator.ofTag?` reads a tag back, and `Operator.ofTag?_tag` says that it reads every tag.
-/

namespace MapStyle

/-- An operator of the style grammar. -/
inductive Operator where
  | get | has | zoom | literal | globalState | elevation | var | letIn | matchOn | caseOf
  | interpolate | interpolateHcl | interpolateLab | step | coalesce
  | add | subtract | multiply | divide | remainder | power | e | pi | ln2
  | eq | neq | gt | gte | lt | lte | all | any | negate
  | toNumber | toText | toBoolean | toColor | string | number | boolean | array | object | typeOf
  | collator | format | concat | downcase | upcase | sqrt | log10 | image | numberFormat
  | resolvedLocale | isSupportedScript | length | itemAt | slice | isIn | indexOf
  | distance | within
deriving DecidableEq, Repr, Inhabited

namespace Operator

/-- The text that leads the array of an operator. -/
def tag : Operator → String
  | .get => "get"
  | .has => "has"
  | .zoom => "zoom"
  | .literal => "literal"
  | .globalState => "global-state"
  | .elevation => "elevation"
  | .var => "var"
  | .letIn => "let"
  | .matchOn => "match"
  | .caseOf => "case"
  | .interpolate => "interpolate"
  | .interpolateHcl => "interpolate-hcl"
  | .interpolateLab => "interpolate-lab"
  | .step => "step"
  | .coalesce => "coalesce"
  | .add => "+"
  | .subtract => "-"
  | .multiply => "*"
  | .divide => "/"
  | .remainder => "%"
  | .power => "^"
  | .e => "e"
  | .pi => "pi"
  | .ln2 => "ln2"
  | .eq => "=="
  | .neq => "!="
  | .gt => ">"
  | .gte => ">="
  | .lt => "<"
  | .lte => "<="
  | .all => "all"
  | .any => "any"
  | .negate => "!"
  | .toNumber => "to-number"
  | .toText => "to-string"
  | .toBoolean => "to-boolean"
  | .toColor => "to-color"
  | .string => "string"
  | .number => "number"
  | .boolean => "boolean"
  | .array => "array"
  | .object => "object"
  | .typeOf => "typeof"
  | .collator => "collator"
  | .format => "format"
  | .concat => "concat"
  | .downcase => "downcase"
  | .upcase => "upcase"
  | .sqrt => "sqrt"
  | .log10 => "log10"
  | .image => "image"
  | .numberFormat => "number-format"
  | .resolvedLocale => "resolved-locale"
  | .isSupportedScript => "is-supported-script"
  | .length => "length"
  | .itemAt => "at"
  | .slice => "slice"
  | .isIn => "in"
  | .indexOf => "index-of"
  | .distance => "distance"
  | .within => "within"

/-- Every operator of the grammar. -/
def known : List Operator :=
  [.get, .has, .zoom, .literal, .globalState, .elevation, .var, .letIn, .matchOn, .caseOf,
   .interpolate, .interpolateHcl, .interpolateLab, .step, .coalesce,
   .add, .subtract, .multiply, .divide, .remainder, .power, .e, .pi, .ln2,
   .eq, .neq, .gt, .gte, .lt, .lte, .all, .any, .negate,
   .toNumber, .toText, .toBoolean, .toColor, .string, .number, .boolean, .array, .object, .typeOf,
   .collator, .format, .concat, .downcase, .upcase, .sqrt, .log10, .image, .numberFormat,
   .resolvedLocale, .isSupportedScript, .length, .itemAt, .slice, .isIn, .indexOf,
   .distance, .within]

def ofTag? (tag : String) : Option Operator := known.find? fun op => op.tag == tag

/-- No operator is missing from the list. -/
theorem mem_known (op : Operator) : op ∈ known := by cases op <;> decide

/-- Every tag is read back. -/
theorem ofTag?_tag (op : Operator) : ofTag? op.tag = some op := by cases op <;> decide

end Operator

end MapStyle
