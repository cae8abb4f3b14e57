import MapStyle.Expression.Style
import MapStyle.Script.Arguments

/-!
# Functions of the style vocabulary

The functions by which a script builds expressions, each with its arity and with the expression that
it builds.
-/

namespace MapStyle.Script

/-- A function of the style vocabulary that builds an expression. -/
inductive StyleFunction where
  | literal | get | has | zoom | globalState | elevation | e | pi | ln2 | caseOf | add | subtract
  | multiply | divide | remainder | power | sqrt | log10 | eq | neq | gt | gte | lt | lte | all
  | any | negate | toNumber | toText | toBoolean | toColor | string | number | boolean | array
  | object | typeOf | coalesce | collator | format | concat | upcase | downcase | image
  | numberFormat | resolvedLocale | isSupportedScript | length | itemAt | slice | isIn | indexOf
  | interpolate | interpolateHcl | interpolateLab | step | distance | within
deriving DecidableEq, Repr, Inhabited

namespace StyleFunction

def arity : StyleFunction → Arity
  | .zoom | .elevation | .e | .pi | .ln2 => .exactly 0
  | .literal | .get | .has | .globalState | .sqrt | .log10 | .negate | .toNumber | .toText
  | .toBoolean | .toColor | .string | .number | .boolean | .object | .typeOf | .upcase
  | .downcase | .image | .resolvedLocale | .isSupportedScript | .length | .distance
  | .within => .exactly 1
  | .subtract | .divide | .remainder | .power | .eq | .neq | .gt | .gte | .lt | .lte | .itemAt
  | .isIn => .exactly 2
  | .array | .collator | .slice | .indexOf => .exactly 3
  | .numberFormat => .exactly 5
  | .caseOf | .add | .multiply | .all | .any | .coalesce | .format | .concat => .atLeast 0
  | .interpolate | .interpolateHcl | .interpolateLab | .step => .atLeast 2

/-- The expression that a function builds from its arguments. -/
def run (f : StyleFunction) (args : Arguments) : Except Fault Expression :=
  match f with
  | .literal => args.unary Style.literal
  | .get => args.unary Style.get
  | .has => args.unary Style.has
  | .zoom => args.leaf Style.zoom
  | .globalState => args.unary Style.globalState
  | .elevation => args.leaf Style.elevation
  | .e => args.leaf Style.e
  | .pi => args.leaf Style.pi
  | .ln2 => args.leaf Style.ln2
  | .caseOf => args.many Style.caseOf
  | .add => args.many Style.add
  | .subtract => args.binary Style.subtract
  | .multiply => args.many Style.multiply
  | .divide => args.binary Style.divide
  | .remainder => args.binary Style.remainder
  | .power => args.binary Style.power
  | .sqrt => args.unary Style.sqrt
  | .log10 => args.unary Style.log10
  | .eq => args.binary Style.eq
  | .neq => args.binary Style.neq
  | .gt => args.binary Style.gt
  | .gte => args.binary Style.gte
  | .lt => args.binary Style.lt
  | .lte => args.binary Style.lte
  | .all => args.many Style.all
  | .any => args.many Style.any
  | .negate => args.unary Style.negate
  | .toNumber => args.unary Style.toNumber
  | .toText => args.unary Style.toText
  | .toBoolean => args.unary Style.toBoolean
  | .toColor => args.unary Style.toColor
  | .string => args.unary Style.string
  | .number => args.unary Style.number
  | .boolean => args.unary Style.boolean
  | .array =>
    match args.fixed with
    | [some value, itemType, size] =>
      .ok (Style.array value (Arguments.orNull itemType) (Arguments.orNull size))
    | _ => .error .mistyped
  | .object => args.unary Style.object
  | .typeOf => args.unary Style.typeOf
  | .coalesce => args.many Style.coalesce
  | .collator =>
    match args.fixed with
    | [caseSensitive, diacriticSensitive, locale] =>
      .ok (Style.collator (Arguments.orNull caseSensitive) (Arguments.orNull diacriticSensitive)
        (Arguments.orNull locale))
    | _ => .error .mistyped
  | .format => args.many Style.format
  | .concat => args.many Style.concat
  | .upcase => args.unary Style.upcase
  | .downcase => args.unary Style.downcase
  | .image => args.unary Style.image
  | .numberFormat =>
    match args.fixed with
    | [some value, locale, currency, least, most] =>
      .ok (Style.numberFormat value (Arguments.orNull locale) (Arguments.orNull currency)
        (Arguments.orNull least) (Arguments.orNull most))
    | _ => .error .mistyped
  | .resolvedLocale => args.unary Style.resolvedLocale
  | .isSupportedScript => args.unary Style.isSupportedScript
  | .length => args.unary Style.length
  | .itemAt => args.binary Style.itemAt
  | .slice =>
    match args.fixed with
    | [some value, some start, stop] =>
      .ok (Style.slice value start (Arguments.orNull stop))
    | _ => .error .mistyped
  | .isIn => args.binary Style.isIn
  | .indexOf =>
    match args.fixed with
    | [some item, some value, fromIndex] =>
      .ok (Style.indexOf item value (Arguments.orNull fromIndex))
    | _ => .error .mistyped
  | .interpolate => args.twoAndMany Style.interpolate
  | .interpolateHcl => args.twoAndMany Style.interpolateHcl
  | .interpolateLab => args.twoAndMany Style.interpolateLab
  | .step => args.twoAndMany Style.step
  | .distance => args.unary Style.distance
  | .within => args.unary Style.within

end StyleFunction

end MapStyle.Script
