import MapStyle.Expression.Chained
import MapStyle.Script.Arguments

/-!
# Methods of expressions

The steps by which a script goes on from an expression to a further one, each with its arity and
with the expression that it builds.
-/

namespace MapStyle.Script

/-- A step from an expression to a further one. -/
inductive ExpressionMethod where
  | add | subtract | multiply | divide | remainder | power | sqrt | log10 | eq | neq | gt | gte
  | lt | lte | all | any | toNumber | toText | toBoolean | toColor | string | number | boolean
  | array | object | typeOf | coalesce | concat | upcase | downcase | length | itemAt | slice
  | isIn | indexOf | interpolate | interpolateHcl | interpolateLab | step | image
  | numberFormat | resolvedLocale | isSupportedScript | distance | within
deriving DecidableEq, Repr, Inhabited

namespace ExpressionMethod

def arity : ExpressionMethod → Arity
  | .sqrt | .log10 | .toNumber | .toText | .toBoolean | .toColor | .string | .number | .boolean
  | .object | .typeOf | .upcase | .downcase | .length | .image | .resolvedLocale
  | .isSupportedScript => .exactly 0
  | .subtract | .divide | .remainder | .power | .eq | .neq | .gt | .gte | .lt | .lte | .itemAt
  | .isIn | .distance | .within => .exactly 1
  | .array | .slice | .indexOf => .exactly 2
  | .numberFormat => .exactly 4
  | .add | .multiply | .all | .any | .coalesce | .concat => .atLeast 0
  | .interpolate | .interpolateHcl | .interpolateLab | .step => .atLeast 1

def run (method : ExpressionMethod) (self : Expression) (args : Arguments) :
    Except Fault Expression :=
  match method with
  | .add => args.many self.add
  | .subtract => args.unary self.subtract
  | .multiply => args.many self.multiply
  | .divide => args.unary self.divide
  | .remainder => args.unary self.remainder
  | .power => args.unary self.power
  | .sqrt => args.leaf self.sqrt
  | .log10 => args.leaf self.log10
  | .eq => args.unary self.eq
  | .neq => args.unary self.neq
  | .gt => args.unary self.gt
  | .gte => args.unary self.gte
  | .lt => args.unary self.lt
  | .lte => args.unary self.lte
  | .all => args.many self.all
  | .any => args.many self.any
  | .toNumber => args.leaf self.toNumber
  | .toText => args.leaf self.toText
  | .toBoolean => args.leaf self.toBoolean
  | .toColor => args.leaf self.toColor
  | .string => args.leaf self.string
  | .number => args.leaf self.number
  | .boolean => args.leaf self.boolean
  | .array =>
    match args.fixed with
    | [itemType, size] =>
      .ok (self.array (Arguments.orNull itemType) (Arguments.orNull size))
    | _ => .error .mistyped
  | .object => args.leaf self.object
  | .typeOf => args.leaf self.typeOf
  | .coalesce => args.many self.coalesce
  | .concat => args.many self.concat
  | .upcase => args.leaf self.upcase
  | .downcase => args.leaf self.downcase
  | .length => args.leaf self.length
  | .itemAt => args.unary self.itemAt
  | .slice =>
    match args.fixed with
    | [some start, stop] => .ok (self.slice start (Arguments.orNull stop))
    | _ => .error .mistyped
  | .isIn => args.unary self.isIn
  | .indexOf =>
    match args.fixed with
    | [some item, fromIndex] => .ok (self.indexOf item (Arguments.orNull fromIndex))
    | _ => .error .mistyped
  | .interpolate => args.oneAndMany self.interpolate
  | .interpolateHcl => args.oneAndMany self.interpolateHcl
  | .interpolateLab => args.oneAndMany self.interpolateLab
  | .step => args.oneAndMany self.step
  | .image => args.leaf self.image
  | .numberFormat =>
    match args.fixed with
    | [locale, currency, least, most] =>
      .ok (self.numberFormat (Arguments.orNull locale) (Arguments.orNull currency)
        (Arguments.orNull least) (Arguments.orNull most))
    | _ => .error .mistyped
  | .resolvedLocale => args.leaf self.resolvedLocale
  | .isSupportedScript => args.leaf self.isSupportedScript
  | .distance => args.unary self.distance
  | .within => args.unary self.within

end ExpressionMethod

end MapStyle.Script
