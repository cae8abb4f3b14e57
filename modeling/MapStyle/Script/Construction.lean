import MapStyle.Chain.Let
import MapStyle.Chain.Match
import MapStyle.Script.Arguments
import MapStyle.Script.Session

/-!
# Constructing objects

The functions by which a script makes objects and plain arrays, and turns values into the forms in
which other objects hold them.  What an object holds is not looked at when it is made; an expression
among the arguments is copied where it is forged.
-/

namespace MapStyle.Script

/-- A function that makes an object, an array, or the form of a value that objects hold. -/
inductive Construction where
  | operandForm | geometryForm | ofTag | optionRecord | normalizeKey | asPropertyValue
  | linear | exponential | cubicBezier
  | expression | caseChain | matchChain | letChain | when | matchOn | var | bindVar | layer
deriving DecidableEq, Repr, Inhabited

/-- A function that makes the value of a property. -/
inductive PropertyForm where
  | literal | expression | interpolate | step | matchOn | caseOf
deriving DecidableEq, Repr, Inhabited

namespace Act

/-! ## Finished chains

A chain holds its operands as they are.  When it is built each of them is forged, and the
expression copies the array; a value at the end stands behind what this expression forges to, and
the expression with it copies all of that once more. -/

/-- The case chain that pairs of values make. -/
def caseChainOf (conditions : Value) : Act CaseChain := do return ⟨← pairsOf conditions⟩

/-- The match chain that a subject and pairs of values make. -/
def matchChainOf (subject conditions : Value) : Act MatchChain := do
  return ⟨subject, ← pairsOf conditions⟩

def caseArray (chain : CaseChain) : Act Value := do
  let conditions ← chain.conditions.mapM fun pair => do
    let condition ← copyOperand pair.1
    return (condition, ← copyOperand pair.2)
  copy (CaseChain.build ⟨conditions⟩).forged

/-- The array of a match chain, as its expression holds it; the keys of its branches are no
operands. -/
def matchArray (chain : MatchChain) : Act Value := do
  let subject ← copyOperand chain.subject
  let branches ← chain.branches.mapM fun branch => do return (branch.1, ← copyOperand branch.2)
  copy (MatchChain.build ⟨subject, branches⟩).forged

/-- The expression of an array with one more operand at its end. -/
def followedBy (array last : Value) : Act Value := do
  let forged ← copy array
  makeExpression (Expression.followedBy ⟨forged⟩ (← copyOperand last))

/-- What a match has come to, as an object. -/
def ofProgress : MatchProgress → Act Value
  | .finished ending fallback => do followedBy (← matchArray ending.chain) fallback
  | progress => pure progress.toValue

/-- What a value forges to; the record of a layer stays live, all else is a copy. -/
def forge (v : Value) : Act Value :=
  match v with
  | .expression inner | .property inner | .constant inner => copy inner
  | .caseChain conditions => do copy (← caseArray (← caseChainOf conditions))
  | .matchChain subject conditions => do
    copy (← matchArray (← matchChainOf subject conditions))
  | .layer id => pure (.record id)
  | v => throw (.missingMember v.kindName "forge")

end Act

namespace Construction

def arity : Construction → Arity
  | .linear => .exactly 0
  | .operandForm | .optionRecord | .normalizeKey | .asPropertyValue | .expression | .caseChain
  | .letChain | .exponential | .when | .bindVar => .exactly 1
  | .geometryForm | .var => .inOrder 1
  | .matchChain => .exactly 2
  | .matchOn => .exactly 3
  | .layer | .cubicBezier => .exactly 4
  | .ofTag => .atLeast 1

def run (f : Construction) (args : Arguments) : Act Value :=
  match f, args.fixed with
  | .operandForm, [some v] | .geometryForm, [some v] => do return (← Act.copyOperand v).asOperand
  | .ofTag, [some tag] => Act.makeExpression (.ofTag tag args.rest)
  | .optionRecord, [some options] => do
    let entries ← (← Act.entriesOf options).mapM fun entry => do
      return (entry.1, ← Act.copyOperand entry.2)
    return .map (MapStyle.optionRecord entries)
  | .normalizeKey, [some key] => pure (MatchKey.normalize key)
  | .asPropertyValue, [some v] => do return (← Act.copyProperty v).asPropertyValue
  | .linear, [] => pure Style.linear
  | .exponential, [some base] => do return Style.exponential (← Act.copyOperand base)
  | .cubicBezier, [some x₁, some y₁, some x₂, some y₂] => do
    return Style.cubicBezier (← Act.copyOperand x₁) (← Act.copyOperand y₁) (← Act.copyOperand x₂)
      (← Act.copyOperand y₂)
  | .expression, [some v] => Act.makeExpression ⟨v⟩
  | .caseChain, [none] => pure CaseChain.empty.toValue
  | .caseChain, [some conditions] => pure (.caseChain conditions)
  | .matchChain, [some subject, none] => pure (MatchChain.on subject).toValue
  | .matchChain, [some subject, some conditions] => pure (.matchChain subject conditions)
  | .letChain, [some bindings] => pure (.letChain bindings)
  | .when, [some condition] => pure (Style.when condition).toValue
  | .matchOn, [some subject, table, fallback] => do
    let table ← Act.optionalEntries (Arguments.orNull table)
    Act.ofProgress (Style.matchOn subject table fallback)
  | .var, [some argument] => do Act.ofExcept (Style.varOf (← Act.view argument))
  | .bindVar, [some bindings] => do return (Style.bindVar (← Act.mapOf bindings)).toValue
  | .layer, [some kind, some id, some source, sourceLayer] => do
    let sourceLayer := Arguments.orNull sourceLayer
    let isGiven := !(← Act.view sourceLayer).isFalsy
    Act.makeLayer (Layer.create kind id source (if isGiven then sourceLayer else .null))
  | _, _ => throw .mistyped

end Construction

namespace PropertyForm

def arity : PropertyForm → Arity
  | .literal | .expression => .exactly 1
  | .matchOn => .exactly 3
  | .caseOf => .atLeast 0
  | .interpolate | .step => .atLeast 2

/-- The value that a property form makes of its arguments. -/
def run (f : PropertyForm) (args : Arguments) : Act Value :=
  match f, args.fixed with
  | .literal, [some v] => pure v
  | .expression, [some v] => Act.forge v
  | .interpolate, [some interpolation, some input] =>
    Act.copy (Property.interpolate interpolation input args.rest).value
  | .step, [some input, some base] => Act.copy (Property.step input base args.rest).value
  | .matchOn, [some subject, some table, some fallback] => do
    let table ← Act.optionalEntries table
    Act.forge (← Act.ofProgress (Style.matchOn subject table (some fallback)))
  | .caseOf, [] => Act.copy (Property.caseOf args.rest).value
  | _, _ => throw .mistyped

end PropertyForm

end MapStyle.Script
