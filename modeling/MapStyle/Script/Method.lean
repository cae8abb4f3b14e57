import MapStyle.Script.Construction
import MapStyle.Script.ExpressionMethod

/-!
# Methods

What a script can ask of an object.  The same word can mean different things to different kinds of
objects: `inside` is containment to an expression and the body to a let chain.  A property value
answers to the words by which property values are made, and gives a new one, whatever it is
itself.
-/

namespace MapStyle.Script

/-- A setter of a layer. -/
inductive LayerSetter where
  | paint | layout | visibility | textField | textSize
  | fillColor | fillOpacity | fillOutlineColor | lineColor | lineWidth | circleColor | circleRadius
  | metadata | minZoom | maxZoom | filter
deriving DecidableEq, Repr, Inhabited

/-- What a script can ask of an object. -/
inductive Method where
  | expression (method : ExpressionMethod)
  | matchOn
  | setter (setter : LayerSetter)
  | form (form : PropertyForm)
  | dataFunction
  | forge
  | build
  | when
  | result
  | otherwise
  | branch
  | branches
  | fallback
  | inside
  | forgeWith
  | unknown
deriving DecidableEq, Repr, Inhabited

namespace LayerSetter

def arity : LayerSetter → Arity
  | .paint | .layout => .exactly 2
  | _ => .exactly 1

def run (setter : LayerSetter) (args : Arguments) : Except Fault Layer.Write :=
  match setter, args.fixed with
  | .paint, [some key, some value] => .ok (.paint key value)
  | .layout, [some key, some value] => .ok (.layout key value)
  | .visibility, [some value] => .ok (.visibility value)
  | .textField, [some value] => .ok (.textField value)
  | .textSize, [some value] => .ok (.textSize value)
  | .fillColor, [some value] => .ok (.fillColor value)
  | .fillOpacity, [some value] => .ok (.fillOpacity value)
  | .fillOutlineColor, [some value] => .ok (.fillOutlineColor value)
  | .lineColor, [some value] => .ok (.lineColor value)
  | .lineWidth, [some value] => .ok (.lineWidth value)
  | .circleColor, [some value] => .ok (.circleColor value)
  | .circleRadius, [some value] => .ok (.circleRadius value)
  | .metadata, [some value] => .ok (.metadata value)
  | .minZoom, [some value] => .ok (.minZoom value)
  | .maxZoom, [some value] => .ok (.maxZoom value)
  | .filter, [some value] => .ok (.filter value)
  | _, _ => .error .mistyped

/-- Write into a section of a layer.  A section that is the live record of another layer changes
that one; a section that is not there is made, even if the key turns out to be none. -/
def writeInSection (id : LayerId) (name : String) (key value : Value) : Act Unit := do
  match Entries.lookupName ((← get).layers.recordOf id) name, key.isKey with
  | some (.record other), true => Act.changeLayer other fun layer =>
    ⟨Entries.put layer.record key value.asPropertyValue⟩
  | some (.record _), false => throw .mistyped
  | _, true => Act.changeLayer id (·.setIn name key value)
  | _, false => do
    Act.changeLayer id (·.withSection name)
    throw .mistyped

def perform (id : LayerId) : Layer.Write → Act Unit
  | .inSection name key value => do writeInSection id name key (← Act.copyProperty value)
  | .atTop name value => Act.changeLayer id (·.write (.atTop name value))
  | .filter condition => do
    let condition ← Act.copyProperty condition
    Act.changeLayer id (·.write (.filter condition))

end LayerSetter

namespace Method

/-- The form of property value that a word asks of one. -/
def propertyForm? : Method → Option PropertyForm
  | .form f => some f
  | .dataFunction => some .literal
  | .expression .interpolate => some .interpolate
  | .expression .step => some .step
  | .matchOn => some .matchOn
  | _ => none

/-- The form of property value that a word asks of one that does not depend on data. -/
def constantForm? : Method → Option PropertyForm
  | .form .literal => some .literal
  | .form .expression => some .expression
  | _ => none

/-- The arity of a method on an object, if the object has the method. -/
def arity? (method : Method) (receiver : Value) : Option Arity :=
  match receiver, method with
  | .expression _, .expression m => some m.arity
  | .expression _, .inside => some ExpressionMethod.isIn.arity
  | .expression _, .matchOn => some (.exactly 1)
  | .expression _, .forge => some (.exactly 0)
  | .caseChain _, .when | .caseChain _, .otherwise => some (.exactly 1)
  | .caseChain _, .build | .caseChain _, .forge => some (.exactly 0)
  | .pendingCase .., .result => some (.exactly 1)
  | .matchChain .., .branch => some (.exactly 2)
  | .matchChain .., .branches | .matchChain .., .fallback => some (.exactly 1)
  | .matchChain .., .build | .matchChain .., .forge => some (.exactly 0)
  | .matchEnding .., .fallback => some (.exactly 1)
  | .letChain _, .inside | .letChain _, .forgeWith => some (.exactly 1)
  | .property _, .forge | .constant _, .forge | .layer _, .forge => some (.exactly 0)
  | .layer _, .setter s => some s.arity
  | .property _, m => m.propertyForm?.map PropertyForm.arity
  | .constant _, m => m.constantForm?.map PropertyForm.arity
  | _, _ => none

def withPair (conditions first second : Value) : Act Value := do
  return .tuple ((← Act.itemsOf conditions) ++ [.pair first second])

def runExpression (method : Method) (self : Expression) (args : Arguments) : Act Value :=
  match method, args.fixed with
  | .expression m, _ => do
    Act.makeExpression (← Act.ofExcept (m.run self (← args.mapM Act.view)))
  | .inside, _ => do
    Act.makeExpression (← Act.ofExcept (ExpressionMethod.isIn.run self (← args.mapM Act.view)))
  | .matchOn, [table] => do
    let table ← Act.optionalEntries (Arguments.orNull table)
    Act.ofProgress (self.matchOn table)
  | _, _ => throw .mistyped

def runCase (method : Method) (conditions : Value) (args : Arguments) : Act Value :=
  match method, args.fixed with
  | .when, [some condition] => pure (.pendingCase conditions condition)
  | .otherwise, [some value] => do
    Act.followedBy (← Act.caseArray (← Act.caseChainOf conditions)) value
  | .build, [] => do return .expression (← Act.caseArray (← Act.caseChainOf conditions))
  | _, _ => throw .mistyped

def runMatch (method : Method) (subject conditions : Value) (args : Arguments) : Act Value :=
  match method, args.fixed with
  | .branch, [some key, some value] => do
    return .matchChain subject (← withPair conditions (MatchKey.normalize key) value)
  | .branches, [some table] => do
    let added := (← Act.entriesOf table).map fun entry =>
      Value.pair (MatchKey.normalize entry.1) entry.2
    return .matchEnding subject (.tuple ((← Act.itemsOf conditions) ++ added))
  | .fallback, [some value] => do
    Act.followedBy (← Act.matchArray (← Act.matchChainOf subject conditions)) value
  | .build, [] => do
    return .expression (← Act.matchArray (← Act.matchChainOf subject conditions))
  | _, _ => throw .mistyped

/-- What an object answers to a method; callbacks are not among the arguments. -/
def run (method : Method) (receiver : Value) (args : Arguments) : Act Value :=
  match receiver, method, args.fixed with
  | receiver, .forge, [] => Act.forge receiver
  | .expression forged, method, _ => method.runExpression ⟨forged⟩ args
  | .caseChain conditions, method, _ => method.runCase conditions args
  | .pendingCase conditions condition, .result, [some value] => do
    return .caseChain (← withPair conditions condition value)
  | .matchChain subject conditions, method, _ => method.runMatch subject conditions args
  | .matchEnding subject conditions, .fallback, [some value] => do
    Act.followedBy (← Act.matchArray (← Act.matchChainOf subject conditions)) value
  | .letChain bindings, .inside, [some value] => do
    Act.makeExpression (LetChain.body ⟨← Act.entriesOf bindings⟩ value)
  | .layer id, .setter field, _ => do
    LayerSetter.perform id (← Act.ofExcept (field.run args))
    return .layer id
  | .property _, method, _ =>
    match method.propertyForm? with
    | some shape => do return .property (← shape.run args)
    | none => throw .mistyped
  | .constant _, method, _ =>
    match method.constantForm? with
    | some shape => do return .constant (← shape.run args)
    | none => throw .mistyped
  | _, _, _ => throw .mistyped

end Method

end MapStyle.Script
