import MapStyle.Script.Method
import MapStyle.Script.StyleFunction
import MapStyle.Script.ToolFunction
import MapStyle.Value.Equality

/-!
# Terms

A script is made of terms: data with calls in it.  Arguments are evaluated from left to right, those
under names last, the receiver of a method before them; the first fault ends the evaluation.  A
method that its receiver lacks is a fault before the arguments are evaluated.

A callback is evaluated each time it is called, in the scope that it is called with.
-/

namespace MapStyle.Script

/-- A function that a script can call. -/
inductive Function where
  | style (f : StyleFunction)
  | letIn
  | construct (f : Construction)
  | property (f : PropertyForm)
  | constant (f : PropertyForm)
  | tool (f : ToolFunction)
deriving DecidableEq, Repr, Inhabited

/-- The parameter that a name stands for.  The same word can ask an expression and another object
for different things, with other names for their parameters. -/
structure Parameter where
  ofExpression : Nat
  ofOther : Nat
deriving DecidableEq, Repr, Inhabited

/-- The parameter that is meant, by the receiver if the call has one. -/
def Parameter.under (receiver : Option Value) (parameter : Parameter) : Nat :=
  match receiver with
  | some (.expression _) => parameter.ofExpression
  | _ => parameter.ofOther

/-- A term of a script.  A method carries the word that it was asked by; `scoped` is the binding
of a name in the scope of a callback, `scope` the whole scope. -/
inductive Term where
  | constant (value : Value)
  | list (items : List Term)
  | map (entries : List (Term × Term))
  | call (function : Function) (args : List Term) (named : List (Parameter × Term))
  | method (method : Method) (word : String) (receiver : Term) (args : List Term)
      (named : List (Parameter × Term))
  | slot (index : Nat)
  | equal (left right : Term)
  | callback (body : Term)
  | scoped (name : String)
  | scope
deriving Inhabited

/-- An argument: a value, or a callback waiting for its scope. -/
inductive Argument where
  | value (v : Value)
  | callback (run : Entries → Act Value)

namespace Argument

def toValue : Argument → Act Value
  | .value v => pure v
  | .callback _ => throw .mistyped

end Argument

def Bound.values (bound : Bound Argument) : Act Arguments := do
  let fixed ← bound.fixed.mapM fun
    | none => pure none
    | some argument => do return some (← argument.toValue)
  let rest ← bound.rest.mapM Argument.toValue
  return ⟨fixed, rest⟩

/-- Put arguments under their parameters. -/
def bindArguments (arity : Arity) (receiver : Option Value) (args : List Argument)
    (named : List (Parameter × Argument)) : Act (Bound Argument) :=
  match arity.bind args (named.map fun argument => (argument.1.under receiver, argument.2)) with
  | some bound => pure bound
  | none => throw .mistyped

/-- The functional form of a let chain.  The callback sees the bindings as they are when it is
called; the expression is forged from the bindings as they are after it. -/
def forgeWith (bindings : Value) (argument : Argument) : Act Value := do
  let scope ← Act.mapOf bindings
  match argument with
  | .callback run => do
    let further ← Act.ofExcept (VarBindings.ofAnswer (← run scope))
    Act.makeExpression (LetChain.extend ⟨← Act.entriesOf bindings⟩ further)
  | .value _ => throw .mistyped

/-- Start a let chain, or finish it at once with a callback. -/
def runLet (bound : Bound Argument) : Act Value :=
  match bound.fixed with
  | [some bindings, none] | [some bindings, some (.value .null)] => do
    return .letChain (← bindings.toValue)
  | [some bindings, some callback] => do forgeWith (← bindings.toValue) callback
  | _ => throw .mistyped

namespace Function

def arity : Function → Arity
  | .style f => f.arity
  | .letIn => .exactly 2
  | .construct f => f.arity
  | .property f | .constant f => f.arity
  | .tool f => f.arity

def run (f : Function) (bound : Bound Argument) : Act Value :=
  match f with
  | .letIn => runLet bound
  | .style f => do
    let args ← (← bound.values).mapM Act.view
    Act.makeExpression (← Act.ofExcept (f.run args))
  | .construct f => do f.run (← bound.values)
  | .property f => do return .property (← f.run (← bound.values))
  | .constant f => do return .constant (← f.run (← bound.values))
  | .tool f => do f.run (← bound.values)

end Function

/-- What an object answers to a method. -/
def runMethod (method : Method) (receiver : Value) (bound : Bound Argument) : Act Value :=
  match receiver, method, bound.fixed with
  | .letChain bindings, .forgeWith, [some argument] => forgeWith bindings argument
  | _, _, _ => do method.run receiver (← bound.values)

/-- The binding of a name in a scope. -/
def scopedValue (scope : Entries) (name : String) : Act Value :=
  match Entries.lookupName scope name with
  | some v => pure v
  | none => throw (.missingKey name)

/-- A word that stands for a field of an object, which can be named but not called. -/
def isField (receiver : Value) (word : String) : Bool :=
  match receiver with
  | .layer _ => word == "layer"
  | other => other.fields.any fun field => field.1 == word

mutual

/-- The value of a term in a scope. -/
def eval (scope : Entries) : Term → Act Value
  | .constant v => Act.written v
  | .list items => do return .list (← evalItems scope items)
  | .map entries => do return .map (Entries.ofWrites (← evalEntries scope entries))
  | .call f args named => do
    let args ← evalArguments scope args
    let named ← evalNamed scope named
    f.run (← bindArguments f.arity none args named)
  | .method method word receiver args named => do
    let receiver ← eval scope receiver
    match method.arity? receiver, isField receiver word with
    | none, false => throw (.missingMember receiver.kindName word)
    | none, true => do
      let _ ← evalArguments scope args
      let _ ← evalNamed scope named
      throw .mistyped
    | some arity, _ => do
      let args ← evalArguments scope args
      let named ← evalNamed scope named
      runMethod method receiver (← bindArguments arity (some receiver) args named)
  | .slot index => do return (← get).slot index
  | .equal left right => do
    let a ← eval scope left
    let b ← eval scope right
    return .bool ((← Act.resolve a).equals (← Act.resolve b))
  | .callback _ => throw .mistyped
  | .scoped name => scopedValue scope name
  | .scope => pure (.scope scope)

/-- The values of a list of terms. -/
def evalItems (scope : Entries) : List Term → Act (List Value)
  | [] => pure []
  | item :: items => do
    let v ← eval scope item
    let vs ← evalItems scope items
    return v :: vs

/-- The values of keys and entries, each key before its entry; what can change is no key. -/
def evalEntries (scope : Entries) : List (Term × Term) → Act (List (Value × Value))
  | [] => pure []
  | (key, entry) :: entries => do
    let k ← eval scope key
    let v ← eval scope entry
    if k.isKey then do
      let rest ← evalEntries scope entries
      return (k, v) :: rest
    else throw .mistyped

/-- The arguments of a call; a callback waits for its scope. -/
def evalArguments (scope : Entries) : List Term → Act (List Argument)
  | [] => pure []
  | .callback body :: args => do
    let rest ← evalArguments scope args
    return .callback (fun inner => eval inner body) :: rest
  | arg :: args => do
    let v ← eval scope arg
    let rest ← evalArguments scope args
    return .value v :: rest

/-- The arguments of a call that are given under parameters. -/
def evalNamed (scope : Entries) :
    List (Parameter × Term) → Act (List (Parameter × Argument))
  | [] => pure []
  | (parameter, .callback body) :: named => do
    let rest ← evalNamed scope named
    return (parameter, .callback (fun inner => eval inner body)) :: rest
  | (parameter, arg) :: named => do
    let v ← eval scope arg
    let rest ← evalNamed scope named
    return (parameter, .value v) :: rest

end

end MapStyle.Script
