import MapStyle.Expression.Basic
import MapStyle.Fault

/-!
# Arguments of a call

A call gives arguments by position and under single parameters.  `Arity.bind` puts each under the
parameter it is meant for; arguments beyond the parameters are allowed only where a rest is taken.
-/

namespace MapStyle.Script

/-- How many parameters a function has, how many of them at its start take no argument but in their
position, and whether it takes further arguments. -/
structure Arity where
  parameters : Nat
  positional : Nat
  takesRest : Bool
deriving DecidableEq, Repr, Inhabited

namespace Arity

def exactly (n : Nat) : Arity := ⟨n, 0, false⟩

/-- So many parameters and any number of further arguments. -/
def atLeast (n : Nat) : Arity := ⟨n, 0, true⟩

/-- Exactly so many parameters, all by position. -/
def inOrder (n : Nat) : Arity := ⟨n, n, false⟩

end Arity

/-- Arguments put under their parameters, and the further ones. -/
structure Bound (α : Type) where
  fixed : List (Option α)
  rest : List α
deriving Repr, Inhabited

def namedArgument {α : Type} (named : List (Nat × α)) (parameter : Nat) : Option α :=
  (named.find? fun argument => argument.1 == parameter).map Prod.snd

/-- The argument of one parameter: the one in its position, else the one given under it. -/
def argumentAt {α : Type} (positional : List α) (named : List (Nat × α)) (parameter : Nat) :
    Option α :=
  match positional[parameter]? with
  | some argument => some argument
  | none => namedArgument named parameter

/-- Put the arguments of a call under parameters; no answer if an argument has no place or two have
the same. -/
def Arity.bind {α : Type} (arity : Arity) (positional : List α) (named : List (Nat × α)) :
    Option (Bound α) :=
  if named.all (fun argument =>
      max arity.positional positional.length ≤ argument.1 && argument.1 < arity.parameters) &&
    (arity.takesRest || positional.length ≤ arity.parameters)
  then some ⟨(List.range arity.parameters).map (argumentAt positional named),
    positional.drop arity.parameters⟩
  else none

/-- Values put under their parameters. -/
abbrev Arguments := Bound Value

namespace Arguments

/-- A form without operands. -/
def leaf (e : Expression) (args : Arguments) : Except Fault Expression :=
  match args.fixed with
  | [] => .ok e
  | _ => .error .mistyped

def unary (f : Value → Expression) (args : Arguments) : Except Fault Expression :=
  match args.fixed with
  | [some a] => .ok (f a)
  | _ => .error .mistyped

/-- A form of two operands. -/
def binary (f : Value → Value → Expression) (args : Arguments) : Except Fault Expression :=
  match args.fixed with
  | [some a, some b] => .ok (f a b)
  | _ => .error .mistyped

/-- A form of any number of operands. -/
def many (f : List Value → Expression) (args : Arguments) : Except Fault Expression :=
  match args.fixed with
  | [] => .ok (f args.rest)
  | _ => .error .mistyped

/-- A form of one operand and any number of further ones. -/
def oneAndMany (f : Value → List Value → Expression) (args : Arguments) :
    Except Fault Expression :=
  match args.fixed with
  | [some a] => .ok (f a args.rest)
  | _ => .error .mistyped

/-- A form of two operands and any number of further ones. -/
def twoAndMany (f : Value → Value → List Value → Expression) (args : Arguments) :
    Except Fault Expression :=
  match args.fixed with
  | [some a, some b] => .ok (f a b args.rest)
  | _ => .error .mistyped

/-- An argument that may be left out; it then counts as null. -/
def orNull (argument : Option Value) : Value := argument.getD .null

/-- The arguments after a change to each of them. -/
def mapM {m : Type → Type} [Monad m] (f : Value → m Value) (args : Arguments) : m Arguments := do
  let fixed ← args.fixed.mapM fun
    | none => pure none
    | some argument => do return some (← f argument)
  let rest ← args.rest.mapM f
  return ⟨fixed, rest⟩

end Arguments

def textOf (value : Value) : Except Fault String :=
  match value with
  | .str s => .ok s
  | _ => .error .mistyped

def textList (texts : List String) : Value := .list (texts.map .str)

end MapStyle.Script
