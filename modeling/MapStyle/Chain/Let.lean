import MapStyle.Expression.Style
import MapStyle.Fault

/-!
# Let chains

A `let` expression binds names to values around a body.  The body is given as it is, or, in the
functional form, a callback sees the bindings and answers further ones; the body is then a
reference to the binding written last.
-/

namespace MapStyle

/-- Bindings that wait for a body. -/
structure LetChain where
  bindings : Entries
deriving Inhabited, Repr

/-- Further bindings, as a callback answers them. -/
structure VarBindings where
  bindings : Entries
deriving Inhabited, Repr

/-- The parts that bindings contribute: each name as it is, each value as an operand. -/
def bindingParts (bindings : Entries) : List Value :=
  bindings.flatMap fun binding => [binding.1, binding.2.asOperand]

namespace VarBindings

def toValue (b : VarBindings) : Value := .varBindings b.bindings

/-- The further bindings that a callback has answered; any other answer is a fault. -/
def ofAnswer : Value → Except Fault VarBindings
  | .varBindings further => .ok ⟨further⟩
  | other => .error (.notBindings other.kindName)

end VarBindings

namespace LetChain

def body (chain : LetChain) (value : Value) : Expression :=
  .ofParts .letIn (bindingParts chain.bindings ++ [value.asOperand])

/-- The name that the functional form refers to: the last further one, else the last one; null if
there is none. -/
def resultName (chain : LetChain) (further : VarBindings) : Value :=
  let names := if further.bindings.isEmpty then chain.bindings else further.bindings
  ((names.map Prod.fst).getLast?).getD .null

/-- Finish the functional form: add further bindings, and refer to the last one in the body. -/
def extend (chain : LetChain) (further : VarBindings) : Expression :=
  .ofParts .letIn (bindingParts chain.bindings ++ bindingParts further.bindings
    ++ [(Style.var (chain.resultName further)).forged])

end LetChain

namespace Style

def letIn (bindings : Entries) : LetChain := ⟨bindings⟩

/-- Wrap further bindings for the callback of a functional `let`. -/
def bindVar (bindings : Entries) : VarBindings := ⟨bindings⟩

/-- A text names a variable, a map is a set of further bindings, and nothing else will do. -/
def varOf (argument : Value) : Except Fault Value :=
  match argument with
  | .str name => .ok (var (.str name)).toValue
  | _ =>
    match argument.entries? with
    | some entries => .ok (bindVar entries).toValue
    | none => .error (.notVariable argument.kindName)

end Style

end MapStyle
