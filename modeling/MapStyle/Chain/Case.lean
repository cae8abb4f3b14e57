import MapStyle.Expression.Basic

/-!
# Case chains

A `case` expression is built step by step: a condition, its result, and so on, and a default at the
end.  Each step gives a new chain, so a chain can be extended in two ways.
-/

namespace MapStyle

/-- Conditions with their results, in order. -/
structure CaseChain where
  conditions : List (Value × Value)
deriving Inhabited, Repr

/-- A case chain with a condition that waits for its result. -/
structure PendingCase where
  chain : CaseChain
  condition : Value
deriving Inhabited, Repr

/-- The operands that a list of pairs contributes, first and second in turn. -/
def pairOperands (pairs : List (Value × Value)) : List Value :=
  pairs.flatMap fun pair => [pair.1.asOperand, pair.2.asOperand]

namespace CaseChain

def empty : CaseChain := ⟨[]⟩

/-- Start another condition. -/
def when (chain : CaseChain) (condition : Value) : PendingCase := ⟨chain, condition⟩

/-- The `case` expression without a default. -/
def build (chain : CaseChain) : Expression :=
  .ofParts .caseOf (pairOperands chain.conditions)

/-- The `case` expression with a default at its end. -/
def otherwise (chain : CaseChain) (value : Value) : Expression := chain.build.followedBy value

def toValue (chain : CaseChain) : Value := .caseChain (.pairs chain.conditions)

end CaseChain

namespace PendingCase

/-- Attach the result of the waiting condition. -/
def result (pending : PendingCase) (value : Value) : CaseChain :=
  ⟨pending.chain.conditions ++ [(pending.condition, value)]⟩

def toValue (pending : PendingCase) : Value :=
  .pendingCase (.pairs pending.chain.conditions) pending.condition

end PendingCase

def Style.when (condition : Value) : PendingCase := CaseChain.empty.when condition

end MapStyle
