import MapStyle.Chain.Case
import MapStyle.Chain.MatchKey

/-!
# Match chains

A `match` expression is built from a subject, branches by key, and a fallback.  Branches are given
one by one or as a whole map; after a map only the fallback can follow.
-/

namespace MapStyle

/-- A subject with branches, keyed by normalized keys, in order. -/
structure MatchChain where
  subject : Value
  branches : List (Value × Value)
deriving Inhabited, Repr

/-- A match chain that takes only a fallback. -/
structure MatchEnding where
  chain : MatchChain
deriving Inhabited, Repr

/-- What a match has come to: a chain that takes branches, one that takes only a fallback, or one
that has its fallback. -/
inductive MatchProgress where
  | unfinished (chain : MatchChain)
  | closing (ending : MatchEnding)
  | finished (ending : MatchEnding) (fallback : Value)
deriving Inhabited, Repr

/-- The parts that a list of branches contributes: each key as it is, each result as an operand. -/
def branchParts (branches : List (Value × Value)) : List Value :=
  branches.flatMap fun branch => [branch.1, branch.2.asOperand]

namespace MatchChain

/-- A match on a subject, without branches. -/
def on (subject : Value) : MatchChain := ⟨subject, []⟩

def branch (chain : MatchChain) (key value : Value) : MatchChain :=
  ⟨chain.subject, chain.branches ++ [(MatchKey.normalize key, value)]⟩

/-- Add all branches of a map, in its order. -/
def branchesOf (chain : MatchChain) (table : Entries) : MatchEnding :=
  ⟨⟨chain.subject, chain.branches ++ table.map fun entry => (MatchKey.normalize entry.1, entry.2)⟩⟩

/-- The `match` expression without a fallback. -/
def build (chain : MatchChain) : Expression :=
  .ofParts .matchOn (chain.subject.asOperand :: branchParts chain.branches)

/-- The `match` expression with a fallback at its end. -/
def fallback (chain : MatchChain) (value : Value) : Expression := chain.build.followedBy value

def toValue (chain : MatchChain) : Value := .matchChain chain.subject (.pairs chain.branches)

end MatchChain

namespace MatchEnding

/-- The `match` expression with a fallback at its end. -/
def fallback (ending : MatchEnding) (value : Value) : Expression := ending.chain.fallback value

/-- A match that takes only a fallback, as a value. -/
def toValue (ending : MatchEnding) : Value :=
  .matchEnding ending.chain.subject (.pairs ending.chain.branches)

end MatchEnding

def MatchProgress.toValue : MatchProgress → Value
  | .unfinished chain => chain.toValue
  | .closing ending => ending.toValue
  | .finished ending fallback => (ending.fallback fallback).toValue

/-- Match a subject.  Without a table the chain stays open, whatever the fallback; with a table it
is finished if a fallback is given. -/
def Style.matchOn (subject : Value) (table : Option Entries) (fallback : Option Value) :
    MatchProgress :=
  match table with
  | none => .unfinished (.on subject)
  | some entries =>
    let ending := (MatchChain.on subject).branchesOf entries
    match fallback with
    | none => .closing ending
    | some value => .finished ending value

namespace Expression

/-- Match this expression; with a table only the fallback can follow. -/
def matchOn (self : Expression) (table : Option Entries) : MatchProgress :=
  match table with
  | none => .unfinished (.on self.toValue)
  | some entries => .closing ((MatchChain.on self.toValue).branchesOf entries)

end Expression

end MapStyle
