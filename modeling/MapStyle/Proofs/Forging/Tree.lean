import MapStyle.Script.Eval
import MapStyle.Proofs.Forging.Grammar

/-!
# Trees of calls

A tree of calls is built from plain data by the functions of the style vocabulary and by the steps
of case, match and let chains.  A node is a form with its operands, so what a tree means is said
form by form.

* `CallTree.term` is the script that makes the calls of a tree.
* `CallTree.array` is the plain recursion: for each form its tag and what stands for its operands,
  in the order of the grammar.
* `CallTree.WellFormed` says that every call is one that can be made, and that operands stand where
  operands are looked at.
-/

namespace MapStyle

/-- The array of an operator and its parts. -/
def Operator.leading (op : Operator) (parts : List Value) : Value := .list (.str op.tag :: parts)

namespace Script

/-- Plain data in a tree: it is written there, or an earlier step has left it. -/
inductive Leaf where
  | written (v : Value)
  | held (slot : Nat)

namespace Leaf

def term : Leaf → Term
  | .written v => .constant v
  | .held slot => .slot slot

def value (held : Nat → Value) : Leaf → Value
  | .written v => v
  | .held slot => held slot

/-- Plain data; a double without a value is a new one each time it is written, so that it can only
be held. -/
def isPlain (held : Nat → Value) : Leaf → Bool
  | .written (.float (.nan _)) => false
  | .written v => v.isPlain
  | .held slot => (held slot).isPlain

end Leaf

/-- What a node of a tree gives: plain data, an expression, a record for a section of formatted
text, or a chain without its end. -/
inductive Kind where
  | data | expression | record | chain
deriving DecidableEq

/-- How a match is called: by branches and then a fallback or nothing, without the end, with a map
after the branches, with a map in the first call, and with everything in one call. -/
inductive MatchWay where
  | byBranch | unfinished | withTable | fromTable | atOnce
deriving DecidableEq

/-- One form of the vocabulary with everything in it but the operands.

A function takes its first operands by position and the others under parameters.  A case takes
conditions and results in turn, with a default at the end if their number is odd.  A match takes its
subject, the results of its branches and of its map, and the fallback; a let takes the values and
the body, or, with a callback, the values and those of the further bindings. -/
inductive Form where
  | style (f : StyleFunction) (positional : Nat) (names : List Nat)
  | var (name : String)
  | linear
  | exponential
  | cubicBezier
  | record (keys : List Leaf)
  | cases (finished : Bool)
  | matchOn (way : MatchWay) (keys table : List Leaf)
  | letIn (names : List Leaf)
  | letWith (names further : List Leaf)

namespace Form

/-- What a form gives. -/
def kind : Form → Kind
  | .linear | .exponential | .cubicBezier => .data
  | .record _ => .record
  | .cases false | .matchOn .unfinished .. => .chain
  | _ => .expression

/-- The kinds of operands that a form takes. -/
def takesKind (form : Form) (operand : Kind) : Bool :=
  match form with
  | .style f _ _ =>
    operand == .data || (operand == .expression && !f.takesData) ||
      (operand == .record && f == .format)
  | _ => operand == .data || operand == .expression

/-! ## The script of a form -/

section Script

/-- A map of terms under leaves. -/
def mapTerm (keys : List Leaf) (terms : List Term) : Term := .map ((keys.map Leaf.term).zip terms)

/-- The steps of a case chain: conditions and results in turn, and the end. -/
def caseSteps (finished : Bool) (chain : Term) : List Term → Term
  | condition :: result :: terms =>
    caseSteps finished
      (.method .result "then" (.method .when "when" chain [condition] []) [result] []) terms
  | [value] => .method .otherwise "else_" chain [value] []
  | [] => if finished then .method .build "build" chain [] [] else chain

/-- The branches of a match chain. -/
def matchSteps (chain : Term) : List Leaf → List Term → Term
  | key :: keys, result :: terms =>
    matchSteps (.method .branch "branch" chain [key.term, result] []) keys terms
  | _, _ => chain

/-- The end of a match chain. -/
def matchEnd (chain : Term) : List Term → Term
  | value :: _ => .method .fallback "fallback" chain [value] []
  | [] => .method .build "build" chain [] []

/-- The script of a form with the scripts of its operands. -/
def term (form : Form) (terms : List Term) : Term :=
  match form, terms with
  | .style f positional names, terms =>
    .call (.style f) (terms.take positional)
      ((names.map fun name => ⟨name, name⟩).zip (terms.drop positional))
  | .var name, _ => .call (.construct .var) [.constant (.str name)] []
  | .linear, terms => .call (.construct .linear) terms []
  | .exponential, terms => .call (.construct .exponential) terms []
  | .cubicBezier, terms => .call (.construct .cubicBezier) terms []
  | .record keys, terms => mapTerm keys terms
  | .cases finished, condition :: result :: terms =>
    caseSteps finished
      (.method .result "then" (.call (.construct .when) [condition] []) [result] []) terms
  | .cases finished, terms => caseSteps finished (.call (.construct .caseChain) [] []) terms
  | .matchOn way keys table, subject :: terms =>
    let opened := Term.call (.construct .matchOn) [subject] []
    let results := terms.drop keys.length
    let last := terms.drop (keys.length + table.length)
    match way with
    | .unfinished => matchSteps opened keys terms
    | .byBranch => matchEnd (matchSteps opened keys terms) last
    | .withTable =>
      matchEnd (.method .branches "branches" (matchSteps opened keys terms)
        [mapTerm table results] []) last
    | .fromTable =>
      matchEnd (.call (.construct .matchOn) [subject, mapTerm table results] []) last
    | .atOnce => .call (.construct .matchOn) (subject :: mapTerm table results :: last) []
  | .matchOn .., [] => .call (.construct .matchOn) [] []
  | .letIn names, terms =>
    .method .inside "in_" (.call .letIn [mapTerm names terms] []) (terms.drop names.length) []
  | .letWith names further, terms =>
    .call .letIn [mapTerm names terms, .callback (.call (.construct .bindVar)
      [mapTerm further (terms.drop names.length)] [])] []

end Script

/-! ## The array of a form -/

/-- Keys and values in turn. -/
def inTurn (pairs : List (Value × Value)) : List Value := pairs.flatMap fun pair => [pair.1, pair.2]

/-- The map of values under leaves. -/
def mapUnder (held : Nat → Value) (keys : List Leaf) (vs : List Value) : Entries :=
  Entries.ofWrites ((keys.map (Leaf.value held)).zip vs)

/-- Keys as a match has them, with what is under them. -/
def normalized (pairs : List (Value × Value)) : List (Value × Value) :=
  pairs.map fun pair => (MatchKey.normalize pair.1, pair.2)

/-- The operands of a function in their places. -/
def placed {α : Type} (f : StyleFunction) (positional : Nat) (names : List Nat)
    (operands : List α) : Option (Bound α) :=
  f.arity.bind (operands.take positional) (names.zip (operands.drop positional))

/-- The array of a form from what stands for its operands. -/
def assemble (held : Nat → Value) (form : Form) (parts : List Value) : Value :=
  match form, parts with
  | .style f positional names, parts =>
    match placed f positional names parts with
    | some args => f.row args
    | none => .null
  | .var name, _ => Operator.leading .var [.str name]
  | .linear, _ => .list [.str "linear"]
  | .exponential, parts => .list (.str "exponential" :: parts)
  | .cubicBezier, parts => .list (.str "cubic-bezier" :: parts)
  | .record keys, parts => .map (mapUnder held keys parts)
  | .cases _, parts => Operator.leading .caseOf parts
  | .matchOn _ keys table, subject :: parts =>
    let branches := (keys.map (Leaf.value held)).zip parts
    let tabled := mapUnder held table (parts.drop keys.length)
    Operator.leading .matchOn (subject :: (inTurn (normalized branches)
      ++ inTurn (normalized tabled) ++ parts.drop (keys.length + table.length)))
  | .matchOn .., [] => .null
  | .letIn names, parts =>
    Operator.leading .letIn (inTurn (mapUnder held names parts) ++ parts.drop names.length)
  | .letWith names further, parts =>
    let first := mapUnder held names parts
    let others := mapUnder held further (parts.drop names.length)
    let last := ((if others.isEmpty then first else others).map Prod.fst).getLast?
    Operator.leading .letIn (inTurn first ++ inTurn others
      ++ [Operator.leading .var [last.getD .null]])

/-! ## Calls that can be made -/

/-- Plain keys of a map. -/
def ArePlainKeys (held : Nat → Value) (keys : List Leaf) : Prop :=
  ∀ key ∈ keys, key.isPlain held = true ∧ (key.value held).isKey = true

/-- A form can be called with so many operands. -/
def Fits (held : Nat → Value) (form : Form) (count : Nat) : Prop :=
  match form with
  | .style f positional names =>
    count = positional + names.length ∧
      ∃ args, placed f positional names (List.range count) = some args ∧ f.Accepts args
  | .var _ | .linear => count = 0
  | .exponential => count = 1
  | .cubicBezier => count = 4
  | .record keys => count = keys.length ∧ ArePlainKeys held keys
  | .cases finished => finished = true ∨ count % 2 = 0
  | .matchOn way keys table =>
    (∀ key ∈ keys, key.isPlain held = true) ∧ ArePlainKeys held table ∧
      match way with
      | .byBranch => table = [] ∧ (count = 1 + keys.length ∨ count = 2 + keys.length)
      | .unfinished => table = [] ∧ count = 1 + keys.length
      | .withTable => count = 2 + keys.length + table.length
      | .fromTable | .atOnce => keys = [] ∧ count = 2 + table.length
  | .letIn names => count = names.length + 1 ∧ ArePlainKeys held names
  | .letWith names further =>
    count = names.length + further.length ∧ ArePlainKeys held (names ++ further)

end Form

/-! ## Trees -/

/-- A tree of calls.  `forged` marks a node that is forged where it stands, so that its bare array
is used. -/
inductive CallTree where
  | leaf (leaf : Leaf)
  | node (form : Form) (operands : List CallTree)
  | forged (tree : CallTree)

namespace CallTree

/-- What a tree gives. -/
def kind : CallTree → Kind
  | .leaf _ | .forged _ => .data
  | .node form _ => form.kind

/-- A tree that has a `forge`. -/
def isForgeable (tree : CallTree) : Bool := tree.kind == .expression || tree.kind == .chain

/-- A term forged. -/
def forgeTerm (term : Term) : Term := .method .forge "forge" term [] []

mutual

/-- The script that makes the calls of a tree. -/
def term : CallTree → Term
  | .leaf l => l.term
  | .node form operands => form.term (terms operands)
  | .forged tree => forgeTerm (term tree)

/-- The scripts of some trees. -/
def terms : List CallTree → List Term
  | [] => []
  | tree :: trees => term tree :: terms trees

end

mutual

/-- The array of a tree: data as it is, and of a node its tag and what stands for its operands. -/
def array (held : Nat → Value) : CallTree → Value
  | .leaf l => l.value held
  | .node form operands => form.assemble held (arrays held operands)
  | .forged tree => array held tree

/-- The arrays of some trees. -/
def arrays (held : Nat → Value) : List CallTree → List Value
  | [] => []
  | tree :: trees => array held tree :: arrays held trees

end

mutual

/-- The tree in which nothing is forged where it stands. -/
def bare : CallTree → CallTree
  | .leaf l => .leaf l
  | .node form operands => .node form (bares operands)
  | .forged tree => bare tree

/-- Some trees in which nothing is forged where it stands. -/
def bares : List CallTree → List CallTree
  | [] => []
  | tree :: trees => bare tree :: bares trees

end

/-- A tree of calls that can be made: leaves are plain data, each form has the operands that it
takes, and what is forged where it stands can be. -/
inductive WellFormed (held : Nat → Value) : CallTree → Prop
  | leaf {l : Leaf} (plain : l.isPlain held = true) : WellFormed held (.leaf l)
  | node {form : Form} {operands : List CallTree} (fits : form.Fits held operands.length)
      (taken : ∀ tree ∈ operands, form.takesKind tree.kind = true)
      (each : ∀ tree ∈ operands, WellFormed held tree) : WellFormed held (.node form operands)
  | forged {tree : CallTree} (forgeable : tree.isForgeable = true) (inner : WellFormed held tree) :
      WellFormed held (.forged tree)

theorem terms_eq (trees : List CallTree) : terms trees = trees.map term := by
  induction trees with
  | nil => rfl
  | cons tree trees ih => rw [terms, ih, List.map_cons]

end CallTree

end Script

end MapStyle
