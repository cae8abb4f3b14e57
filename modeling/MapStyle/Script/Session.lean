import MapStyle.Files.Tree
import MapStyle.Layer.Store
import MapStyle.Report.Log

/-!
# Sessions

A script runs in a session: the files it sees, the layers it has made, the results of its steps,
the first mark that is still free, and what has been printed and said in the present step.  An act
of a script changes the session even if it fails.

Values are kept as they are, live records included.  Whoever looks into a value takes it as it is
then: `Act.view` looks at the value alone, `Act.resolve` at everything in it, and `Act.unroll` at
what stands in it to a depth.
-/

namespace MapStyle.Script

/-- The state of a running script. -/
structure Session where
  files : FileSystem
  layers : LayerStore
  slots : List Value
  nextMark : Nat
  printed : List Char
  log : List LogEntry

/-- Something that a script does in its session. -/
abbrev Act := ExceptT Fault (StateM Session)

namespace Session

/-- The first mark; the payload of a double that was read from a text is below it. -/
def firstMark : Nat := 1

/-- A session on some files in which nothing has happened. -/
def start (files : FileSystem) : Session := ⟨files, [], [], firstMark, [], []⟩

/-- The result of a step, null if it has none. -/
def slot (session : Session) (index : Nat) : Value := session.slots[index]?.getD .null

end Session

namespace Act

def ofExcept {α : Type} : Except Fault α → Act α
  | .ok a => pure a
  | .error fault => throw fault

/-- The answer of something that says what it does. -/
def ofLogged {α : Type} (logged : Logged (Except Fault α)) : Act α := do
  modify fun session => { session with log := session.log ++ logged.log }
  ofExcept logged.result

def print (text : List Char) : Act Unit :=
  modify fun session => { session with printed := session.printed ++ text }

def say (entries : List LogEntry) : Act Unit :=
  modify fun session => { session with log := session.log ++ entries }

/-- A mark that nothing carries yet. -/
def fresh : Act Nat := do
  let session ← get
  set { session with nextMark := session.nextMark + 1 }
  return session.nextMark

/-- A constant as it is written: a double that denotes nothing is a new one every time. -/
def written (v : Value) : Act Value :=
  match v with
  | .float (.nan _) => do return .float (.nan (← fresh))
  | v => pure v

/-- A value with the present record in the place of a live one. -/
def view (v : Value) : Act Value := do return (← get).layers.view v

/-- A value with the present records in the place of the live ones in it. -/
def resolve (v : Value) : Act Value := do return (← get).layers.resolve v

/-- A value with the present records in the place of the live ones in it, so many records deep. -/
def unroll (depth : Nat) (v : Value) : Act Value := do return (← get).layers.unroll depth v

/-- A copy of a value. -/
def copy (v : Value) : Act Value := do
  let session ← get
  let copied ← ofExcept (session.layers.copy session.nextMark v)
  set { session with layers := copied.store, nextMark := copied.nextMark }
  return copied.value

/-- An expression as an object: what it holds is a copy. -/
def makeExpression (e : Expression) : Act Value := do return .expression (← copy e.forged)

/-- A value that is to be an operand: of an expression a copy is used. -/
def copyOperand (v : Value) : Act Value :=
  match v with
  | .expression forged => do return .expression (← copy forged)
  | v => pure v

/-- A value that a layer is to store: of an expression or a property value a copy is used. -/
def copyProperty (v : Value) : Act Value :=
  match v with
  | .expression forged => do return .expression (← copy forged)
  | .property inner => do return .property (← copy inner)
  | .constant inner => do return .constant (← copy inner)
  | v => pure v

def makeLayer (layer : Layer) : Act Value := do
  let session ← get
  set { session with layers := session.layers ++ [layer] }
  return .layer session.layers.length

def changeLayer (id : LayerId) (change : Layer → Layer) : Act Unit :=
  modify fun session => { session with layers := session.layers.modify id change }

/-! ## Looking into values -/

/-- A map, in the order of its entries; anything else lacks the member that is asked of it. -/
def entriesWith (member : String) (v : Value) : Act Entries := do
  match (← view v).entries? with
  | some entries => return entries
  | none => throw (.missingMember v.kindName member)

def entriesOf (v : Value) : Act Entries := entriesWith "items" v

def optionalEntries (v : Value) : Act (Option Entries) :=
  match v with
  | .null => pure none
  | v => do return some (← entriesOf v)

/-- What one gets by going through a value. -/
def itemsOf (v : Value) : Act (List Value) := do
  match (← view v).iterated? with
  | some items => return items
  | none => throw .mistyped

/-- Two values in one, as items that one gets by going through it. -/
def pairOf (v : Value) : Act (Value × Value) := do
  match ← itemsOf v with
  | [a, b] => return (a, b)
  | _ => throw .badPair

/-- Pairs of values, each as a value of its own. -/
def pairsOf (v : Value) : Act (List (Value × Value)) := do (← itemsOf v).mapM pairOf

/-- A map of its own with the entries of a map, or with pairs of a key and its entry. -/
def mapOf (v : Value) : Act Entries := do
  match (← view v).entries? with
  | some entries => return entries
  | none => do
    let writes ← (← itemsOf v).mapM fun item => do
      let (key, entry) ← pairOf item
      if key.isKey then return (key, entry) else throw .mistyped
    return Entries.ofWrites writes

end Act

end MapStyle.Script
