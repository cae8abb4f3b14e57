import MapStyle.Script.Edit
import MapStyle.Script.Eval

/-!
# Programs

A program is a list of steps.  Each step fills one slot: with its result, or with null if it fails
or changes another slot.  A failed step does not stop the program.  A step that changes a slot looks
first for the part that it changes, and evaluates its term then.

* `Step.perform` is what a step does, `Step.run` the step with its report.
* `Program.run` runs steps one after the other in one session.
-/

namespace MapStyle.Script

/-- A step of a program: evaluate a term, or change the value of an earlier slot in place. -/
inductive Step where
  | compute (term : Term)
  | set (slot : Nat) (path : List Value) (term : Term)
  | append (slot : Nat) (path : List Value) (term : Term)
  | delete (slot : Nat) (path : List Value)
deriving Inhabited

/-- What came of a step: its result, what it printed and said, and the layers as they stand after
it. -/
structure StepReport where
  result : Except Fault Value
  printed : String
  log : List LogEntry
  layers : LayerStore

namespace Session

/-- The session before a step: nothing is printed or said yet. -/
def beforeStep (session : Session) : Session := { session with printed := [], log := [] }

def withSlot (session : Session) (value : Value) : Session :=
  { session with slots := session.slots ++ [value] }

end Session

def slotPart (slot : Nat) (path : List Value) : Act Value := do
  let session ← get
  Act.ofExcept (partAt session.layers path (session.slot slot))

/-- Change a slot in place; the answer is its new value. -/
def changeSlot (slot : Nat) (path : List Value) (edit : Edit) : Act Value := do
  let session ← get
  let (changed, layers) ← Act.ofExcept (editAt edit session.layers path (session.slot slot))
  set { session with layers := layers, slots := session.slots.set slot changed }
  return changed

/-- Change a part of a slot that was found before a term was evaluated.  If something else has been
put in its place since then, the change is made to the part that was found and does not show. -/
def changeFound (slot : Nat) (path : List Value) (before : LayerStore) (found : Value)
    (edit : Edit) : Act Value := do
  let session ← get
  let whole := session.slot slot
  if isKept before session.layers path whole whole then
    changeSlot slot path edit
  else
    let _ ← Act.ofExcept (edit.apply session.layers found)
    return whole

def lastKey (path : List Value) : Act Value :=
  match path.getLast? with
  | some key => Act.written key
  | none => throw .badIndex

namespace Step

/-- What a step answers, and what its slot holds then. -/
def perform : Step → Act (Value × Value)
  | .compute term => do
    let value ← eval [] term
    return (value, value)
  | .set slot path term => do
    let before := (← get).layers
    let found ← slotPart slot path.dropLast
    let value ← eval [] term
    let key ← lastKey path
    return (← changeFound slot path.dropLast before found (.set key value), .null)
  | .append slot path term => do
    let before := (← get).layers
    let found ← slotPart slot path
    Act.ofExcept (checkAppendable found)
    let value ← eval [] term
    return (← changeFound slot path before found (.append value), .null)
  | .delete slot path => do
    let key ← lastKey path
    return (← changeSlot slot path.dropLast (.delete key), .null)

/-- Run a step: its report, and the session after it. -/
def run (step : Step) (session : Session) : StepReport × Session :=
  let (outcome, after) := step.perform.run.run session.beforeStep
  let held := match outcome with
    | .ok answer => answer.2
    | .error _ => .null
  (⟨outcome.map Prod.fst, String.ofList after.printed, after.log, after.layers⟩,
    after.withSlot held)

end Step

namespace Program

/-- Run steps one after the other. -/
def run : List Step → Session → List StepReport
  | [], _ => []
  | step :: steps, session =>
    let (report, after) := step.run session
    report :: run steps after

end Program

/-- Evaluate one term in a fresh session. -/
def evaluate (files : FileSystem) (term : Term) : StepReport :=
  ((Step.compute term).run (Session.start files)).1

end MapStyle.Script
