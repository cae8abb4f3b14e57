import MapStyle.Layer.Store
import MapStyle.Value.Display

/-!
# Edits in place

A script can change what a slot holds: set or remove one entry of a map or item of a list, or
append to a list, at the end of a path of keys and indices.  A path that runs into the live record
of a layer changes the layer.

* `partAt` is what stands at the end of a path.
* `Edit.apply` makes one change to one container.
* `editAt` follows a path and puts the changed parts back in place.
* `isKept` says whether a path still leads to the container that it led to before.
-/

namespace MapStyle.Script

/-- One change to a map or a list. -/
inductive Edit where
  | set (key value : Value)
  | append (value : Value)
  | delete (key : Value)
deriving Inhabited, Repr

def missingEntry (key : Value) : Fault :=
  match key with
  | .str name => .missingKey name
  | other => .missingEntry other.display

/-- The position that an index means in a list of some length; a negative one counts from the end.
-/
def position? (length : Nat) (index : Int) : Option Nat :=
  let fromStart := if index < 0 then index + length else index
  if 0 ≤ fromStart ∧ fromStart < length then some fromStart.toNat else none

/-- The position that a key means among items. -/
def positionOf (items : List Value) (key : Value) : Except Fault Nat :=
  match key with
  | .int _ | .bool _ =>
    match position? items.length (key.wholeNumber?.getD 0) with
    | some position => .ok position
    | none => .error .badIndex
  | _ => .error .mistyped

def itemAt (items : List Value) (key : Value) : Except Fault Value := do
  return items[← positionOf items key]?.getD .null

def entryAt (entries : Entries) (key : Value) : Except Fault Value :=
  match Entries.lookup entries key with
  | some entry => .ok entry
  | none => .error (missingEntry key)

/-- The part of a value that a key means. -/
def partOf (layers : LayerStore) (value key : Value) : Except Fault Value :=
  match layers.view value with
  | .map entries | .scope entries => entryAt entries key
  | other@(.list _) | other@(.tuple _) | other@(.str _) =>
    itemAt (other.iterated?.getD []) key
  | _ => .error .mistyped

/-- The part of a value at the end of a path. -/
def partAt (layers : LayerStore) : List Value → Value → Except Fault Value
  | [], value => .ok value
  | key :: path, value => do partAt layers path (← partOf layers value key)

/-- A value must have an operation that appends to it. -/
def checkAppendable (value : Value) : Except Fault Unit :=
  match value with
  | .list _ => .ok ()
  | other => .error (.missingMember other.kindName "append")

namespace Edit

def onEntries (edit : Edit) (entries : Entries) : Except Fault Entries :=
  match edit with
  | .set key value => .ok (Entries.put entries key value)
  | .delete key =>
    if (Entries.lookup entries key).isSome then .ok (Entries.remove entries key)
    else .error (missingEntry key)
  | .append _ => .error .mistyped

/-- The items of a list after a change. -/
def onItems (edit : Edit) (items : List Value) : Except Fault (List Value) :=
  match edit with
  | .set key value => do return items.set (← positionOf items key) value
  | .delete key => do return items.eraseIdx (← positionOf items key)
  | .append value => .ok (items ++ [value])

/-- A container after a change, and the layers after it. -/
def apply (edit : Edit) (layers : LayerStore) (container : Value) :
    Except Fault (Value × LayerStore) :=
  match container with
  | .map entries => do return (.map (← edit.onEntries entries), layers)
  | .record id => do
    let changed ← edit.onEntries (layers.recordOf id)
    return (.record id, layers.modify id fun _ => ⟨changed⟩)
  | .list items => do return (.list (← edit.onItems items), layers)
  | _ => .error .mistyped

end Edit

/-- A value after a change at the end of a path, and the layers after it. -/
def editAt (edit : Edit) (layers : LayerStore) :
    List Value → Value → Except Fault (Value × LayerStore)
  | [], container => edit.apply layers container
  | key :: path, container => do
    let (changed, layers) ← editAt edit layers path (← partOf layers container key)
    match container with
    | .map entries => return (.map (Entries.put entries key changed), layers)
    | .record id =>
      return (.record id,
        layers.modify id fun layer => ⟨Entries.put layer.record key changed⟩)
    | .list items => return (.list (items.set (← positionOf items key) changed), layers)
    | .tuple items => return (.tuple (items.set (← positionOf items key) changed), layers)
    | other => return (other, layers)

/-- Whether a part is still the container that it was: a section of a layer is filled in place, and
anything else that has changed was put in its place. -/
def isKeptPart (container key was now : Value) : Bool :=
  match container, key, was, now with
  | .record _, .str name, .map _, .map _ =>
    name == "paint" || name == "layout" || was.same now
  | _, _, _, _ => was.same now

/-- Whether a path leads to the same container with the layers after a step as with those before it.
-/
def isKept (before after : LayerStore) : List Value → Value → Value → Bool
  | [], _, _ => true
  | key :: path, was, now =>
    match partOf before was key, partOf after now key with
    | .ok partBefore, .ok partAfter =>
      isKeptPart was key partBefore partAfter && isKept before after path partBefore partAfter
    | _, _ => false

end MapStyle.Script
