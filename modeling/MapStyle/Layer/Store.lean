import MapStyle.Fault
import MapStyle.Layer.Basic
import MapStyle.Value.Traverse

/-!
# Layers by number

Layers are changed in place, so values hold their numbers and the layers stand in a store, in the
order in which they were made.

* `LayerStore.resolve` puts the present record in the place of a live one, `LayerStore.unroll` does
  so only to a depth.
* `LayerStore.copy` copies a value with every layer in it, so that no later change shows in the
  copy.
-/

namespace MapStyle

/-- The layers made so far; the number of a layer is its place. -/
abbrev LayerStore := List Layer

namespace LayerStore

def recordOf (store : LayerStore) (id : LayerId) : Entries :=
  match store[id]? with
  | some layer => layer.record
  | none => []

/-- The value with the present record in the place of a live one; what the record holds is left as
it is. -/
def view (store : LayerStore) (v : Value) : Value :=
  match v with
  | .record id => .map (store.recordOf id)
  | v => v

/-- The value with present records in the place of the live ones, and so on in those records, in so
many steps.  A record that stands within itself is left as it is; `around` are those that the value
stands in. -/
def resolveWithin (store : LayerStore) : Nat → List LayerId → Value → Value
  | 0, _, v => v
  | steps + 1, around, v =>
    v.mapLeaves fun
      | .record id =>
        if around.contains id then .record id
        else resolveWithin store steps (id :: around) (.map (store.recordOf id))
      | leaf => leaf

/-- The value with the present records in the place of the live ones.  As many steps as there are
layers are enough, since no record is entered twice. -/
def resolve (store : LayerStore) (v : Value) : Value := resolveWithin store store.length [] v

/-- The value with the present records in the place of the live ones, and so on in those records, so
many records deep.  One that stands within itself is entered again. -/
def unroll (store : LayerStore) : Nat → Value → Value
  | 0, v => v
  | depth + 1, v =>
    v.mapLeaves fun
      | .record id => unroll store depth (.map (store.recordOf id))
      | leaf => leaf

/-! ## Copies -/

/-- The layers whose records can be reached from given ones in so many steps. -/
def reachable (store : LayerStore) : Nat → List LayerId → List LayerId
  | 0, ids => ids
  | steps + 1, ids =>
    let next := ids.flatMap fun id => (Value.map (store.recordOf id)).layersWithin
    let all := (ids ++ next).eraseDups
    if all.length = ids.length then ids else reachable store steps all

/-- The layers that a value holds, itself or by their records, and those that their records hold in
turn. -/
def layersWithin (store : LayerStore) (v : Value) : List LayerId :=
  reachable store store.length v.layersWithin.eraseDups

/-- What stands in a copy for a leaf: for a layer or its live record the new layer or its record,
and a new highlighted text for a highlighted text. -/
def counterpart (layers : List LayerId) (marks : List Nat) (firstLayer : LayerId)
    (firstMark : Nat) : Value → Value
  | .layer id => .layer (firstLayer + layers.idxOf id)
  | .record id => .record (firstLayer + layers.idxOf id)
  | .highlighted mark code theme => .highlighted (firstMark + marks.idxOf mark) code theme
  | leaf => leaf

/-- A copy: the value, the store with the layers in it, and the first mark that is still free. -/
structure Copied where
  value : Value
  store : LayerStore
  nextMark : Nat

/-- A copy of a value: it holds new layers with copies of their records, and what stood for one
layer in the value stands for one layer in the copy.  A view of the scope and a console cannot be
copied. -/
def copy (store : LayerStore) (firstMark : Nat) (v : Value) : Except Fault Copied :=
  let layers := store.layersWithin v
  let records := layers.map fun id => Value.map (store.recordOf id)
  let parts := (v :: records).flatMap Value.parts
  if parts.any Value.isUnique then .error .uncopyable
  else
    let marks := (parts.filterMap Value.highlightMark?).eraseDups
    let copied := Value.mapLeaves (counterpart layers marks store.length firstMark)
    let copies := records.map fun record => Layer.mk ((copied record).entries?.getD [])
    .ok ⟨copied v, store ++ copies, firstMark + marks.length⟩

end LayerStore

end MapStyle
