import MapStyle.Value.Basic

/-!
# The parts of a value

* `Value.parts` lists a value and everything in it.
* `Value.mapLeaves` changes the parts of a value that have no parts themselves.
-/

namespace MapStyle.Value

mutual

/-- A value and everything in it. -/
def parts : Value → List Value
  | .list items => .list items :: partsOfItems items
  | .tuple items => .tuple items :: partsOfItems items
  | .map es => .map es :: partsOfPairs es
  | .scope es => .scope es :: partsOfPairs es
  | .expression v => .expression v :: parts v
  | .caseChain cs => .caseChain cs :: parts cs
  | .pendingCase cs c => .pendingCase cs c :: (parts cs ++ parts c)
  | .matchChain s cs => .matchChain s cs :: (parts s ++ parts cs)
  | .matchEnding s cs => .matchEnding s cs :: (parts s ++ parts cs)
  | .letChain bs => .letChain bs :: parts bs
  | .varBindings es => .varBindings es :: partsOfPairs es
  | .property v => .property v :: parts v
  | .constant v => .constant v :: parts v
  | .checkResult p ps => .checkResult p ps :: (parts p ++ parts ps)
  | .loadedConfig p d => .loadedConfig p d :: (parts p ++ parts d)
  | .preparedOutput os => .preparedOutput os :: parts os
  | .outputOperation k t r m =>
    .outputOperation k t r m :: (parts k ++ parts t ++ parts r ++ parts m)
  | v => [v]

def partsOfItems : List Value → List Value
  | [] => []
  | item :: items => parts item ++ partsOfItems items

def partsOfPairs : List (Value × Value) → List Value
  | [] => []
  | (a, b) :: pairs => parts a ++ parts b ++ partsOfPairs pairs

end

mutual

/-- A value with its leaves changed, those parts that have no parts themselves. -/
def mapLeaves (f : Value → Value) : Value → Value
  | .list items => .list (mapLeavesOfItems f items)
  | .tuple items => .tuple (mapLeavesOfItems f items)
  | .map es => .map (mapLeavesOfPairs f es)
  | .scope es => .scope (mapLeavesOfPairs f es)
  | .expression v => .expression (mapLeaves f v)
  | .caseChain cs => .caseChain (mapLeaves f cs)
  | .pendingCase cs c => .pendingCase (mapLeaves f cs) (mapLeaves f c)
  | .matchChain s cs => .matchChain (mapLeaves f s) (mapLeaves f cs)
  | .matchEnding s cs => .matchEnding (mapLeaves f s) (mapLeaves f cs)
  | .letChain bs => .letChain (mapLeaves f bs)
  | .varBindings es => .varBindings (mapLeavesOfPairs f es)
  | .property v => .property (mapLeaves f v)
  | .constant v => .constant (mapLeaves f v)
  | .checkResult p ps => .checkResult (mapLeaves f p) (mapLeaves f ps)
  | .loadedConfig p d => .loadedConfig (mapLeaves f p) (mapLeaves f d)
  | .preparedOutput os => .preparedOutput (mapLeaves f os)
  | .outputOperation k t r m =>
    .outputOperation (mapLeaves f k) (mapLeaves f t) (mapLeaves f r) (mapLeaves f m)
  | v => f v

def mapLeavesOfItems (f : Value → Value) : List Value → List Value
  | [] => []
  | item :: items => mapLeaves f item :: mapLeavesOfItems f items

def mapLeavesOfPairs (f : Value → Value) : List (Value × Value) → List (Value × Value)
  | [] => []
  | (a, b) :: pairs => (mapLeaves f a, mapLeaves f b) :: mapLeavesOfPairs f pairs

end

/-- The number of the layer that a layer or a live record is. -/
def layerId? : Value → Option LayerId
  | .layer id | .record id => some id
  | _ => none

/-- The layers in a value, each as often as it or its record stands there. -/
def layersWithin (v : Value) : List LayerId := v.parts.filterMap layerId?

def highlightMark? : Value → Option Nat
  | .highlighted mark _ _ => some mark
  | _ => none

/-- A value of which there can be no second one: a view of the scope, or a console. -/
def isUnique : Value → Bool
  | .scope _ | .console .. => true
  | _ => false

end MapStyle.Value
