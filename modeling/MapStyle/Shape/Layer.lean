import MapStyle.Shape.Expression
import MapStyle.Value.Map

/-!
# The shape of a layer record

A layer record is a map with texts under `id`, `type` and `source`, and with the right kind of value
under six further keys if they are there.  `Shape.layerProblems` lists what is wrong, key by key.
-/

namespace MapStyle.Shape

def requiredText (record : Entries) (key : String) : List LayerProblem :=
  match Entries.lookupName record key with
  | none => [.missing key]
  | some value => if value.isText then [] else [.notText key]

def optionalText (record : Entries) (key : String) : List LayerProblem :=
  match Entries.lookupName record key with
  | none => []
  | some value => if value.isText then [] else [.notText key]

def optionalSection (record : Entries) (key : String) : List LayerProblem :=
  match Entries.lookupName record key with
  | none => []
  | some value => if value.entries?.isSome then [] else [.notSection key]

def optionalNumber (record : Entries) (key : String) : List LayerProblem :=
  match Entries.lookupName record key with
  | none => []
  | some value => if value.isNumber then [] else [.notNumber key]

/-- A key that must hold an expression if it is there. -/
def optionalFilter (record : Entries) (key : String) : List LayerProblem :=
  match Entries.lookupName record key with
  | none => []
  | some value =>
    match checkExpression value with
    | none => []
    | some problem => [.badFilter problem]

/-- The problems of a record, key by key. -/
def recordProblems (record : Entries) : List LayerProblem :=
  ["id", "type", "source"].flatMap (requiredText record)
    ++ optionalText record "source-layer"
    ++ ["paint", "layout"].flatMap (optionalSection record)
    ++ ["minzoom", "maxzoom"].flatMap (optionalNumber record)
    ++ optionalFilter record "filter"

/-- The problems of a value that should be a layer record. -/
def layerProblems (value : Value) : List LayerProblem :=
  match value.entries? with
  | none => [.notObject]
  | some record => recordProblems record

/-- The first problem of a value that should be a layer record. -/
def checkLayer (value : Value) : Option LayerProblem := (layerProblems value).head?

end MapStyle.Shape
