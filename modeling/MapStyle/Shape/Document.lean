import MapStyle.Shape.Layer

/-!
# The shape of a document

A document is a forged expression (an array led by a text), a list of layers (any other array), a
style (a map with `layers`) or a single layer (any other map).  `Shape.documentProblems` lists
what is wrong with it; the problems of a list of layers carry the index of the layer.
-/

namespace MapStyle.Shape

/-- The problems of a list of layers, counted from `index` on. -/
def layersProblems (index : Nat) : List Value → List DocumentProblem
  | [] => []
  | layer :: rest =>
    (layerProblems layer).map (DocumentProblem.layerAt index) ++ layersProblems (index + 1) rest

def isLedByText : Value → Bool
  | .list (first :: _) => first.isText
  | _ => false

/-- The problems of a document. -/
def documentProblems (document : Value) : List DocumentProblem :=
  if isLedByText document then
    ((checkExpression document).map DocumentProblem.expression).toList
  else
    match document with
    | .list layers => layersProblems 0 layers
    | _ =>
      match document.entries? with
      | none => [.unknownDocument]
      | some record =>
        match Entries.lookupName record "layers" with
        | none => (layerProblems document).map DocumentProblem.layer
        | some (.list layers) => layersProblems 0 layers
        | some _ => [.layersNotArray]

end MapStyle.Shape
