import MapStyle.Text.Symbol

/-!
# Shape problems

What can be wrong with the outer shape of a forged expression, a layer record or a document, and the
message for each.
-/

namespace MapStyle

/-- Why a value is not a forged expression. -/
inductive ExpressionProblem where
  | notArray
  | noOperator
  | unknownOperator (tag : String)
  /-- What stands where an operator is wanted holds half of a character. -/
  | brokenOperator (symbols : List Text.Symbol)
deriving DecidableEq, Repr, Inhabited

/-- Why a value is not a layer record. -/
inductive LayerProblem where
  | notObject
  | missing (key : String)
  | notText (key : String)
  | notSection (key : String)
  | notNumber (key : String)
  | badFilter (problem : ExpressionProblem)
deriving DecidableEq, Repr, Inhabited

/-- Why a document is not an expression, a layer, a list of layers or a style. -/
inductive DocumentProblem where
  | expression (problem : ExpressionProblem)
  | layer (problem : LayerProblem)
  | layerAt (index : Nat) (problem : LayerProblem)
  | layersNotArray
  | unknownDocument
deriving DecidableEq, Repr, Inhabited

/-! ## Whole messages -/

/-- Whether the message of a problem has whole characters only. -/
def ExpressionProblem.isWhole : ExpressionProblem → Bool
  | .brokenOperator _ => false
  | _ => true

/-- Whether the message of a problem has whole characters only. -/
def LayerProblem.isWhole : LayerProblem → Bool
  | .badFilter problem => problem.isWhole
  | _ => true

/-- Whether the message of a problem has whole characters only. -/
def DocumentProblem.isWhole : DocumentProblem → Bool
  | .expression problem => problem.isWhole
  | .layer problem | .layerAt _ problem => problem.isWhole
  | _ => true

/-! ## Messages -/

def ExpressionProblem.message : ExpressionProblem → String
  | .notArray => "Expression must be a non-empty array"
  | .noOperator => "Expression must start with an operation name"
  | .unknownOperator tag => "Unknown expression operator '" ++ tag ++ "'"
  | .brokenOperator symbols =>
    "Unknown expression operator '" ++ Text.escapedHalves symbols ++ "'"

def LayerProblem.message : LayerProblem → String
  | .notObject => "Layer must be an object"
  | .missing key => "Layer is missing '" ++ key ++ "'"
  | .notText key => "Layer '" ++ key ++ "' must be a string"
  | .notSection key => "Layer '" ++ key ++ "' must be an object"
  | .notNumber key => "Layer '" ++ key ++ "' must be a number"
  | .badFilter problem => "Layer 'filter' is invalid: " ++ problem.message

def DocumentProblem.message : DocumentProblem → String
  | .expression problem => problem.message
  | .layer problem => problem.message
  | .layerAt index problem => "layers[" ++ toString index ++ "]: " ++ problem.message
  | .layersNotArray => "Style 'layers' must be an array"
  | .unknownDocument =>
    "Document must be an expression, a layer, a list of layers or a style object"

end MapStyle
