import MapStyle.Layer.Property
import MapStyle.Value.Map

/-!
# Layers

A layer is a record: an ordered map with an id, a type, a source, and the sections `paint` and
`layout`, which come into being on their first write.

* `Layer.Write` is what a setter writes into the record, `Layer.write` does it.
-/

namespace MapStyle

/-- A style layer, as the record it forges to. -/
structure Layer where
  record : Entries
deriving Inhabited, Repr

namespace Layer

/-- A layer with its identity and its source; a source layer is recorded if it is not falsy. -/
def create (kind id source sourceLayer : Value) : Layer :=
  let identity := [namedEntry "id" id, namedEntry "type" kind, namedEntry "source" source]
  ⟨if sourceLayer.isFalsy then identity
   else identity ++ [namedEntry "source-layer" sourceLayer]⟩

def setRaw (layer : Layer) (key : String) (value : Value) : Layer :=
  ⟨Entries.putName layer.record key value⟩

/-- The section of a record: empty if there is none, or if something else stands in its place. -/
def sectionOf (record : Entries) (name : String) : Entries :=
  match Entries.lookupName record name with
  | some (.map entries) => entries
  | _ => []

/-- The layer with a section, which is made if it is not there. -/
def withSection (layer : Layer) (name : String) : Layer :=
  ⟨Entries.putName layer.record name (.map (sectionOf layer.record name))⟩

/-- Write into a section; expressions and property values are forged. -/
def setIn (layer : Layer) (name : String) (key value : Value) : Layer :=
  ⟨Entries.putName layer.record name
    (.map (Entries.put (sectionOf layer.record name) key value.asPropertyValue))⟩

/-! ## Writes -/

/-- What a setter writes into the record of a layer: an entry of a section, an entry at the top as
it is, or the filter. -/
inductive Write where
  | inSection (name : String) (key value : Value)
  | atTop (name : String) (value : Value)
  | filter (condition : Value)
deriving Inhabited, Repr

namespace Write

def paint (key value : Value) : Write := inSection "paint" key value
def layout (key value : Value) : Write := inSection "layout" key value

def visibility (value : Value) : Write := layout (.str "visibility") value
def textField (value : Value) : Write := layout (.str "text-field") value
def textSize (value : Value) : Write := layout (.str "text-size") value

def fillColor (value : Value) : Write := paint (.str "fill-color") value
def fillOpacity (value : Value) : Write := paint (.str "fill-opacity") value
def fillOutlineColor (value : Value) : Write := paint (.str "fill-outline-color") value
def lineColor (value : Value) : Write := paint (.str "line-color") value
def lineWidth (value : Value) : Write := paint (.str "line-width") value
def circleColor (value : Value) : Write := paint (.str "circle-color") value
def circleRadius (value : Value) : Write := paint (.str "circle-radius") value

def metadata (value : Value) : Write := atTop "metadata" value
def minZoom (value : Value) : Write := atTop "minzoom" value
def maxZoom (value : Value) : Write := atTop "maxzoom" value

end Write

/-- The layer after a write; for the filter, expressions and property values are forged, too. -/
def write (layer : Layer) : Write → Layer
  | .inSection name key value => layer.setIn name key value
  | .atTop name value => layer.setRaw name value
  | .filter condition => layer.setRaw "filter" condition.asPropertyValue

/-- What the layer forges to. -/
def forge (layer : Layer) : Value := .map layer.record

end Layer

end MapStyle
