import MapStyle.Chain.Let
import MapStyle.Expression.Chained
import MapStyle.Layer.Basic
import MapStyle.Report.Log
import MapStyle.Value.Literal

/-!
# The catalog of examples

Examples of expressions, property values and layers, in named groups.

* `Catalog.groups` is the catalog, `Catalog.forgeGroups` its plain data.
* `Catalog.select` finds a group, or an example by name.
-/

namespace MapStyle

/-- An example: something that can be forged. -/
inductive Example where
  | expression (e : Expression)
  | property (p : Property)
  | constant (c : Constant)
  | layer (l : Layer)
deriving Inhabited, Repr

def Example.forge : Example → Value
  | .expression e => e.forged
  | .property p => p.value
  | .constant c => c.value
  | .layer l => l.forge

/-- Examples by name, in order. -/
abbrev ExampleGroup := List (String × Example)

namespace Catalog

open Style

/-! ## Shared data -/

def palette : Entries := [(0, "#ff0000"), (1, "#00ff00"), (2, "#0000ff")]

def categoryColors : Entries :=
  [("residential", "#ffeb3b"), ("commercial", "#2196f3"), ("industrial", "#f44336")]

/-- The color of everything else. -/
def fallbackColor : Value := "#64748b"

def corner (x y : Nat) : Value := .list [.decimal x 0, .decimal y 0]

def harbourArea : Value :=
  .map [("type", "Polygon"),
    ("coordinates", .list [.list [corner 0 0, corner 0 1, corner 1 1, corner 1 0, corner 0 0]])]

def field (name : String) : Expression := get name

/-! ## Groups -/

def basic : ExampleGroup :=
  [("get_id", .expression (field "id")),
   ("has_id", .expression (has "id")),
   ("zoom", .expression zoom),
   ("literal_string", .expression (literal "hello")),
   ("literal_number", .expression (literal 42))]

def math : ExampleGroup :=
  [("add", .expression (add [1, 2, 3])),
   ("subtract", .expression (subtract 10 3)),
   ("multiply", .expression (multiply [2, 3, 4])),
   ("divide", .expression (divide 10 2)),
   ("modulo", .expression (remainder (toNumber (field "id")) 256)),
   ("power", .expression (power 2 8)),
   ("id_palette_index", .expression (((field "id").toNumber.remainder 256).add [zoom])),
   ("scaled_magnitude",
     .expression ((((field "magnitude").multiply [10]).add [5]).divide 2)),
   ("level_bonus", .expression (((field "level").power 2).add [field "bonus"]))]

def comparison : ExampleGroup :=
  [("id_equals_zero", .expression ((field "id").eq 0)),
   ("zoom_above_10", .expression (zoom.gt 10)),
   ("zoom_at_most_15", .expression (zoom.lte 15)),
   ("type_is_polygon", .expression (eq (field "type") "polygon")),
   ("magnitude_range",
     .expression (((field "magnitude").gte 5).all [(field "magnitude").lt 8]))]

def logical : ExampleGroup :=
  [("has_id_and_visible", .expression (all [has "id", eq (field "visible") (.bool true)])),
   ("polygon_or_line",
     .expression (any [eq (field "type") "polygon", eq (field "type") "line"])),
   ("not_hidden", .expression (negate (eq (field "status") "hidden"))),
   ("important_above_8",
     .expression (all [has "id", gt zoom 8, eq (field "category") "important"]))]

def matching : ExampleGroup :=
  [("category_palette",
     .expression (((MatchChain.on (field "category")).branchesOf categoryColors).fallback
       "#9e9e9e")),
   ("id_palette",
     .expression (((MatchChain.on ((field "id").toNumber.remainder 3)).branchesOf palette).fallback
       fallbackColor)),
   ("incremental",
     .expression ((((MatchChain.on (field "kind")).branch "park" "#4caf50").branch
       "water" "#2196f3").fallback "#9e9e9e"))]

def conditional : ExampleGroup :=
  [("simple", .expression (((when (has "id")).result "#ff0000").otherwise "#0000ff")),
   ("zoom_bands",
     .expression (((((((when (zoom.lt 5)).result "#ff0000").when (zoom.lt 10)).result
       "#ffff00").when (zoom.lt 15)).result "#00ff00").otherwise "#0000ff")),
   ("nested_match",
     .expression (((when (has "id")).result
       (((MatchChain.on ((field "id").toNumber.remainder 256)).branchesOf palette).fallback
         fallbackColor)).otherwise fallbackColor)),
   ("zoom_ramp_when_identified",
     .expression (((when ((has "id").all [zoom.gt 10])).result
       (zoom.interpolate linear [10, "#ff0000", 15, "#00ff00"])).otherwise fallbackColor))]

def interpolation : ExampleGroup :=
  [("zoom_opacity",
     .expression (interpolate linear zoom
       [0, .decimal 1 (-1), 10, .decimal 5 (-1), 20, .decimal 1 0])),
   ("exponential_size",
     .expression (interpolate (exponential 2) (field "magnitude") [0, 5, 10, 20])),
   ("smooth_color",
     .expression (interpolate
       (cubicBezier (.decimal 25 (-2)) (.decimal 46 (-2)) (.decimal 45 (-2)) (.decimal 94 (-2)))
       zoom [0, "#ff0000", 20, "#0000ff"])),
   ("temperature_hcl",
     .expression ((field "temperature").interpolateHcl linear
       [0, "#0000ff", 50, "#ffff00", 100, "#ff0000"])),
   ("temperature_lab",
     .expression ((field "temperature").interpolateLab linear
       [0, "#0000ff", 100, "#ff0000"]))]

def stairs : ExampleGroup :=
  [("zoom_line_width", .expression (step zoom 1 [5, 2, 10, 3, 15, 4])),
   ("magnitude_radius", .expression ((field "magnitude").step 3 [3, 5, 6, 8, 8, 12]))]

def conversion : ExampleGroup :=
  [("string_to_number", .expression (toNumber (field "id"))),
   ("number_to_string", .expression (toText (field "count"))),
   ("to_boolean", .expression (toBoolean (field "visible"))),
   ("tags_array", .expression ((field "tags").array "string" .null)),
   ("price_label", .expression ((field "price").numberFormat .null "EUR" .null 2))]

def texts : ExampleGroup :=
  [("full_name", .expression (concat [field "firstName", " ", field "lastName"])),
   ("uppercase", .expression (upcase (field "name"))),
   ("lowercase", .expression (downcase (field "name"))),
   ("rich_label",
     .expression (format
       [field "name", .map [("font-scale", .decimal 12 (-1))], "\n", .map [], field "ref"])),
   ("urgent_position", .expression ((field "tags").indexOf "urgent" 1))]

def binding : ExampleGroup :=
  [("area_in_hectares",
     .expression ((letIn [("area", field "area")]).body ((var "area").divide 10000))),
   ("doubled",
     .expression ((letIn [("a", field "x")]).extend (bindVar [("b", (field "x").multiply [2])])))]

def spatial : ExampleGroup :=
  [("distance_to_harbour", .expression (distance harbourArea)),
   ("within_harbour", .expression (within harbourArea))]

def constants : ExampleGroup :=
  [("visibility", .constant ⟨"visible"⟩),
   ("zoom_line_width",
     .constant (.ofExpression (interpolate linear zoom [10, 1, 20, 5]))),
   ("camera_size",
     .constant ⟨.map [("type", "exponential"),
       ("stops", .list [.list [0, 1], .list [20, 32]])]⟩)]

def fillColor : Property :=
  .matchOn (remainder (toNumber (field "id")) 256) (some palette) fallbackColor

def fillOpacity : Property :=
  .interpolate linear zoom [0, .decimal 1 (-1), 15, .decimal 8 (-1)]

def circleRadius : Property := .step (field "magnitude") 3 [5, 5, 8, 10]

def textSize : Property := .caseOf [gt zoom 12, 14, 10]

def properties : ExampleGroup :=
  [("fill_color", .property fillColor),
   ("fill_opacity", .property fillOpacity),
   ("circle_radius", .property circleRadius),
   ("text_size", .property textSize)]

def layers : ExampleGroup :=
  [("buildings_fill",
     .layer ([.fillColor fillColor.toValue, .fillOpacity fillOpacity.toValue, .visibility "visible",
       .minZoom 0, .maxZoom 20].foldl Layer.write
         (.create "fill" "buildings-fill" "buildings-source" "buildings"))),
   ("points_circle",
     .layer ([.circleColor "#ff0000", .circleRadius circleRadius.toValue,
       .visibility "visible"].foldl Layer.write
         (.create "circle" "points-circle" "points-source" .null))),
   ("roads_line",
     .layer ([.lineColor "#666666", .lineWidth (interpolate linear zoom [0, 1, 20, 5]),
       .visibility "visible"].foldl Layer.write
         (.create "line" "roads-line" "roads-source" "roads"))),
   ("labels_symbol",
     .layer ([.textField (field "name"), .textSize textSize.toValue, .minZoom 10].foldl Layer.write
         (.create "symbol" "labels-symbol" "buildings-source" "buildings"))),
   ("large_buildings",
     .layer ([.fillColor fillColor.toValue, .filter (all [has "id", gt (field "area") 1000]),
       .visibility "visible"].foldl Layer.write
         (.create "fill" "filtered-fill" "data-source" "layer")))]

def groups : List (String × ExampleGroup) :=
  [("basic", basic), ("math", math), ("comparison", comparison), ("logical", logical),
   ("match", matching), ("conditional", conditional), ("interpolation", interpolation),
   ("step", stairs), ("conversion", conversion), ("string", texts), ("binding", binding),
   ("spatial", spatial), ("values", constants), ("properties", properties), ("layers", layers)]

def groupNames : List String := groups.map Prod.fst

/-! ## Looking things up -/

/-- The groups asked for: all, or the one of a name. -/
def select? (group : Option String) : Option (List (String × ExampleGroup)) :=
  match group with
  | none => some groups
  | some name => (groups.find? fun entry => entry.1 == name).map ([·])

def forgeGroup (group : ExampleGroup) : Value :=
  .map (group.map fun entry => (.str entry.1, entry.2.forge))

def forgeGroups (selected : List (String × ExampleGroup)) : Value :=
  .map (selected.map fun entry => (.str entry.1, forgeGroup entry.2))

/-- The first example of a name, with the group it is in. -/
def find? (selected : List (String × ExampleGroup)) (name : String) : Option (String × Example) :=
  selected.findSome? fun entry =>
    (entry.2.find? fun e => e.1 == name).map fun e => (entry.1, e.2)

/-- The part of the catalog that a user asks for: all, a group, or the first example of a name. -/
def select (group name : Option String) : Logged (Except Fault Value) :=
  match select? group with
  | none => ⟨[], .error (.usage (.unknownGroup (group.getD "") groupNames))⟩
  | some selected =>
    match name with
    | none =>
      match group, selected with
      | some _, [(_, only)] => ⟨[], .ok (forgeGroup only)⟩
      | _, _ => ⟨[], .ok (forgeGroups selected)⟩
    | some wanted =>
      match find? selected wanted with
      | none => ⟨[], .error (.usage (.unknownExample wanted))⟩
      | some (found, e) =>
        ⟨[.info ("Found example " ++ wanted ++ " in group " ++ found)], .ok e.forge⟩

end Catalog

end MapStyle
