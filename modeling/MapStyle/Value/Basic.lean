import MapStyle.Number.Binary64
import MapStyle.Text.Symbol

/-!
# Values

Operands of a style expression are dynamically typed: plain data, and the objects of this library
that have not been turned into plain data yet.  `Value` is the one type for all of them.

* `Value.kindName` is the name by which messages call the kind of a value.
* `Value.isFalsy` says which values count as absent where an option may be left out.
* `Value.entries?` is the view of a value as a map, and `Value.iterated?` is what one gets by going
  through a value.
* `Value.fields` are the fields of an object.
-/

namespace MapStyle

/-- The number of a layer in the store of a session. -/
abbrev LayerId := Nat

/-- A value: plain data, a read-only view of the bindings in scope, or an object of the library.

A `broken` text is one in which half of a character stands alone, as files can hold it.  Maps keep
the order in which their keys were first written.  A `layer` is known by its number, and `record` is
the live record of that layer; `highlighted` text and a `console`, which has a width, are known by a
mark.  What an object holds is not checked when it is made, so its fields are values themselves. -/
inductive Value where
  | null
  | bool (b : Bool)
  | int (n : Int)
  | float (x : Binary64)
  | str (s : String)
  | broken (symbols : List Text.Symbol)
  | list (items : List Value)
  | tuple (items : List Value)
  | map (entries : List (Value × Value))
  | scope (entries : List (Value × Value))
  | expression (forged : Value)
  | caseChain (conditions : Value)
  | pendingCase (conditions condition : Value)
  | matchChain (subject conditions : Value)
  | matchEnding (subject conditions : Value)
  | letChain (bindings : Value)
  | varBindings (bindings : List (Value × Value))
  | property (value : Value)
  | constant (value : Value)
  | layer (id : LayerId)
  | record (id : LayerId)
  | checkResult (path problems : Value)
  | loadedConfig (path defaults : Value)
  | preparedOutput (operations : Value)
  | outputOperation (kind text renderable markup : Value)
  | highlighted (mark : Nat) (code theme : String)
  | console (mark columns : Nat) (colored : Bool)
deriving Inhabited, Repr

/-- The entries of a map, in the order in which their keys were first written. -/
abbrev Entries := List (Value × Value)

namespace Value

/-- The name by which messages call the kind of a value. -/
def kindName : Value → String
  | .null => "NoneType"
  | .bool _ => "bool"
  | .int _ => "int"
  | .float _ => "float"
  | .str _ | .broken _ => "str"
  | .list _ => "list"
  | .tuple _ => "tuple"
  | .map _ | .record _ => "dict"
  | .scope _ => "mappingproxy"
  | .expression _ => "Expression"
  | .caseChain _ => "ConditionalBuilder"
  | .pendingCase .. => "ConditionalThenBuilder"
  | .matchChain .. => "MatchBuilder"
  | .matchEnding .. => "MatchFallbackBuilder"
  | .letChain _ => "LetBuilder"
  | .varBindings _ => "VarBindings"
  | .property _ => "Property"
  | .constant _ => "Value"
  | .layer _ => "Layer"
  | .checkResult .. => "CheckResult"
  | .loadedConfig .. => "LoadedCliConfig"
  | .preparedOutput _ => "PreparedOutput"
  | .outputOperation .. => "OutputOperation"
  | .highlighted .. => "Syntax"
  | .console .. => "Console"

/-- The values that count as absent: null, false, zero, and whatever is empty. -/
def isFalsy : Value → Bool
  | .null => true
  | .bool b => !b
  | .int n => n == 0
  | .float x => x.isZero
  | .str s => s.isEmpty
  | .list items | .tuple items => items.isEmpty
  | .map entries | .scope entries => entries.isEmpty
  | _ => false

def isNull : Value → Bool
  | .null => true
  | _ => false

/-- The entries of a map or of a view of the scope. -/
def entries? : Value → Option Entries
  | .map entries | .scope entries => some entries
  | _ => none

def ofSymbols (symbols : List Text.Symbol) : Value :=
  match Text.wholeChars? symbols with
  | some chars => .str (String.ofList chars)
  | none => .broken symbols

theorem ofSymbols_map_char (s : List Char) : ofSymbols (s.map .char) = .str (String.ofList s) := by
  rw [ofSymbols, Text.wholeChars?_map]

/-- What one gets by going through a value: items, the characters of a text, the keys of a map. -/
def iterated? : Value → Option (List Value)
  | .list items | .tuple items => some items
  | .str s => some (s.toList.map fun c => .str (String.singleton c))
  | .broken symbols => some (symbols.map fun symbol => ofSymbols [symbol])
  | .map entries | .scope entries => some (entries.map Prod.fst)
  | _ => none

/-- A number, which a boolean is not. -/
def isNumber : Value → Bool
  | .int _ | .float _ => true
  | _ => false

def isText : Value → Bool
  | .str _ | .broken _ => true
  | _ => false

theorem isText_ofSymbols (symbols : List Text.Symbol) : (ofSymbols symbols).isText = true := by
  unfold ofSymbols
  split <;> rfl

/-- A value that can be the key of a map: one that can never change. -/
def isKey : Value → Bool
  | .null | .bool _ | .int _ | .float _ | .str _ | .broken _ | .layer _ | .highlighted ..
  | .console .. => true
  | .tuple items => areKeys items
  | .caseChain v | .letChain v | .property v | .constant v | .preparedOutput v => isKey v
  | .pendingCase v w | .matchChain v w | .matchEnding v w | .checkResult v w => isKey v && isKey w
  | .outputOperation k t r m => isKey k && isKey t && isKey r && isKey m
  | _ => false
where
  /-- All of some values can be keys. -/
  areKeys : List Value → Bool
    | [] => true
    | v :: vs => isKey v && areKeys vs

/-- The fields of an object with what they hold; a layer and a console show none. -/
def fields : Value → List (String × Value)
  | .expression forged => [("forged", forged)]
  | .caseChain conditions => [("conditions", conditions)]
  | .pendingCase conditions condition =>
    [("builder", .caseChain conditions), ("condition", condition)]
  | .matchChain subject conditions => [("subject", subject), ("conditions", conditions)]
  | .matchEnding subject conditions => [("builder", .matchChain subject conditions)]
  | .letChain bindings => [("bindings", bindings)]
  | .varBindings bindings => [("bindings", .map bindings)]
  | .property value | .constant value => [("value", value)]
  | .checkResult path problems => [("path", path), ("problems", problems)]
  | .loadedConfig path defaults => [("path", path), ("defaults", defaults)]
  | .preparedOutput operations => [("operations", operations)]
  | .outputOperation kind text renderable markup =>
    [("kind", kind), ("text", text), ("renderable", renderable), ("markup", markup)]
  | .highlighted _ code _ => [("code", .str code)]
  | _ => []

def pair (a b : Value) : Value := .tuple [a, b]

def pairs (ps : List (Value × Value)) : Value := .tuple (ps.map fun p => pair p.1 p.2)

end Value

end MapStyle
