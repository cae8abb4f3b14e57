import MapStyle.Catalog
import MapStyle.Config.Basic
import MapStyle.Output.Print
import MapStyle.Report.Lines
import MapStyle.Script.Arguments
import MapStyle.Script.Session
import MapStyle.Value.Display
import MapStyle.Value.Equality

/-!
# Functions of the tool

What a script can do besides building expressions: check shapes, read documents and config files,
look into the catalog, prepare output and print it.  A script may give anything to these functions;
what they cannot use is a fault where it is used, and not before.
-/

namespace MapStyle.Script

/-- A function of the tool. -/
inductive ToolFunction where
  | isExpression | checkExpression | layerProblems | checkLayer
  | readConfig | colorDefaults | boundedInt | configDefaults | configArgument | loadConfig
  | defaultMap
  | loadDocument | documentProblems | checkFiles | reportLines | checkResult
  | buildExamples | forgeExamples | selectExamples
  | useColor | colorize | okLabel | problemText | pathLabel
  | jsonText | prepareJson | prepareLines | print | console | preparedOutput | outputOperation
  | themeName
deriving DecidableEq, Repr, Inhabited

/-! ## Values as arguments -/

/-- The texts at the start of some values, and the others. -/
def leadingTexts : List Value → List String × List Value
  | .str s :: rest =>
    let (texts, others) := leadingTexts rest
    (s :: texts, others)
  | others => ([], others)

/-- A switch is on unless it is falsy. -/
def switchOf (value : Value) : Bool := !value.isFalsy

/-- The key of a map, or the fault that a value that can change is none. -/
def keyOf (value : Value) : Except Fault Value :=
  if value.isKey then .ok value else .error .mistyped

/-- The first number that is too great to be the number of an open file. -/
def firstBeyond : Int := Nat.pow 2 31

/-- The path that a value is.  A number that could be the number of an open file is none, and no
file has a number below zero. -/
def pathOf : Value → Except Fault String
  | .str path => .ok path
  | .int n =>
    if 0 ≤ n ∧ n < firstBeyond then .error (.usage (.notOpen n))
    else if -firstBeyond ≤ n ∧ n < 0 then .error .badPath
    else .error .mistyped
  | _ => .error .mistyped

/-! ## Config -/

/-- The config in a file, and whether the file is malformed; a file that is not open is. -/
def configOf (files : FileSystem) (path : Value) : Except Fault (Entries × Bool) :=
  match pathOf path with
  | .ok path => Config.ofFile files path
  | .error (.usage _) => .ok ([], true)
  | .error fault => .error fault

/-- An integer that does not lie below a bound; null bounds nothing, and only a number bounds
something. -/
def boundedIntOf (value bound : Value) : Except Fault Value :=
  match value, bound with
  | .int n, .float x => .ok (if x.exceeds n then .null else value)
  | .int _, .null => .ok value
  | .int _, .int _ | .int _, .bool _ =>
    .ok (((Config.boundedInt? value bound.wholeNumber?).map Value.int).getD .null)
  | .int _, _ => .error .mistyped
  | _, _ => .ok .null

/-- The config file that arguments name.  They are read up to the first one that names a file; one
that is no text can only be the name itself. -/
def configFileOf (arguments : List Value) : Except Fault Value :=
  let (texts, others) := leadingTexts arguments
  match Config.namedFile? texts, others with
  | some name, _ => .ok (.str name)
  | none, [] => .ok (.str Config.defaultFile)
  | none, other :: _ =>
    if texts.getLast? = some Config.fileOption then .ok other
    else .error (.missingMember other.kindName "startswith")

/-- The arguments of a program, after its name. -/
def argumentsOf (value : Value) : Except Fault (List Value) :=
  match value with
  | .list _ | .tuple _ | .str _ => .ok ((value.iterated?.getD []).drop 1)
  | _ => .error .mistyped

/-! ## Reports -/

/-- A value in a style: it is left as it is without color, and must be a text with it. -/
def colorizeValue (text style : Value) (enabled : Bool) : Except Fault Value :=
  if enabled then do return .str (colorize (← textOf text) style.display true) else .ok text

def problemLine (enabled : Bool) (path problem : Value) : Except Fault String :=
  if enabled then do
    return pathLabel (← textOf path) true ++ ": " ++ problemText (← textOf problem) true
  else .ok (path.display ++ ": " ++ problem.display)

/-- The line about a file without problems. -/
def cleanLine (enabled : Bool) (path : Value) : Except Fault String :=
  if enabled then do return pathLabel (← textOf path) true ++ ": " ++ okLabel true
  else .ok (path.display ++ ": " ++ okLabel false)

def resultLines (enabled : Bool) (result : Value) : Except Fault (List String) :=
  match result with
  | .checkResult path problems =>
    if problems.isFalsy then do return [← cleanLine enabled path]
    else
      match problems.iterated? with
      | some items => items.mapM (problemLine enabled path)
      | none => .error .mistyped
  | other => .error (.missingMember other.kindName "problems")

def reportLinesOf (enabled : Bool) (results : List Value) : Except Fault Value := do
  return textList (← results.mapM (resultLines enabled)).flatten

/-- Check files one after the other; what is no text is announced, and can be no path. -/
def checkFilesOf (files : FileSystem) (paths : List Value) :
    Logged (Except Fault (List CheckResult)) :=
  let (texts, others) := leadingTexts paths
  let checked := Check.files files texts
  match checked.result, others with
  | .ok _, other :: _ =>
    ⟨checked.log ++ [Check.announcement other.display], do
      let _ ← pathOf other
      checked.result⟩
  | _, _ => checked

/-! ## Examples -/

/-- An example as a value; a layer is put into the store. -/
def exampleValue : Example → Act Value
  | .expression e => pure e.toValue
  | .property p => pure p.toValue
  | .constant c => pure c.toValue
  | .layer l => Act.makeLayer l

def groupValue (group : ExampleGroup) : Act Value := do
  let entries ← group.mapM fun entry => do
    let value ← exampleValue entry.2
    return (Value.str entry.1, value)
  return .map entries

def groupsValue (groups : List (String × ExampleGroup)) : Act Value := do
  let entries ← groups.mapM fun entry => do
    let value ← groupValue entry.2
    return (Value.str entry.1, value)
  return .map entries

/-- The groups that a value asks for: all, or the one of that name. -/
def groupsOf (group : Value) : Except Fault (List (String × ExampleGroup)) :=
  match group with
  | .null => .ok Catalog.groups
  | .str name =>
    match Catalog.select? (some name) with
    | some selected => .ok selected
    | none => .error (.missingKey name)
  | other => do .error (.missingEntry (← keyOf other).inspect)

/-- The part of the catalog that values ask for; a key that is no text names nothing. -/
def selectOf (group name : Value) : Logged (Except Fault Value) :=
  match group, name with
  | .null, .null => Catalog.select none none
  | .str g, .null => Catalog.select (some g) none
  | .null, .str n => Catalog.select none (some n)
  | .str g, .str n => Catalog.select (some g) (some n)
  | .null, other => ⟨[], unknownExample other⟩
  | .str g, other =>
    if Catalog.groupNames.contains g then ⟨[], unknownExample other⟩
    else Catalog.select (some g) none
  | other, _ => ⟨[], do
      .error (.usage (.unknownGroup (← keyOf other).display Catalog.groupNames))⟩
where
  /-- No example has a name that is no text. -/
  unknownExample (name : Value) : Except Fault Value := do
    .error (.usage (.unknownExample (← keyOf name).display))

/-! ## Output -/

/-- A value as JSON text under an indent.  An indent that is a fraction is of no use, but a text
does not need it. -/
def jsonTextOf (payload indent : Value) : Except Fault String :=
  match indent with
  | .int n => Json.writeText payload n
  | .bool b => Json.writeText payload (if b then 1 else 0)
  | .float x =>
    if x.exceeds 0 && !payload.isText then .error (.unserializable .fractionalIndent)
    else Json.writeText payload 0
  | .scope es => .error (.unserializable (.noIndent (Value.map es).kindName))
  | other => .error (.unserializable (.noIndent other.kindName))

def themeNameOf (theme : Value) : Except Fault String :=
  match theme with
  | .str name => .ok (Output.themeName name)
  | other => .error (.missingMember other.kindName "strip")

/-- Output of a value as JSON; highlighted text is a new one every time. -/
def prepareJsonOf (payload indent theme : Value) (colored : Bool) : Act Value := do
  let text ← Act.ofExcept (jsonTextOf payload indent)
  let operation ← if colored then do
      let theme ← Act.ofExcept (themeNameOf theme)
      pure (OutputOperation.highlightValue (← Act.fresh) text theme)
    else pure (OutputOperation.writeValue text)
  return .preparedOutput (.tuple [operation])

/-- What is printed of a value in the place of a line or of highlighted text: a text is a line, and
any other value is shown as it is. -/
def shownOperation (columns : Nat) (markup : Bool) : Value → OutputOperation
  | .str text => .line text markup
  | .highlighted _ code theme => .highlight code theme
  | other => .plain (other.onLines columns)

/-- A line has markup if it is asked for; null asks for it, too. -/
def markupOf (markup : Value) : Bool := markup.isNull || switchOf markup

/-- What an operation prints on a console of some columns, if it prints anything. -/
def operationOf (columns : Nat) (operation : Value) : Except Fault (Option OutputOperation) :=
  match operation with
  | .outputOperation kind text renderable markup =>
    if kind.equals (.str OutputOperation.plainKind) then
      .ok (if text.isNull then none else some (.write text.display))
    else if renderable.isNull then
      .ok (some (shownOperation columns (markupOf markup)
        (if text.isNull then .str "" else text)))
    else .ok (some (shownOperation columns true renderable))
  | other => .error (.missingMember other.kindName "kind")

def consoleMember : OutputOperation → String
  | .write _ => "file"
  | _ => "print"

/-- The columns of a console; what is none has no room. -/
def columnsOf : Value → Nat
  | .console _ columns _ => columns
  | _ => 0

def printOperation (console operation : Value) : Act Unit := do
  match ← Act.ofExcept (operationOf (columnsOf console) operation) with
  | none => pure ()
  | some operation =>
    match console, Output.operationText (columnsOf console) operation with
    | .console .., .ok text => Act.print text
    | .console .., .error problem => throw (.badMarkup problem)
    | other, _ => throw (.missingMember other.kindName (consoleMember operation))

/-- Print prepared output on a console, up to the first operation that cannot be printed. -/
def printOutput (console output : Value) : Act Value := do
  match output with
  | .preparedOutput operations => do
    (← Act.itemsOf operations).forM (printOperation console)
    return .null
  | other => throw (.missingMember other.kindName "operations")

namespace ToolFunction

def arity : ToolFunction → Arity
  | .boundedInt | .reportLines | .checkResult | .selectExamples | .problemText | .pathLabel
  | .jsonText | .prepareLines | .print => .exactly 2
  | .colorize => .exactly 3
  | .prepareJson | .outputOperation => .exactly 4
  | _ => .exactly 1

/-- What a function answers that only looks at its arguments. -/
def answer (f : ToolFunction) (args : List (Option Value)) : Except Fault Value :=
  match f, args with
  | .isExpression, [some v] => .ok (.bool (Shape.isExpression v))
  | .checkExpression, [some v] =>
    match Shape.checkExpression v with
    | none => .ok .null
    | some problem => .error (.expressionShape problem)
  | .layerProblems, [some v] =>
    .ok (textList ((Shape.layerProblems v).map LayerProblem.message))
  | .checkLayer, [some v] =>
    match Shape.checkLayer v with
    | none => .ok .null
    | some problem => .error (.layerShape problem)
  | .boundedInt, [some v, some bound] => boundedIntOf v bound
  | .configArgument, [some v] => do configFileOf (← argumentsOf v)
  | .documentProblems, [some v] => .ok (textList (Check.problems v))
  | .reportLines, [some results, some enabled] =>
    match results.iterated? with
    | some results => reportLinesOf (switchOf enabled) results
    | none => .error .mistyped
  | .forgeExamples, [group] => do
    return Catalog.forgeGroups (← groupsOf (Arguments.orNull group))
  | .okLabel, [some enabled] => .ok (.str (MapStyle.okLabel (switchOf enabled)))
  | .jsonText, [some v, some indent] => do return .str (← jsonTextOf v indent)
  | .themeName, [some theme] => do return .str (← themeNameOf theme)
  | _, _ => .error .mistyped

/-- How many records deep a check looks: at a style, at a layer in it, and at a section of that. -/
def checkDepth : Nat := 3

/-- How a function that only looks at its arguments sees them. -/
def look : ToolFunction → Value → Act Value
  | .isExpression, v | .checkExpression, v | .layerProblems, v | .checkLayer, v
  | .documentProblems, v => Act.unroll checkDepth v
  | _, v => Act.resolve v

/-- What a function answers to its arguments, with what it does in the session. -/
def run (f : ToolFunction) (args : Arguments) : Act Value :=
  match f, args.fixed with
  | .readConfig, [some path] => do
    let (config, malformed) ← Act.ofExcept (configOf (← get).files path)
    return .pair (.map config) (.bool malformed)
  | .colorDefaults, [some v] => do
    match Config.colorSetting? (← Act.entriesWith "get" v) with
    | none => return .pair (.map []) (.bool false)
    | some setting => return .pair (Setting.toMap setting.toList) (.bool true)
  | .configDefaults, [some v] => do
    let config ← Act.entriesWith "get" v
    Act.say (Config.warnings config)
    return Setting.toMap (Config.settings config)
  | .loadConfig, [some v] => do
    let arguments ← Act.ofExcept (argumentsOf v)
    let file ← Act.ofExcept (do textOf (← configFileOf arguments))
    let loaded ← Act.ofLogged (Config.loadFile (← get).files file)
    return loaded.toValue
  | .defaultMap, [some v] => do return .map (Config.defaultMap (← Act.entriesOf v))
  | .loadDocument, [some path] => do
    let path ← Act.ofExcept (pathOf path)
    Act.ofExcept (Document.load (← get).files path)
  | .checkFiles, [some paths] => do
    let paths ← Act.itemsOf (← Act.resolve paths)
    let results ← Act.ofLogged (checkFilesOf (← get).files paths)
    return .list (results.map CheckResult.toValue)
  | .checkResult, [some path, some problems] => pure (.checkResult path problems)
  | .buildExamples, [group] => do groupsValue (← Act.ofExcept (groupsOf (Arguments.orNull group)))
  | .selectExamples, [some group, some name] => Act.ofLogged (selectOf group name)
  | .useColor, [some .null] => pure (.bool (MapStyle.useColor none))
  | .useColor, [some asked] => pure asked
  | .colorize, [some text, some style, some enabled] => do
    Act.ofExcept (colorizeValue text (← Act.resolve style) (switchOf (← Act.view enabled)))
  | .problemText, [some text, some enabled] => do
    Act.ofExcept (colorizeValue text (.str problemStyle) (switchOf (← Act.view enabled)))
  | .pathLabel, [some path, some enabled] => do
    Act.ofExcept (colorizeValue path (.str pathStyle) (switchOf (← Act.view enabled)))
  | .prepareJson, [some v, some indent, some enabled, some theme] => do
    prepareJsonOf (← Act.resolve v) indent theme (switchOf (← Act.view enabled))
  | .prepareLines, [some lines, some markup] => do
    let operations := (← Act.itemsOf lines).map fun line => OutputOperation.lineValue line markup
    return .preparedOutput (.tuple operations)
  | .console, [some enabled] => do
    return .console (← Act.fresh) (← get).files.columns (switchOf (← Act.view enabled))
  | .preparedOutput, [some operations] => pure (.preparedOutput operations)
  | .outputOperation, [some kind, text, renderable, markup] =>
    pure (.outputOperation kind (Arguments.orNull text) (Arguments.orNull renderable)
      (markup.getD (.bool false)))
  | .print, [some target, some output] => do printOutput target (← Act.resolve output)
  | f, _ => do
    let args ← args.mapM f.look
    Act.ofExcept (f.answer args.fixed)

end ToolFunction

end MapStyle.Script
