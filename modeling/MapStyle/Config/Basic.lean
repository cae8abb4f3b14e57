import MapStyle.Config.Setting
import MapStyle.Files.Document
import MapStyle.Files.Location
import MapStyle.Report.Log
import MapStyle.Text.Blank
import MapStyle.Value.Display

/-!
# Config files

A config file is a JSON object whose entries set defaults for the commands.  The two color entries
act together; every other entry acts alone.  An entry that cannot be used is skipped with a
warning.

* `Config.settings` are the settings of a config, `Config.warnings` what was skipped.
* `Config.fileArgument` is the config file that a command line names.
* `Config.load` reads the config file of a command line.
-/

namespace MapStyle

namespace Setting

def name : Setting → String
  | .color _ => "color_flag"
  | .indent _ => "indent"
  | .theme _ | .brokenTheme _ => "out_theme"
  | .verbose _ => "verbose"

def optionName : Setting → String
  | .color _ => "--color/--no-color"
  | .indent _ => "--indent"
  | .theme _ | .brokenTheme _ => "--out-theme"
  | .verbose _ => "--verbose"

def value : Setting → Value
  | .color b => .bool b
  | .indent n => .int n
  | .theme s => .str s
  | .brokenTheme symbols => .broken symbols
  | .verbose b => .bool b

/-- Settings as a map, by their names. -/
def toMap (settings : List Setting) : Value :=
  .map (settings.map fun setting => (.str setting.name, setting.value))

end Setting

def LoadedConfig.toValue (config : LoadedConfig) : Value :=
  .loadedConfig (.str config.path) (Setting.toMap config.settings)

namespace Config

/-- The config file that is read if none is named. -/
def defaultFile : String := ".styleforge.json"

/-! ## Color entries -/

/-- What a color entry says: nothing if it is absent or null, else its boolean; no boolean is a
mistake. -/
def colorEntry (config : Entries) (key : String) : Option (Option Bool) :=
  match Entries.lookupName config key with
  | none | some .null => some none
  | some (.bool b) => some (some b)
  | some _ => none

/-- The color setting of a config, if the two entries have one; no answer if an entry is a mistake
or both are true. -/
def colorSetting? (config : Entries) : Option (Option Setting) :=
  match colorEntry config "--color", colorEntry config "--no-color" with
  | some color, some plain =>
    if color = some true ∧ plain = some true then none
    else if color = some true then some (some (.color true))
    else if plain = some true then some (some (.color false))
    else some none
  | _, _ => none

/-! ## Other entries -/

/-- An integer within its bound; a boolean is not an integer. -/
def boundedInt? (value : Value) (least : Option Int) : Option Int :=
  match value with
  | .int n =>
    match least with
    | some bound => if n < bound then none else some n
    | none => some n
  | _ => none

/-- The setting of one entry, if it is known and valid. -/
def entrySetting? (key : String) (value : Value) : Option Setting :=
  if key = "--indent" then (boundedInt? value (some 0)).map .indent
  else if key = "--out-theme" then
    match value with
    | .str s => if Text.isAllBlank s.toList then none else some (.theme s)
    | .broken symbols => some (.brokenTheme symbols)
    | _ => none
  else if key = "--verbose" then
    match value with
    | .bool b => some (.verbose b)
    | _ => none
  else none

/-- An entry that the color setting is taken from. -/
def isColorKey (key : Value) : Bool :=
  match key with
  | .str s => s == "--color" || s == "--no-color"
  | _ => false

/-- The setting of an entry under any key; only texts name options. -/
def keyedSetting? (entry : Value × Value) : Option Setting :=
  match entry.1 with
  | .str key => entrySetting? key entry.2
  | _ => none

/-- The entries that the color setting is not taken from. -/
def plainEntries (config : Entries) : Entries := config.filter fun entry => !isColorKey entry.1

/-! ## A whole config -/

/-- The settings of a config: color first, then the others in the order of their entries. -/
def settings (config : Entries) : List Setting :=
  ((colorSetting? config).join).toList ++ (plainEntries config).filterMap keyedSetting?

/-- What was skipped: the color entries first, then the others in their order. -/
def warnings (config : Entries) : List LogEntry :=
  (if (colorSetting? config).isNone then
    [.warning "Ignoring conflicting or invalid --color/--no-color config"] else [])
  ++ ((plainEntries config).filter fun entry => (keyedSetting? entry).isNone).map fun entry =>
    .warning ("Ignoring invalid config entry " ++ entry.1.display)

/-! ## Commands -/

/-- A command of the tool. -/
inductive Command where
  | examples
  | check
deriving DecidableEq, Repr, Inhabited

def Command.name : Command → String
  | .examples => "examples"
  | .check => "check"

/-- The settings that a command has options for, by name. -/
def Command.settingNames : Command → List String
  | .examples => ["color_flag", "indent", "out_theme"]
  | .check => ["color_flag"]

def Command.known : List Command := [.examples, .check]

/-- The entries that a command has options for. -/
def entriesFor (command : Command) (defaults : Entries) : Entries :=
  defaults.filter fun entry =>
    match entry.1 with
    | .str name => command.settingNames.contains name
    | _ => false

/-- The defaults of each command that has any. -/
def defaultMap (defaults : Entries) : Entries :=
  (Command.known.map fun command =>
    (Value.str command.name, entriesFor command defaults)).filterMap fun entry =>
      if entry.2.isEmpty then none else some (entry.1, .map entry.2)

def settingsFor (command : Command) (all : List Setting) : List Setting :=
  all.filter fun setting => command.settingNames.contains setting.name

/-- Whether a setting can be shown. -/
def isShowable : Setting → Bool
  | .brokenTheme _ => false
  | _ => true

/-- What is said about the settings that apply to a command.  What cannot be shown is not said. -/
def appliedLog (command : Command) (all : List Setting) : List LogEntry :=
  ((settingsFor command all).filter isShowable).map fun setting =>
    .info ("Config default for " ++ command.name ++ ": " ++ setting.optionName ++ " = "
      ++ setting.value.display)

/-! ## The config file -/

/-- The config in a file, and whether the file is malformed.  A missing file is an empty config. -/
def ofFile (files : FileSystem) (path : String) : Except Fault (Entries × Bool) :=
  match Document.read? files path with
  | .ok (.map entries) => .ok (entries, false)
  | .ok _ => .ok ([], true)
  | .error (.file .missing) => .ok ([], false)
  | .error (.file .badPath) => .error .badPath
  | .error (.file _) => .ok ([], true)
  | .error .undecodable => .error .undecodable
  | .error (.text (.malformed _)) => .ok ([], true)
  | .error (.text .oversizedInteger) => .error .oversizedInteger

def fileOption : String := "--config"

/-- The file that an argument names after an equals sign. -/
def attachedFile? (argument : String) : Option String :=
  (Text.afterStart? (fileOption ++ "=").toList argument.toList).map String.ofList

/-- The first config file that the arguments name, in the argument after the option or in the same
one. -/
def namedFile? : List String → Option String
  | [] => none
  | [argument] => attachedFile? argument
  | argument :: next :: rest =>
    if argument = fileOption then some next
    else (attachedFile? argument).or (namedFile? (next :: rest))

/-- The config file that the arguments name: the first one named, or the default. -/
def fileArgument (arguments : List String) : String := (namedFile? arguments).getD defaultFile

/-- The config in a file that a user named, with what was skipped in it. -/
def loadFile (files : FileSystem) (name : String) : Logged (Except Fault LoadedConfig) :=
  let path := Location.resolve files.workingDirectory name
  match ofFile files path with
  | .error fault => ⟨[], .error fault⟩
  | .ok (_, true) => ⟨[], .error (.usage .malformedConfig)⟩
  | .ok (config, false) => ⟨warnings config, .ok ⟨path, settings config⟩⟩

/-- The config of a command line, with what was skipped in it. -/
def load (files : FileSystem) (arguments : List String) : Logged (Except Fault LoadedConfig) :=
  loadFile files (fileArgument arguments)

end Config

end MapStyle
