import MapStyle.Config.Basic

/-!
# Reading the arguments

The arguments before the command may ask for more to be said; those after it are options and
positional arguments in any order.  An option that takes a value takes it from after an equals
sign, or takes the next argument, whatever that looks like; after two dashes everything is
positional.

* `CommandLine.scan` reads options and positional arguments by a table of options.
* `CommandLine.Request.read?` reads a whole command line, `CommandLine.HelpScreen.asked?` one that
  asks for help.
-/

namespace MapStyle.CommandLine

/-! ## Options in general -/

/-- What an option is: one that takes a value, or a flag. -/
inductive OptionForm (α : Type) where
  | taking (make : String → α)
  | flag (item : α)

/-- Options in the order they were given, and the positional arguments. -/
structure Scanned (α : Type) where
  options : List α
  arguments : List String
deriving Repr, Inhabited

namespace Scanned

def withOption {α : Type} (item : α) (s : Scanned α) : Scanned α :=
  { s with options := item :: s.options }

def withArgument {α : Type} (argument : String) (s : Scanned α) : Scanned α :=
  { s with arguments := argument :: s.arguments }

end Scanned

/-- An argument that is read as an option: a dash with something after it. -/
def looksLikeOption (argument : List Char) : Bool :=
  match argument with
  | '-' :: _ :: _ => true
  | _ => false

/-- Read options and positional arguments; no answer if an option is unknown, lacks its value or has
one that it does not take. -/
def scan {α : Type} (form? : String → Option (OptionForm α)) : List String → Option (Scanned α)
  | [] => some ⟨[], []⟩
  | argument :: rest =>
    if argument = "--" then some ⟨[], rest⟩
    else if looksLikeOption argument.toList then
      let (name, explicit) := Text.cutAt '=' argument.toList
      match form? (String.ofList name), explicit with
      | none, _ => none
      | some (.flag item), none => (scan form? rest).map (·.withOption item)
      | some (.flag _), some _ => none
      | some (.taking make), some text =>
        (scan form? rest).map (·.withOption (make (String.ofList text)))
      | some (.taking make), none =>
        match rest with
        | [] => none
        | text :: rest' => (scan form? rest').map (·.withOption (make text))
    else (scan form? rest).map (·.withArgument argument)

/-! ## The options of the commands -/

/-- An option of the `examples` command. -/
inductive ExamplesOption where
  | name (name : String)
  | config (path : String)
  | indent (text : String)
  | color (enabled : Bool)
  | theme (name : String)
  | help
deriving DecidableEq, Repr

def helpWord : String := "--help"

def ExamplesOption.form? (word : String) : Option (OptionForm ExamplesOption) :=
  if word = "--name" then some (.taking .name)
  else if word = "--config" then some (.taking .config)
  else if word = "--indent" then some (.taking .indent)
  else if word = "--color" then some (.flag (.color true))
  else if word = "--no-color" then some (.flag (.color false))
  else if word = "--out-theme" then some (.taking .theme)
  else if word = helpWord then some (.flag .help)
  else none

/-- An option of the `check` command. -/
inductive CheckOption where
  | config (path : String)
  | color (enabled : Bool)
  | help
deriving DecidableEq, Repr

def CheckOption.form? (word : String) : Option (OptionForm CheckOption) :=
  if word = "--config" then some (.taking .config)
  else if word = "--color" then some (.flag (.color true))
  else if word = "--no-color" then some (.flag (.color false))
  else if word = helpWord then some (.flag .help)
  else none

/-- What the `examples` command is asked for; an indent is absent if no option gives one. -/
structure ExamplesRequest where
  group : Option String
  name : Option String
  config : Option String
  indent : Option Int
  color : Option Bool
  theme : Option String
deriving DecidableEq, Repr, Inhabited

/-- What the `check` command is asked for. -/
structure CheckRequest where
  files : List String
  config : Option String
  color : Option Bool
deriving DecidableEq, Repr, Inhabited

/-- The last answer that any item of a list gives. -/
def lastOf {α β : Type} (answer : α → Option β) (items : List α) : Option β :=
  (items.filterMap answer).getLast?

/-- The indent that the options ask for, if any does: only the last text counts, and it must be an
integer. -/
def lastIndent? (options : List ExamplesOption) : Option (Option Int) :=
  match lastOf (fun o => match o with | .indent text => some text | _ => none) options with
  | none => some none
  | some text => (Text.integer? text.toList).map some

/-- The request of an `examples` command that does not ask for help: at most one group, and of each
option the last one. -/
def ExamplesRequest.read? (arguments : List String) : Option ExamplesRequest := do
  let scanned ← scan ExamplesOption.form? arguments
  guard (.help ∉ scanned.options)
  let indent ← lastIndent? scanned.options
  guard (scanned.arguments.length ≤ 1)
  return {
      group := scanned.arguments.head?
      name := lastOf (fun o => match o with | .name s => some s | _ => none) scanned.options
      config := lastOf (fun o => match o with | .config s => some s | _ => none) scanned.options
      indent := indent
      color := lastOf (fun o => match o with | .color b => some b | _ => none) scanned.options
      theme := lastOf (fun o => match o with | .theme s => some s | _ => none) scanned.options }

/-- The request of a `check` command that does not ask for help: at least one file, and of each
option the last one. -/
def CheckRequest.read? (arguments : List String) : Option CheckRequest := do
  let scanned ← scan CheckOption.form? arguments
  guard (.help ∉ scanned.options)
  guard (!scanned.arguments.isEmpty)
  return {
      files := scanned.arguments
      config := lastOf (fun o => match o with | .config s => some s | _ => none) scanned.options
      color := lastOf (fun o => match o with | .color b => some b | _ => none) scanned.options }

/-! ## The whole command line -/

/-- What a command line asks for. -/
inductive Action where
  | examples (request : ExamplesRequest)
  | check (request : CheckRequest)
deriving DecidableEq, Repr

/-- A command, and whether the command line itself asks for more to be said. -/
structure Request where
  verbose : Bool
  action : Action
deriving DecidableEq, Repr

/-- An argument before the command that asks for more to be said. -/
def isVerboseFlag (argument : List Char) : Bool :=
  match argument with
  | '-' :: 'v' :: more => more.all (· == 'v')
  | _ => argument == "--verbose".toList

/-- The arguments from the command on, and whether more is to be said. -/
def splitCommand : List String → Option (Bool × List String)
  | [] => none
  | argument :: rest =>
    if argument = "--" then some (false, rest)
    else if looksLikeOption argument.toList then
      if isVerboseFlag argument.toList then
        (splitCommand rest).map fun found => (true, found.2)
      else none
    else some (false, argument :: rest)

/-- What a command line asks for, if it can be understood. -/
def Request.read? (arguments : List String) : Option Request := do
  let (verbose, rest) ← splitCommand arguments
  match rest with
  | [] => none
  | command :: rest' =>
    if command = Config.Command.examples.name then
      (ExamplesRequest.read? rest').map fun request => ⟨verbose, .examples request⟩
    else if command = Config.Command.check.name then
      (CheckRequest.read? rest').map fun request => ⟨verbose, .check request⟩
    else none

/-! ## Help -/

/-- A help screen: about the program, or about one of its commands. -/
inductive HelpScreen where
  | ofProgram
  | ofCommand (command : Config.Command)
deriving DecidableEq, Repr, Inhabited

/-- Whether the options before the command ask for help.  All of them must be known. -/
def HelpScreen.isOfProgram (arguments : List String) : Bool :=
  let options := arguments.takeWhile fun argument =>
    argument != "--" && looksLikeOption argument.toList
  options.contains helpWord &&
    options.all fun option => option == helpWord || isVerboseFlag option.toList

/-- The help screen of the command, if its options ask for it.  They must be such that they can be
read, but neither their values nor the positional arguments are looked at. -/
def HelpScreen.ofCommand? (arguments : List String) : Option HelpScreen := do
  let (_, rest) ← splitCommand arguments
  match rest with
  | [] => none
  | command :: rest' =>
    if command = Config.Command.examples.name then do
      let scanned ← scan ExamplesOption.form? rest'
      guard (.help ∈ scanned.options)
      return .ofCommand .examples
    else if command = Config.Command.check.name then do
      let scanned ← scan CheckOption.form? rest'
      guard (.help ∈ scanned.options)
      return .ofCommand .check
    else none

/-- The help screen that a command line asks for. -/
def HelpScreen.asked? (arguments : List String) : Option HelpScreen :=
  if isOfProgram arguments then some .ofProgram else ofCommand? arguments

end MapStyle.CommandLine
