import MapStyle.Proofs.CommandLine.Requests

/-!
# Which config file a command line names

The config file is found before the arguments are read as options, by a search that knows nothing of
options: it takes the first argument that looks as if it named a config file.  A command, however,
is bound to the last file that its own option names.

* `namedFile?_of_scans`: where nothing but the option looks as if it named a config file, the search
  finds the first file that the option names.
* `fileArgument_of_read` compares the two on whole command lines: first against last.
-/

namespace MapStyle

open CommandLine

/-! ## The search -/

namespace Config

/-- An argument that the search takes for the option, whatever it was given for. -/
def Names (argument : String) : Prop :=
  argument = fileOption ∨ (attachedFile? argument).isSome = true

instance (argument : String) : Decidable (Names argument) :=
  inferInstanceAs (Decidable (_ ∨ _))

variable {argument word : String} {rest : List String}

/-- No file is attached to an argument without an equals sign. -/
theorem attachedFile?_of_bare (bare : '=' ∉ argument.toList) : attachedFile? argument = none := by
  unfold attachedFile? Text.afterStart?
  rw [if_neg]
  · rfl
  · intro isStart
    obtain ⟨after, same⟩ := List.isPrefixOf_iff_prefix.mp isStart
    exact bare (same ▸ List.mem_append_left after (by decide))

/-- What is attached to the option is a file. -/
theorem attachedFile?_attached (bare : '=' ∉ word.toList) (text : String) :
    attachedFile? (attached word text) = if word = fileOption then some text else none := by
  have noSign : '=' ∉ fileOption.toList := by decide
  have start : (fileOption ++ "=").toList = fileOption.toList ++ ['='] := String.toList_append
  have line : ∀ w : String, w.toList ++ '=' :: text.toList = (w.toList ++ ['=']) ++ text.toList :=
    fun w => by rw [List.append_assoc, List.singleton_append]
  unfold attachedFile? Text.afterStart?
  rw [start, toList_attached]
  by_cases isOption : word = fileOption
  · have isStart : (fileOption.toList ++ ['=']).isPrefixOf
        (fileOption.toList ++ '=' :: text.toList) = true :=
      List.isPrefixOf_iff_prefix.mpr ⟨text.toList, (line fileOption).symm⟩
    rw [if_pos isOption, isOption, if_pos isStart, line, List.drop_left, Option.map_some,
      String.ofList_toList]
  · rw [if_neg isOption, if_neg]
    · rfl
    · intro isStart
      obtain ⟨after, same⟩ := List.isPrefixOf_iff_prefix.mp isStart
      rw [List.append_assoc, List.singleton_append] at same
      have cut := Text.cutAt_append noSign after
      rw [same, Text.cutAt_append bare] at cut
      exact isOption (String.toList_inj.mp (congrArg Prod.fst cut))

theorem namedFile?_option (file : String) (rest : List String) :
    namedFile? (fileOption :: file :: rest) = some file := by
  rw [namedFile?, if_pos rfl]

theorem namedFile?_cons_of_ne (notOption : argument ≠ fileOption) (rest : List String) :
    namedFile? (argument :: rest) = (attachedFile? argument).or (namedFile? rest) := by
  cases rest with
  | nil => rw [namedFile?, namedFile?, Option.or_none]
  | cons next rest => rw [namedFile?, if_neg notOption]

theorem namedFile?_cons_of_not_names (plain : ¬ Names argument) (rest : List String) :
    namedFile? (argument :: rest) = namedFile? rest := by
  have nothing : attachedFile? argument = none :=
    Option.not_isSome_iff_eq_none.mp fun isAttached => plain (Or.inr isAttached)
  rw [namedFile?_cons_of_ne (fun isOption => plain (Or.inl isOption)), nothing, Option.none_or]

theorem not_names_of_bare (bare : '=' ∉ argument.toList) (notOption : argument ≠ fileOption) :
    ¬ Names argument := by
  rintro (isOption | isAttached)
  · exact notOption isOption
  · rw [attachedFile?_of_bare bare] at isAttached
    cases isAttached

theorem attached_ne_option (word text : String) : attached word text ≠ fileOption := fun same => by
  have noSign : '=' ∉ fileOption.toList := by decide
  rw [← same, toList_attached] at noSign
  exact noSign (List.mem_append_right _ List.mem_cons_self)

/-- Arguments that do not look as if they named a config file name none. -/
theorem namedFile?_append (plain : ∀ argument ∈ rest, ¬ Names argument) (others : List String) :
    namedFile? (rest ++ others) = namedFile? others := by
  induction rest with
  | nil => rfl
  | cons argument rest ih =>
      rw [List.cons_append, namedFile?_cons_of_not_names (plain argument List.mem_cons_self)]
      exact ih fun argument' member => plain argument' (List.mem_cons_of_mem _ member)

end Config

/-! ## Options that take a config file -/

namespace CommandLine

open Config

section Tables

variable {α : Type} {form? : String → Option (OptionForm α)} {file? : α → Option String}

/-- A word that takes the next argument as its value. -/
def takesNext (form? : String → Option (OptionForm α)) (word : String) : Bool :=
  !word.toList.contains '=' &&
    match form? word with
    | some (.taking _) => true
    | _ => false

/-- The texts of a line that are read as something else than options: as the value of the option
before, or as positional.  The flag says whether the first argument is due as a value. -/
def plainTexts (form? : String → Option (OptionForm α)) : Bool → List String → List String
  | _, [] => []
  | true, text :: rest => text :: plainTexts form? false rest
  | false, argument :: rest =>
    if argument = "--" then rest
    else if looksLikeOption argument.toList then plainTexts form? (takesNext form? argument) rest
    else argument :: plainTexts form? false rest

section PlainTexts

variable {word text argument : String} {rest : List String} {item : α} {make : String → α}

theorem plainTexts_separator (rest : List String) :
    plainTexts form? false ("--" :: rest) = rest := by
  rw [plainTexts, if_pos rfl]

theorem plainTexts_flag (isOption : IsOption word) (form : form? word = some (.flag item)) :
    plainTexts form? false (word :: rest) = plainTexts form? false rest := by
  have free : takesNext form? word = false := by rw [takesNext, form, Bool.and_false]
  rw [plainTexts, if_neg isOption.1, if_pos isOption.2, free]

theorem plainTexts_attached (isOption : IsOption (attached word text)) :
    plainTexts form? false (attached word text :: rest) = plainTexts form? false rest := by
  have sign : (attached word text).toList.contains '=' = true := by
    rw [toList_attached, List.contains_iff_mem]
    exact List.mem_append_right _ List.mem_cons_self
  have free : takesNext form? (attached word text) = false := by
    rw [takesNext, sign, Bool.not_true, Bool.false_and]
  rw [plainTexts, if_neg isOption.1, if_pos isOption.2, free]

theorem plainTexts_separate (isOption : IsOption word) (bare : '=' ∉ word.toList)
    (form : form? word = some (.taking make)) :
    plainTexts form? false (word :: text :: rest) = text :: plainTexts form? false rest := by
  have noSign : word.toList.contains '=' = false := by
    rwa [← Bool.not_eq_true, List.contains_iff_mem]
  have takes : takesNext form? word = true := by rw [takesNext, noSign, form]; rfl
  rw [plainTexts, if_neg isOption.1, if_pos isOption.2, takes, plainTexts]

theorem plainTexts_positional (plain : looksLikeOption argument.toList = false) :
    plainTexts form? false (argument :: rest) = argument :: plainTexts form? false rest := by
  have notSeparator : argument ≠ "--" := by
    rintro rfl
    cases plain
  rw [plainTexts, if_neg notSeparator, if_neg (Bool.eq_false_iff.mp plain)]

end PlainTexts

/-- What an option tells of a config file: its value if it is the option for one, else nothing. -/
def Tells (file? : α → Option String) (word : String) : OptionForm α → Prop
  | .taking make => ∀ text, file? (make text) = if word = fileOption then some text else none
  | .flag item => file? item = none ∧ word ≠ fileOption

/-- A table in which only the option for a config file tells one. -/
def TakesConfig (form? : String → Option (OptionForm α)) (file? : α → Option String) : Prop :=
  ∀ ⦃word form⦄, form? word = some form → Tells file? word form

/-- The search finds the first file that the option names, if nothing else looks as if it named
one. -/
theorem namedFile?_of_scans (table : TakesConfig form? file?) {arguments : List String}
    {scanned : Scanned α} (scans : Scans form? arguments scanned)
    (plain : ∀ text ∈ plainTexts form? false arguments, ¬ Names text) :
    namedFile? arguments = (scanned.options.filterMap file?).head? := by
  induction scans with
  | done => rfl
  -- behind the separator there are no options, but the search goes on there
  | separator rest =>
      rw [plainTexts_separator] at plain
      have separator : ¬ Names "--" := by decide
      rw [namedFile?_cons_of_not_names separator, ← List.append_nil rest, namedFile?_append plain]
      rfl
  | @flag word item rest s isOption bare form _ ih =>
      rw [plainTexts_flag isOption form] at plain
      obtain ⟨nothing, notOption⟩ := table form
      rw [namedFile?_cons_of_not_names (not_names_of_bare bare notOption), ih plain,
        Scanned.withOption, List.filterMap_cons_none nothing]
  | @attached word text make rest s isOption bare form _ ih =>
      rw [plainTexts_attached isOption] at plain
      rw [namedFile?_cons_of_ne (attached_ne_option word text), attachedFile?_attached bare, ih plain,
        Scanned.withOption, List.filterMap_cons, table form]
      split <;> rfl
  | @separate word text make rest s isOption bare form _ ih =>
      rw [plainTexts_separate isOption bare form, List.forall_mem_cons] at plain
      rw [Scanned.withOption, List.filterMap_cons, table form]
      -- the value of another option is a text that the search looks at
      by_cases isConfig : word = fileOption
      · rw [if_pos isConfig, isConfig, namedFile?_option]
        rfl
      · rw [if_neg isConfig, namedFile?_cons_of_not_names (not_names_of_bare bare isConfig),
          namedFile?_cons_of_not_names plain.1, ih plain.2]
  | @positional argument rest s isPlain _ ih =>
      rw [plainTexts_positional isPlain, List.forall_mem_cons] at plain
      rw [namedFile?_cons_of_not_names plain.1, ih plain.2]
      rfl

end Tables

/-! ## The tables of the commands -/

theorem takesConfig_examples : TakesConfig ExamplesOption.form? ExamplesOption.config? := by
  intro word form found
  have row := ExamplesOption.form?_cases found
  simp only [List.mem_cons, Prod.mk.injEq, List.not_mem_nil, or_false] at row
  rcases row with ⟨rfl, rfl⟩ | ⟨rfl, rfl⟩ | ⟨rfl, rfl⟩ | ⟨rfl, rfl⟩ | ⟨rfl, rfl⟩ | ⟨rfl, rfl⟩ |
    ⟨rfl, rfl⟩
  · exact fun _ => rfl
  · exact fun _ => rfl
  · exact fun _ => rfl
  · exact ⟨rfl, by decide⟩
  · exact ⟨rfl, by decide⟩
  · exact fun _ => rfl
  · exact ⟨rfl, by decide⟩

theorem takesConfig_check : TakesConfig CheckOption.form? CheckOption.config? := by
  intro word form found
  have row := CheckOption.form?_cases found
  simp only [List.mem_cons, Prod.mk.injEq, List.not_mem_nil, or_false] at row
  rcases row with ⟨rfl, rfl⟩ | ⟨rfl, rfl⟩ | ⟨rfl, rfl⟩ | ⟨rfl, rfl⟩
  · exact fun _ => rfl
  · exact ⟨rfl, by decide⟩
  · exact ⟨rfl, by decide⟩
  · exact ⟨rfl, by decide⟩

/-! ## Whole command lines -/

/-- The config file that the command of an action is bound to, if one is given. -/
def Action.config : Action → Option String
  | .examples request => request.config
  | .check request => request.config

/-- The config files that the options of a command line name, in their order. -/
def configsGiven (arguments : List String) : List String :=
  match splitCommand arguments with
  | some (_, command :: rest) =>
    if command = Command.examples.name then
      ((scan ExamplesOption.form? rest).map fun s => s.options.filterMap (·.config?)).getD []
    else ((scan CheckOption.form? rest).map fun s => s.options.filterMap (·.config?)).getD []
  | _ => []

/-- The texts after the command that are read as values of options or as positional. -/
def textsGiven (arguments : List String) : List String :=
  match splitCommand arguments with
  | some (_, command :: rest) =>
    if command = Command.examples.name then plainTexts ExamplesOption.form? false rest
    else plainTexts CheckOption.form? false rest
  | _ => []

/-- A flag that asks for more to be said names no config file. -/
theorem not_names_of_isVerboseFlag {argument : String}
    (isFlag : isVerboseFlag argument.toList = true) : ¬ Names argument := by
  unfold isVerboseFlag at isFlag
  split at isFlag
  · next more same =>
      have bare : '=' ∉ argument.toList := by
        rw [same]
        intro member
        have inMore : '=' ∈ more := by simpa using member
        exact absurd (List.all_eq_true.mp isFlag '=' inMore) (by decide)
      refine not_names_of_bare bare fun isOption => ?_
      rw [isOption] at same
      cases same
  · obtain rfl : argument = "--verbose" := String.toList_inj.mp (eq_of_beq isFlag)
    decide

/-- Nothing before the command names a config file. -/
theorem splitCommand_eq_some {arguments rest : List String} {verbose : Bool}
    (splits : splitCommand arguments = some (verbose, rest)) :
    ∃ before, arguments = before ++ rest ∧ ∀ argument ∈ before, ¬ Names argument := by
  induction arguments generalizing verbose with
  | nil => cases splits
  | cons argument others ih =>
      rw [splitCommand] at splits
      split_ifs at splits with isSeparator looks isFlag
      · cases splits
        refine ⟨[argument], rfl, List.forall_mem_singleton.mpr ?_⟩
        rw [isSeparator]
        decide
      · obtain ⟨⟨more, rest'⟩, splitsRest, same⟩ := Option.map_eq_some_iff.mp splits
        cases same
        obtain ⟨before, rfl, plain⟩ := ih splitsRest
        exact ⟨argument :: before, rfl,
          List.forall_mem_cons.mpr ⟨not_names_of_isVerboseFlag isFlag, plain⟩⟩
      · cases splits
        exact ⟨[], rfl, List.forall_mem_nil _⟩

theorem configsGiven_examples {arguments rest : List String} {verbose : Bool}
    {s : Scanned ExamplesOption}
    (splits : splitCommand arguments = some (verbose, Command.examples.name :: rest))
    (scans : Scans ExamplesOption.form? rest s) :
    configsGiven arguments = s.options.filterMap ExamplesOption.config? := by
  rw [configsGiven, splits]
  dsimp only
  rw [if_pos rfl, scan_eq_some_iff.mpr scans]
  rfl

theorem configsGiven_check {arguments rest : List String} {verbose : Bool}
    {s : Scanned CheckOption}
    (splits : splitCommand arguments = some (verbose, Command.check.name :: rest))
    (scans : Scans CheckOption.form? rest s) :
    configsGiven arguments = s.options.filterMap CheckOption.config? := by
  have other : Command.check.name ≠ Command.examples.name := by decide
  rw [configsGiven, splits]
  dsimp only
  rw [if_neg other, scan_eq_some_iff.mpr scans]
  rfl

/-- A command is bound to the last file that its option names. -/
theorem config_of_read {arguments : List String} {request : Request}
    (reads : Request.read? arguments = some request) :
    request.action.config = (configsGiven arguments).getLast? := by
  rcases Request.read?_cases reads with ⟨rest, asked, splits, readsRest, same⟩ |
    ⟨rest, asked, splits, readsRest, same⟩
  · obtain ⟨s, scans, -, -, indent, -, isAsked⟩ := ExamplesRequest.read?_eq_some_iff.mp readsRest
    rw [configsGiven_examples splits scans, same, isAsked]
    rfl
  · obtain ⟨s, scans, -, -, isAsked⟩ := CheckRequest.read?_eq_some_iff.mp readsRest
    rw [configsGiven_check splits scans, same, isAsked]
    rfl

/-- The search finds the first file that the option of the command names, if none of the other texts
looks as if it named one. -/
theorem namedFile?_of_read {arguments : List String} {request : Request}
    (reads : Request.read? arguments = some request)
    (plain : ∀ text ∈ textsGiven arguments, ¬ Names text) :
    namedFile? arguments = (configsGiven arguments).head? := by
  have noCommand : ¬ Names Command.examples.name ∧ ¬ Names Command.check.name := by decide
  rcases Request.read?_cases reads with ⟨rest, asked, splits, readsRest, -⟩ |
    ⟨rest, asked, splits, readsRest, -⟩
  · obtain ⟨s, scans, -⟩ := ExamplesRequest.read?_eq_some_iff.mp readsRest
    obtain ⟨before, same, plainBefore⟩ := splitCommand_eq_some splits
    rw [textsGiven, splits] at plain
    dsimp only at plain
    rw [if_pos rfl] at plain
    rw [configsGiven_examples splits scans, same, namedFile?_append plainBefore,
      namedFile?_cons_of_not_names noCommand.1]
    exact namedFile?_of_scans takesConfig_examples scans plain
  · obtain ⟨s, scans, -⟩ := CheckRequest.read?_eq_some_iff.mp readsRest
    obtain ⟨before, same, plainBefore⟩ := splitCommand_eq_some splits
    have other : Command.check.name ≠ Command.examples.name := by decide
    rw [textsGiven, splits] at plain
    dsimp only at plain
    rw [if_neg other] at plain
    rw [configsGiven_check splits scans, same, namedFile?_append plainBefore,
      namedFile?_cons_of_not_names noCommand.2]
    exact namedFile?_of_scans takesConfig_check scans plain

/-- On a command line that is accepted, the config file that is read is the first one that the
option of the command names, if none of the other texts looks as if it named one; but the command is
bound to the last.  So the two agree if the option is given at most once. -/
theorem fileArgument_of_read {arguments : List String} {request : Request}
    (reads : Request.read? arguments = some request)
    (plain : ∀ text ∈ textsGiven arguments, ¬ Names text) :
    Config.fileArgument arguments = (configsGiven arguments).head?.getD defaultFile ∧
      request.action.config = (configsGiven arguments).getLast? ∧
      ((configsGiven arguments).length ≤ 1 →
        Config.fileArgument arguments = request.action.config.getD defaultFile) := by
  have found := namedFile?_of_read reads plain
  have bound := config_of_read reads
  refine ⟨by rw [Config.fileArgument, found], bound, fun once => ?_⟩
  rw [Config.fileArgument, found, bound]
  match configsGiven arguments, once with
  | [], _ => rfl
  | [file], _ => rfl
  | _ :: _ :: _, many => exact absurd many (by simp)

/-- One file that is attached to the option, in front of a file to check. -/
theorem fileArgument_of_read_once :
    let arguments := ["-v", "check", "--config=a.json", "--no-color", "style.json"]
    ∃ request, Request.read? arguments = some request ∧
      (∀ text ∈ textsGiven arguments, ¬ Names text) ∧
      Config.fileArgument arguments = request.action.config.getD defaultFile := by
  intro arguments
  refine ⟨⟨true, .check ⟨["style.json"], some "a.json", some false⟩⟩, by decide, by decide, ?_⟩
  exact (fileArgument_of_read (by decide) (by decide)).2.2 (by decide)

/-- The config file that is read is not the one that the command is bound to if the option is given
twice, or if the value of another option looks like the option. -/
theorem fileArgument_ne_bound :
    (Config.fileArgument ["examples", "--config", "a.json", "--config", "b.json"] = "a.json" ∧
      (Request.read? ["examples", "--config", "a.json", "--config", "b.json"]).map
        (·.action.config) = some (some "b.json")) ∧
    Config.fileArgument ["examples", "--name", "--config", "basic"] = "basic" ∧
      (Request.read? ["examples", "--name", "--config", "basic"]).map (·.action.config) =
        some none := by
  decide

end CommandLine

end MapStyle
