import Mathlib.Data.List.Forall2
import Mathlib.Data.List.MinMax
import Mathlib.Order.Nat
import MapStyle.Proofs.CommandLine.ConfigOption
import MapStyle.Proofs.CommandLine.QuietRuns
import MapStyle.Proofs.Report.Printing

/-!
# Checking many files

A run that checks many files is put together from the runs that check one of them each.

* `Composed` says how: the greatest exit code, and either all reports or the message about the first
  file that was rejected.
* `Check.Reportable` are the files about which nothing is found that no stream takes.
* `checkOutcome_composed` goes along the files, from the last one to the first.
* `run_check_composed` is the statement for whole command lines, and `run_check_ends_early` a run
  that comes to no report.
-/

namespace MapStyle

namespace Check

variable {system : FileSystem} {path : String} {paths : List String} {document : Value}
  {fault : Fault}

theorem documents_cons_of_ok (loads : Document.load system path = .ok document) :
    (documents system (path :: paths)).result =
      (documents system paths).result.map ((path, document) :: ·) := by
  rw [documents, loads]

theorem documents_cons_of_error (rejects : Document.load system path = .error fault) :
    (documents system (path :: paths)).result = .error fault := by
  rw [documents, rejects]

/-- Files that can be loaded are loaded one by one. -/
theorem documents_of_load {loaded : List Value}
    (loads : List.Forall₂ (fun path document => Document.load system path = .ok document) paths
      loaded) :
    (documents system paths).result = .ok (paths.zip loaded) := by
  induction loads with
  | nil => rfl
  | cons load _ ih =>
      rw [documents_cons_of_ok load, ih]
      rfl

/-- If each file can be loaded, all of them are, and what is in each of them is among what is
loaded. -/
theorem exists_documents
    (each : ∀ path ∈ paths, ∃ document, Document.load system path = .ok document) :
    ∃ loaded, (documents system paths).result = .ok loaded ∧
      ∀ path ∈ paths, ∀ document, Document.load system path = .ok document →
        (path, document) ∈ loaded := by
  induction paths with
  | nil => exact ⟨[], rfl, nofun⟩
  | cons path paths ih =>
      obtain ⟨⟨first, loads⟩, rest⟩ := List.forall_mem_cons.mp each
      obtain ⟨others, loaded, holds⟩ := ih rest
      refine ⟨(path, first) :: others, ?_, List.forall_mem_cons.mpr
        ⟨fun document isFirst => ?_, fun other member document isOther =>
          List.mem_cons_of_mem _ (holds other member document isOther)⟩⟩
      · rw [documents_cons_of_ok loads, loaded]
        rfl
      · cases loads.symm.trans isFirst
        exact List.mem_cons_self

/-- The first file that is rejected decides, whatever else is in the files before it. -/
theorem documents_of_rejected {before after : List String}
    (each : ∀ other ∈ before, ∃ document, Document.load system other = .ok document)
    (rejects : Document.load system path = .error fault) :
    (documents system (before ++ path :: after)).result = .error fault := by
  induction before with
  | nil => exact documents_cons_of_error rejects
  | cons other before ih =>
      obtain ⟨⟨document, loads⟩, rest⟩ := List.forall_mem_cons.mp each
      rw [List.cons_append, documents_cons_of_ok loads, ih rest]
      rfl

/-- What is loaded depends on nothing but the files that are checked. -/
theorem documents_congr {system' : FileSystem}
    (same : ∀ path ∈ paths, system'.read path = system.read path) :
    (documents system' paths).result = (documents system paths).result := by
  induction paths with
  | nil => rfl
  | cons path paths ih =>
      have loads : Document.load system' path = Document.load system path := by
        rw [Document.load, Document.load, Document.read?, Document.read?,
          same path List.mem_cons_self]
      have rest := ih fun other member => same other (List.mem_cons_of_mem path member)
      cases document : Document.load system path with
      | error fault =>
          rw [documents_cons_of_error document, documents_cons_of_error (loads.trans document)]
      | ok v =>
          rw [documents_cons_of_ok document, documents_cons_of_ok (loads.trans document), rest]

/-- What is found in a file can be shown, if the file can be loaded. -/
def Reportable (system : FileSystem) (path : String) : Prop :=
  ∀ document, Document.load system path = .ok document → isShowable document = true

instance (system : FileSystem) (path : String) : Decidable (Reportable system path) :=
  match loads : Document.load system path with
  | .ok document => decidable_of_iff (isShowable document = true)
      ⟨fun showable _ same => Except.ok.inj (loads.symm.trans same) ▸ showable, fun all => all _ loads⟩
  | .error _ => isTrue fun _ same => nomatch loads.symm.trans same

/-- Whether all that is found in documents can be shown. -/
def areShowable (documents : List (String × Value)) : Bool :=
  documents.all fun document => isShowable document.2

theorem problemCount_cons (result : CheckResult) (results : List CheckResult) :
    problemCount (result :: results) = result.problems.length + problemCount results := by
  rw [problemCount, List.flatMap_cons, List.length_append, problemCount]

end Check

namespace CommandLine

open Config

/-! ## How a check ends -/

variable {columns : Nat} {stderr : String}

/-- How a run ends that reports on files without color and is not asked to say more. -/
def reported (columns : Nat) (stderr : String) (results : List CheckResult) : Outcome :=
  ⟨if Check.problemCount results = 0 then 0 else 1,
    String.ofList (results.flatMap (Check.reportChars columns)), stderr, none, false, none⟩

/-- How a run ends by what loading its files comes to. -/
def checkOutcome (columns : Nat) (stderr : String) :
    Except Fault (List (String × Value)) → Except Fault Outcome
  | .ok documents =>
    if Check.areShowable documents then .ok (reported columns stderr (Check.results documents))
    else .error (.badMarkup .halfCharacter)
  | .error (.usage problem) => .ok (rejected stderr problem)
  | .error fault => .error fault

theorem exitCode_reported_lt (results : List CheckResult) :
    (reported columns stderr results).exitCode < usageExit := by
  dsimp only [reported, usageExit]
  split_ifs <;> decide

theorem exitCode_reported_cons (result : CheckResult) (results : List CheckResult) :
    (reported columns stderr (result :: results)).exitCode =
      max (reported columns stderr [result]).exitCode
        (reported columns stderr results).exitCode := by
  have single : Check.problemCount [result] = result.problems.length := by
    rw [Check.problemCount_cons]
    rfl
  dsimp only [reported]
  rw [Check.problemCount_cons, single]
  split_ifs <;> omega

theorem stdout_reported_cons (result : CheckResult) (results : List CheckResult) :
    (reported columns stderr (result :: results)).stdout =
      (reported columns stderr [result]).stdout ++ (reported columns stderr results).stdout := by
  dsimp only [reported]
  rw [← String.ofList_append, ← List.flatMap_append]
  rfl

/-- A check that comes to an end has reports or a file that was rejected. -/
theorem checkOutcome_cases {loaded : Except Fault (List (String × Value))} {outcome : Outcome}
    (ends : checkOutcome columns stderr loaded = .ok outcome) :
    (∃ documents, loaded = .ok documents ∧ Check.areShowable documents = true ∧
      outcome = reported columns stderr (Check.results documents)) ∨
      ∃ problem, loaded = .error (.usage problem) ∧ outcome = rejected stderr problem := by
  unfold checkOutcome at ends
  split at ends
  · next documents =>
      split_ifs at ends with showable
      cases ends
      exact Or.inl ⟨documents, rfl, showable, rfl⟩
  · next problem =>
      cases ends
      exact Or.inr ⟨problem, rfl, rfl⟩
  · cases ends

/-- A line that no stream takes ends a check that has loaded all its files. -/
theorem checkOutcome_of_not_showable {documents : List (String × Value)}
    (hides : Check.areShowable documents = false) :
    checkOutcome columns stderr (.ok documents) = .error (.badMarkup .halfCharacter) := by
  rw [checkOutcome, if_neg (Bool.not_eq_true _ ▸ hides)]

/-- What the check of one file comes to: no problem, problems, or a file that is rejected. -/
inductive Judged (system : FileSystem) (stderr file : String) : Outcome → Prop
  | clean {document : Value} :
    Document.load system file = .ok document → Check.problems document = [] →
    Judged system stderr file
      ⟨0, String.ofList (Check.reportChars system.columns ⟨file, []⟩), stderr, none, false, none⟩
  | faulty {document : Value} :
    Document.load system file = .ok document → Check.problems document ≠ [] →
    Judged system stderr file
      ⟨1, String.ofList (Check.reportChars system.columns ⟨file, Check.problems document⟩), stderr,
        none, false, none⟩
  | rejected {problem : UsageProblem} :
    Document.load system file = .error (.usage problem) →
    Judged system stderr file ⟨2, "", stderr, some problem.message, false, none⟩

/-- How a run over many files is put together from the runs over one of them each. -/
structure Composed (alone : List Outcome) (whole : Outcome) : Prop where
  exitCode : whole.exitCode = (alone.map Outcome.exitCode).foldr max 0
  printed : (∀ outcome ∈ alone, outcome.exitCode ≠ usageExit) →
    whole.usage = none ∧ whole.stdout = String.join (alone.map Outcome.stdout)
  rejected : ∀ first, alone.find? (fun outcome => outcome.exitCode = usageExit) = some first →
    whole.stdout = "" ∧ whole.usage = first.usage

namespace Composed

variable {first whole joined : Outcome} {others : List Outcome}

theorem exitCode_le {bound : Nat} (composed : Composed others whole)
    (bounded : whole.exitCode ≤ bound) : ∀ outcome ∈ others, outcome.exitCode ≤ bound := by
  intro outcome member
  have greatest : outcome.exitCode ≤ (others.map Outcome.exitCode).foldr max 0 :=
    List.le_max_of_le' 0 (List.mem_map_of_mem member) le_rfl
  rw [← composed.exitCode] at greatest
  exact greatest.trans bounded

/-- A file that is rejected decides the run. -/
theorem cons_rejected (code : first.exitCode = usageExit) (silent : first.stdout = "")
    (bounded : ∀ outcome ∈ others, outcome.exitCode ≤ usageExit) :
    Composed (first :: others) first where
  exitCode := by
    have greatest : (others.map Outcome.exitCode).foldr max 0 ≤ usageExit :=
      List.max_le_of_forall_le _ _ (List.forall_mem_map.mpr bounded)
    rw [List.map_cons, List.foldr_cons, code]
    exact (max_eq_left greatest).symm
  printed := fun accepted => absurd code (accepted first List.mem_cons_self)
  rejected := by
    intro found isFirst
    rw [List.find?_cons, decide_eq_true code] at isFirst
    cases isFirst
    exact ⟨silent, rfl⟩

/-- A file that is not rejected leaves the decision to the others if one of them is. -/
theorem cons_of_rejected (composed : Composed others whole) (rejected : whole.usage ≠ none)
    (code : first.exitCode < usageExit) (codeWhole : whole.exitCode = usageExit) :
    Composed (first :: others) whole where
  exitCode := by
    rw [List.map_cons, List.foldr_cons, ← composed.exitCode]
    omega
  printed := fun accepted =>
    absurd (composed.printed fun outcome member =>
      accepted outcome (List.mem_cons_of_mem first member)).1 rejected
  rejected := by
    intro found isFirst
    rw [List.find?_cons, decide_eq_false code.ne] at isFirst
    exact composed.rejected found isFirst

/-- If no file is rejected, the reports are put one after the other. -/
theorem cons_accepted (composed : Composed others whole) (code : first.exitCode < usageExit)
    (codeWhole : whole.exitCode < usageExit)
    (exitCode : joined.exitCode = max first.exitCode whole.exitCode)
    (stdout : joined.stdout = first.stdout ++ whole.stdout) (usage : joined.usage = none) :
    Composed (first :: others) joined where
  exitCode := by
    rw [List.map_cons, List.foldr_cons, ← composed.exitCode]
    exact exitCode
  printed := by
    intro accepted
    have rest := composed.printed fun outcome member =>
      accepted outcome (List.mem_cons_of_mem first member)
    refine ⟨usage, ?_⟩
    rw [stdout, rest.2, List.map_cons, String.join_cons]
  rejected := by
    intro found isFirst
    rw [List.find?_cons, decide_eq_false code.ne] at isFirst
    have codeFound : found.exitCode = usageExit := by simpa using List.find?_some isFirst
    have bounded := composed.exitCode_le le_rfl found (List.mem_of_find?_eq_some isFirst)
    omega

end Composed

/-- How the run over one file ends. -/
theorem judged_of_handled {system : FileSystem} {file : String} (stderr : String)
    (handled : Document.Handled (Document.load system file))
    (reportable : Check.Reportable system file) :
    ∃ outcome, checkOutcome system.columns stderr (Check.documents system [file]).result =
        .ok outcome ∧
      Judged system stderr file outcome := by
  rcases handled with ⟨document, loads⟩ | ⟨problem, rejects⟩
  · have showable : Check.areShowable [(file, document)] = true :=
      List.all_eq_true.mpr (List.forall_mem_singleton.mpr (reportable document loads))
    have ends : checkOutcome system.columns stderr (.ok [(file, document)]) = .ok _ :=
      if_pos showable
    rw [Check.documents_cons_of_ok loads]
    refine ⟨_, ends, ?_⟩
    have text (result : CheckResult) :
        [result].flatMap (Check.reportChars system.columns) =
          Check.reportChars system.columns result := List.append_nil _
    rw [Check.results, List.map_singleton, reported, text, Check.problemCount_cons]
    cases problems : Check.problems document with
    | nil => exact .clean loads problems
    | cons first others =>
        have judged : Judged system stderr file _ :=
          .faulty loads (by rw [problems]; exact List.cons_ne_nil _ _)
        rwa [problems] at judged
  · rw [Check.documents_cons_of_error rejects]
    exact ⟨_, rfl, .rejected rejects⟩

/-- One more file in front: what it comes to alone is put together with what the others come to. -/
theorem composed_cons {system : FileSystem} {file : String} {files : List String}
    {first rest : Outcome} {others : List Outcome}
    (handled : Document.Handled (Document.load system file))
    (firstEnds : checkOutcome columns stderr (Check.documents system [file]).result = .ok first)
    (restEnds : checkOutcome columns stderr (Check.documents system files).result = .ok rest)
    (composed : Composed others rest) :
    ∃ whole, checkOutcome columns stderr (Check.documents system (file :: files)).result =
        .ok whole ∧
      Composed (first :: others) whole := by
  have restCases := checkOutcome_cases restEnds
  rcases handled with ⟨document, loads⟩ | ⟨problem, rejects⟩
  · rw [Check.documents_cons_of_ok loads] at firstEnds
    obtain ⟨_, same, showable, rfl⟩ | ⟨_, absurd, -⟩ := checkOutcome_cases firstEnds
    swap
    · cases absurd
    cases same
    have codeFirst : (reported columns stderr [⟨file, Check.problems document⟩]).exitCode <
        usageExit := exitCode_reported_lt _
    rw [Check.documents_cons_of_ok loads]
    -- the first file is loaded, so the others decide whether there is a report at all
    rcases restCases with ⟨documents, loaded, others, rfl⟩ | ⟨problem, loaded, rfl⟩
    · rw [loaded]
      have all : Check.areShowable ((file, document) :: documents) = true := by
        rw [Check.areShowable, List.all_cons] at showable ⊢
        exact Bool.and_eq_true_iff.mpr ⟨(Bool.and_eq_true_iff.mp showable).1, others⟩
      exact ⟨_, if_pos all, composed.cons_accepted codeFirst (exitCode_reported_lt _)
        (exitCode_reported_cons _ _) (stdout_reported_cons _ _) rfl⟩
    · rw [loaded]
      exact ⟨_, rfl, composed.cons_of_rejected (Option.some_ne_none _) codeFirst rfl⟩
  -- the first file is rejected, and the others are not even looked at
  · have restCode : rest.exitCode ≤ usageExit := by
      rcases restCases with ⟨_, -, -, rfl⟩ | ⟨problem, -, rfl⟩
      · exact (exitCode_reported_lt _).le
      · exact le_rfl
    rw [Check.documents_cons_of_error rejects] at firstEnds ⊢
    refine ⟨first, firstEnds, ?_⟩
    cases firstEnds
    exact .cons_rejected rfl rfl (composed.exitCode_le restCode)

/-- The outcome over many files is put together from those over one of them each. -/
theorem checkOutcome_composed {system : FileSystem} (stderr : String) {files : List String}
    (handled : ∀ file ∈ files, Document.Handled (Document.load system file))
    (reportable : ∀ file ∈ files, Check.Reportable system file) :
    ∃ whole alone,
      checkOutcome system.columns stderr (Check.documents system files).result = .ok whole ∧
      List.Forall₂ (fun file outcome =>
        checkOutcome system.columns stderr (Check.documents system [file]).result = .ok outcome ∧
          Judged system stderr file outcome) files alone ∧
      Composed alone whole := by
  induction files with
  | nil => exact ⟨_, [], rfl, .nil, ⟨rfl, fun _ => ⟨rfl, rfl⟩, nofun⟩⟩
  | cons file files ih =>
      rw [List.forall_mem_cons] at handled reportable
      obtain ⟨rest, others, restEnds, rows, composed⟩ := ih handled.2 reportable.2
      obtain ⟨first, firstEnds, judged⟩ := judged_of_handled stderr handled.1 reportable.1
      obtain ⟨whole, wholeEnds, joined⟩ := composed_cons handled.1 firstEnds restEnds composed
      exact ⟨whole, first :: others, wholeEnds, .cons ⟨firstEnds, judged⟩ rows, joined⟩

/-! ## Whole command lines -/

section Runs

variable {system : FileSystem} {options files : List String} {given : List CheckOption}
  {entries : Entries} {file : String}

/-- The command line that checks files. -/
def checkLine (options files : List String) : List String :=
  Command.check.name :: (options ++ files)

/-- A line of options for a check, under a config that can be loaded: it does not ask for help, no
color is in effect, and nothing more is to be said. -/
structure PlainCheck (system : FileSystem) (options : List String) (given : List CheckOption)
    (entries : Entries) : Prop where
  scans : Scans CheckOption.form? options ⟨given, []⟩
  noHelp : CheckOption.help ∉ given
  loads : ofFile system (Location.resolve system.workingDirectory (fileArgument options)) =
    .ok (entries, false)
  quiet : verboseSetting (settings entries) = false
  colorless : effective (lastOf CheckOption.color? given) (colorSetting (settings entries)) ≠
    some true

theorem looksLikeOption_of_head (noDash : file.toList.head? ≠ some '-') :
    looksLikeOption file.toList = false := by
  unfold looksLikeOption
  split
  · next same =>
      rw [same] at noDash
      exact absurd rfl noDash
  · rfl

theorem not_names_of_head (noDash : file.toList.head? ≠ some '-') : ¬ Names file := by
  rintro (rfl | isAttached)
  · exact noDash (by decide)
  · unfold attachedFile? Text.afterStart? at isAttached
    split_ifs at isAttached with isStart
    · obtain ⟨after, same⟩ := List.isPrefixOf_iff_prefix.mp isStart
      rw [← same] at noDash
      exact noDash rfl
    · cases isAttached

/-- The files after a line of options for a check do not matter to the search for a config file: a
value is only ever taken by the option that names one. -/
theorem namedFile?_checkOptions {s : Scanned CheckOption}
    (scans : Scans CheckOption.form? options s) (noOther : s.arguments = [])
    (plain : ∀ file ∈ files, ¬ Names file) :
    namedFile? (options ++ files) = namedFile? options := by
  have none : namedFile? files = none := by
    have found := namedFile?_append plain []
    rwa [List.append_nil] at found
  induction scans with
  | done => exact none
  | separator rest =>
      obtain rfl : rest = [] := noOther
      have separator : ¬ Names "--" := by decide
      rw [List.cons_append, List.nil_append, namedFile?_cons_of_not_names separator, none]
      rfl
  | @flag word item rest s isOption bare form _ ih =>
      have notOption := (takesConfig_check form).2
      have notNames := not_names_of_bare bare notOption
      rw [List.cons_append, namedFile?_cons_of_not_names notNames,
        namedFile?_cons_of_not_names notNames]
      exact ih noOther
  | @attached word text make rest s isOption bare form _ ih =>
      have notOption := attached_ne_option word text
      rw [List.cons_append, namedFile?_cons_of_ne notOption, namedFile?_cons_of_ne notOption,
        ih noOther]
  -- after the option for a config file the search is over, whatever stands behind
  | @separate word text make rest s isOption bare form _ ih =>
      have row : word = fileOption ∧ make = CheckOption.config := by
        simpa [fileOption] using CheckOption.form?_cases form
      obtain ⟨rfl, -⟩ := row
      rw [List.cons_append, List.cons_append, namedFile?_option, namedFile?_option]
  | positional => cases noOther

/-- The config file of a check is the one that its options name. -/
theorem fileArgument_checkLine (plain : PlainCheck system options given entries)
    (noDash : ∀ file ∈ files, file.toList.head? ≠ some '-') :
    fileArgument (checkLine options files) = fileArgument options := by
  have noCommand : ¬ Names Command.check.name := by decide
  have same := namedFile?_checkOptions plain.scans rfl fun file member =>
    not_names_of_head (noDash file member)
  rw [fileArgument, checkLine, namedFile?_cons_of_not_names noCommand, same]
  rfl

/-- A run that reads as a check, with neither color nor more to be said, ends by what loading its
files comes to. -/
theorem run_eq_checkOutcome {arguments : List String} {request : CheckRequest}
    (reads : Request.read? arguments = some ⟨false, .check request⟩)
    (loads : ofFile system (Location.resolve system.workingDirectory (fileArgument arguments)) =
      .ok (entries, false))
    (quiet : verboseSetting (settings entries) = false)
    (colorless : effective request.color (colorSetting (settings entries)) ≠ some true) :
    run system arguments = checkOutcome system.columns (warningText entries)
      (Check.documents system request.files).result := by
  have color : useColor (effective request.color (colorSetting (settings entries))) = false := by
    cases same : effective request.color (colorSetting (settings entries)) with
    | none => rfl
    | some enabled =>
        cases enabled with
        | false => rfl
        | true => exact absurd same colorless
  rw [run_quiet reads loads quiet]
  dsimp only [runAction, runCheck]
  rw [color]
  cases (Check.documents system request.files).result with
  | error fault => cases fault <;> rfl
  | ok documents =>
      have prints : printReport system.columns documents false =
          if Check.areShowable documents then
            .ok ((Check.results documents).flatMap (Check.reportChars system.columns))
          else .error (.badMarkup .halfCharacter) := by
        rw [printReport, printAll, Check.printed_lines]
        rfl
      dsimp only [bind, Except.bind]
      rw [prints, checkOutcome]
      cases Check.areShowable documents <;> rfl

/-- A run that checks files ends by what loading them comes to. -/
theorem run_checkLine (plain : PlainCheck system options given entries) (nonempty : files ≠ [])
    (noDash : ∀ file ∈ files, file.toList.head? ≠ some '-') :
    run system (checkLine options files) =
      checkOutcome system.columns (warningText entries) (Check.documents system files).result := by
  have request : Request.read? (checkLine options files) =
      some ⟨false, .check ⟨files, lastOf CheckOption.config? given,
        lastOf CheckOption.color? given⟩⟩ := by
    have reads := CheckRequest.read?_eq_some_iff.mpr ⟨_, plain.scans.append_positional rfl
      fun file member => looksLikeOption_of_head (noDash file member), plain.noHelp, nonempty, rfl⟩
    rw [checkLine, Request.read?_check, reads]
    rfl
  have loads := plain.loads
  rw [← fileArgument_checkLine plain noDash] at loads
  exact run_eq_checkOutcome request loads plain.quiet plain.colorless

/-- An outcome but for the warnings about the config. -/
def Outcome.withoutWarnings (outcome : Outcome) : Outcome := { outcome with stderr := "" }

/-- What a check comes to is the same under every config; only the warnings differ. -/
theorem checkOutcome_withoutWarnings (loaded : Except Fault (List (String × Value))) :
    (checkOutcome columns stderr loaded).map Outcome.withoutWarnings =
      checkOutcome columns "" loaded := by
  unfold checkOutcome
  split
  · split_ifs <;> rfl
  · rfl
  · rfl

/-- A file with something in it that cannot be shown ends a check if all its files can be loaded. -/
theorem checkOutcome_of_not_reportable
    (each : ∀ path ∈ files, ∃ document, Document.load system path = .ok document)
    (member : file ∈ files) (hides : ¬ Check.Reportable system file) :
    checkOutcome columns stderr (Check.documents system files).result =
      .error (.badMarkup .halfCharacter) := by
  obtain ⟨documents, loaded, holds⟩ := Check.exists_documents each
  rw [loaded]
  refine checkOutcome_of_not_showable (Bool.eq_false_iff.mpr fun showable => hides ?_)
  exact fun document loads => List.all_eq_true.mp showable _ (holds file member document loads)

/-- Checking many files is put together from checking one of them each, if each is loaded or told to
be wrong, and what is found can be shown.  If all files are loaded and there is something in one of
them that cannot be shown, the run over all of them ends early as the run over that one does; and a
file that is told to be wrong decides the run whatever is in the others.  In any case any other
config, of this system or of another one in which the files are the same, leads to the same end but
for the warnings. -/
theorem run_check_composed (plain : PlainCheck system options given entries)
    (nonempty : files ≠ []) (noDash : ∀ file ∈ files, file.toList.head? ≠ some '-')
    (handled : ∀ file ∈ files, Document.Handled (Document.load system file)) :
    ((∀ file ∈ files, Check.Reportable system file) →
      ∃ whole alone, run system (checkLine options files) = .ok whole ∧
        List.Forall₂ (fun file outcome => run system (checkLine options [file]) = .ok outcome ∧
          Judged system (warningText entries) file outcome) files alone ∧
        Composed alone whole) ∧
    ((∀ file ∈ files, ∃ document, Document.load system file = .ok document) →
      ∀ file ∈ files, ¬ Check.Reportable system file →
        run system (checkLine options files) = .error (.badMarkup .halfCharacter) ∧
        run system (checkLine options [file]) = .error (.badMarkup .halfCharacter)) ∧
    (∀ before file after problem, files = before ++ file :: after →
      (∀ other ∈ before, ∃ document, Document.load system other = .ok document) →
      Document.load system file = .error (.usage problem) →
        run system (checkLine options files) = .ok (rejected (warningText entries) problem)) ∧
    ∀ system' options' given' entries', PlainCheck system' options' given' entries' →
      system'.columns = system.columns →
      (∀ file ∈ files, system'.read file = system.read file) →
        (run system' (checkLine options' files)).map Outcome.withoutWarnings =
          (run system (checkLine options files)).map Outcome.withoutWarnings := by
  have single : ∀ file ∈ files, run system (checkLine options [file]) =
      checkOutcome system.columns (warningText entries) (Check.documents system [file]).result :=
    fun file member => run_checkLine plain (List.cons_ne_nil _ _)
      (List.forall_mem_singleton.mpr (noDash file member))
  refine ⟨fun reportable => ?_, fun each file member hides => ?_, ?_, ?_⟩
  · obtain ⟨whole, alone, ends, rows, composed⟩ :=
      checkOutcome_composed (warningText entries) handled reportable
    refine ⟨whole, alone, ?_, ?_, composed⟩
    · rw [run_checkLine plain nonempty noDash, ends]
    · refine ((List.forall₂_and_left _ _).mpr ⟨fun _ => id, rows⟩).imp fun file outcome row =>
        ⟨?_, row.2.2⟩
      rw [single file row.1, row.2.1]
  · rw [run_checkLine plain nonempty noDash, single file member]
    exact ⟨checkOutcome_of_not_reportable each member hides, checkOutcome_of_not_reportable
      (List.forall_mem_singleton.mpr (each file member)) List.mem_cons_self hides⟩
  · rintro before file after problem rfl each rejects
    rw [run_checkLine plain nonempty noDash, Check.documents_of_rejected each rejects]
    rfl
  · intro system' options' given' entries' plain' sameColumns same
    rw [run_checkLine plain' nonempty noDash, run_checkLine plain nonempty noDash,
      Check.documents_congr same, sameColumns, checkOutcome_withoutWarnings,
      checkOutcome_withoutWarnings]

/-- A file with a problem, one that is missing, and one without problems. -/
theorem run_check_composed_three :
    let system := FileTree.toFileSystem ⟨"/work", 1,
      [(["bad.json"], .bytes "null".toUTF8), (["good.json"], .bytes "[\x22zoom\x22]".toUTF8)]⟩
    let files := ["bad.json", "gone.json", "good.json"]
    PlainCheck system ["--no-color"] [.color false] [] ∧
      (∀ file ∈ files, Document.Handled (Document.load system file)) ∧
      ∃ whole alone, run system (checkLine ["--no-color"] files) = .ok whole ∧
        Composed alone whole ∧ whole.exitCode = 2 := by
  intro system files
  have plain : PlainCheck system ["--no-color"] [.color false] [] :=
    ⟨scan_eq_some_iff.mp rfl, by decide, ofFile_of_missing (by decide +kernel), rfl, by decide⟩
  have handled : ∀ file ∈ files, Document.Handled (Document.load system file) := by decide +kernel
  have reportable : ∀ file ∈ files, Check.Reportable system file := by decide +kernel
  obtain ⟨whole, alone, ends, rows, composed⟩ :=
    (run_check_composed plain (by decide) (by decide) handled).1 reportable
  have code : (run system (checkLine ["--no-color"] files)).map Outcome.exitCode = .ok 2 := by
    decide +kernel
  rw [ends] at code
  exact ⟨plain, handled, whole, alone, ends, composed, Except.ok.inj code⟩

/-- An operator with half of a character in its name ends the check before anything is said about
the file behind it, which alone is reported on. -/
theorem run_check_ends_early :
    let system := FileTree.toFileSystem ⟨"/work", 1,
      [(["a.json"], .bytes "[\x22\\ud800\x22]".toUTF8), (["b.json"], .bytes "[\x22zoom\x22]".toUTF8)]⟩
    let files := ["a.json", "b.json"]
    (∀ file ∈ files, Document.Handled (Document.load system file)) ∧
      (∀ whole, run system (checkLine [] files) ≠ .ok whole) ∧
      (run system (checkLine [] ["b.json"])).map (fun alone => (alone.exitCode, alone.stdout)) =
        .ok (0, "b.json: OK\n") := by
  intro system files
  have early : run system (checkLine [] files) = .error (.badMarkup .halfCharacter) := by
    decide +kernel
  refine ⟨by decide +kernel, fun whole => ?_, by decide +kernel⟩
  rw [early]
  nofun

end Runs

end CommandLine

end MapStyle
