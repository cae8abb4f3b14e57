import MapStyle.Proofs.CommandLine.CheckRuns
import MapStyle.Proofs.Json.Files
import MapStyle.Proofs.Report.Entries

/-!
# The lines of a check

A run that checks files prints a line for each problem and for each file without problems, and more
of them only where a problem is about an operator with line feeds in its name.

* `Check.results_zip` are the results for files that can be loaded.
* `run_check_lines` is the statement for whole runs, and `run_check_breaks` a run with a line too
  many.
-/

namespace MapStyle

namespace Check

theorem results_zip (files : List String) (documents : List Value) :
    results (files.zip documents) =
      List.zipWith (fun file document => ⟨file, problems document⟩) files documents :=
  List.map_zip_eq_zipWith

theorem areShowable_zip {files : List String} {documents : List Value}
    (same : files.length = documents.length) :
    areShowable (files.zip documents) = documents.all isShowable := by
  have seconds : (files.zip documents).map Prod.snd = documents :=
    List.map_snd_zip same.ge
  conv_rhs => rw [← seconds, List.all_map]
  rfl

end Check

namespace CommandLine

open Config

variable {system : FileSystem} {arguments : List String} {request : CheckRequest}
  {entries : Entries} {documents : List Value}

/-- A check of files that can be loaded, with neither color nor more to be said, prints the lines
about the problems of each file, or one line about a file without problems, if no problem is about
an operator with half of a character in its name; otherwise it ends early.  There is one line for a
problem and one more for each line feed in the operator that it is about, and the first of them
starts with the path of the file, a colon and a blank, as a console shows them.  If no problem is
about an operator with line feeds, and a console shows the paths as they are, each line is about one
problem or one file without problems and starts so. -/
theorem run_check_lines (reads : Request.read? arguments = some ⟨false, .check request⟩)
    (loads : ofFile system (Location.resolve system.workingDirectory (fileArgument arguments)) =
      .ok (entries, false))
    (quiet : verboseSetting (settings entries) = false)
    (colorless : effective request.color (colorSetting (settings entries)) ≠ some true)
    (holds : List.Forall₂ (fun file document => Document.load system file = .ok document)
      request.files documents)
    (noBreak : ∀ file ∈ request.files, '\n' ∉ file.toList) :
    ((∀ document ∈ documents, Check.isShowable document = true) →
      ∃ outcome groups, run system arguments = .ok outcome ∧
      outcome.stdout = String.ofList (groups.flatten.flatMap Output.line) ∧
      List.Forall₂ Check.Shows (Check.allEntries request.files documents) groups ∧
      groups.flatten.length = (documents.map Check.lineCount).sum ∧
      ((∀ document ∈ documents, ∀ problem ∈ Shape.documentProblems document, problem.breaks = 0) →
        (∀ file ∈ request.files, Check.ShownAsIs file) →
        groups.flatten.length =
          (documents.map fun document => max 1 (Shape.documentProblems document).length).sum ∧
        List.Forall₂ (fun entry line => (entry.file ++ ": ").toList <+: line)
          (Check.allEntries request.files documents) groups.flatten)) ∧
    ((∃ document ∈ documents, Check.isShowable document = false) →
      run system arguments = .error (.badMarkup .halfCharacter)) := by
  have ends := run_eq_checkOutcome reads loads quiet colorless
  rw [Check.documents_of_load holds] at ends
  have showable := Check.areShowable_zip holds.length_eq
  refine ⟨fun each => ?_, fun ⟨document, member, hides⟩ => ?_⟩
  swap
  · refine ends.trans (checkOutcome_of_not_showable (showable.trans ?_))
    exact List.all_eq_false.mpr ⟨document, member, by rw [hides]; decide⟩
  obtain ⟨groups, lines, shows⟩ := Check.exists_shows noBreak documents system.columns
  have size := Check.length_flatten_of_shows holds.length_eq shows
  refine ⟨_, groups, ends.trans (if_pos (showable.trans (List.all_eq_true.mpr each))), ?_, shows,
    size, fun plain asIs => ⟨?_, ?_⟩⟩
  · rw [reported, Check.results_zip, lines]
  · rw [size]
    exact congrArg List.sum (List.map_congr_left fun document member =>
      Check.lineCount_of_plain (plain document member))
  · have single := Check.forall₂_flatten_of_shows shows fun entry member => by
      obtain ⟨file, -, document, isDocument, among⟩ := Check.mem_allEntries member
      exact Check.breaks_of_mem_entries among (plain document isDocument)
    have shownAsIs : ∀ entry ∈ Check.allEntries request.files documents,
        Check.ShownAsIs entry.file := by
      intro entry member
      obtain ⟨file, isFile, document, -, among⟩ := Check.mem_allEntries member
      exact Check.file_of_mem_entries among ▸ asIs file isFile
    refine ((List.forall₂_and_left _ _).mpr ⟨shownAsIs, single⟩).imp fun entry line both => ?_
    rw [← Check.label_of_shownAsIs both.1]
    exact both.2

/-- A file that holds a list of one text is loaded as that list. -/
theorem loads_single {file : String} (item text : String)
    (writes : Json.write 0 0 (.list [.str item]) = .ok text.toList)
    (content : system.read file = .ok text.toUTF8) (noReturn : '\r' ∉ text.toList) :
    Document.load system file = .ok (.list [.str item]) :=
  Json.load_of_writes (.list _ (List.forall_mem_singleton.mpr (.str item))) writes content noReturn

/-- Two lines about an operator with a line feed in its name and one about a file without problems;
and that file alone, whose line starts with its path. -/
theorem run_check_lines_three :
    let system := FileTree.toFileSystem ⟨"/work", 1,
      [(["a.json"], .bytes "[\x22x\\ny\x22]".toUTF8), (["b.json"], .bytes "[\x22zoom\x22]".toUTF8)]⟩
    let broken : Value := .list [.str "x\ny"]
    let fine : Value := .list [.str "zoom"]
    Document.load system "a.json" = .ok broken ∧ Document.load system "b.json" = .ok fine ∧
      (∃ outcome groups, run system ["check", "a.json", "b.json"] = .ok outcome ∧
        outcome.stdout = String.ofList (groups.flatten.flatMap Output.line) ∧
        List.Forall₂ Check.Shows (Check.allEntries ["a.json", "b.json"] [broken, fine]) groups ∧
        groups.flatten.length = 3) ∧
      ∃ outcome line, run system ["check", "b.json"] = .ok outcome ∧
        outcome.stdout = String.ofList (Output.line line) ∧ "b.json: ".toList <+: line := by
  intro system broken fine
  have first : Document.load system "a.json" = .ok broken :=
    loads_single "x\ny" "[\x22x\\ny\x22]" rfl (by decide +kernel) (by decide)
  have second : Document.load system "b.json" = .ok fine :=
    loads_single "zoom" "[\x22zoom\x22]" rfl (by decide +kernel) (by decide)
  refine ⟨first, second, ?_, ?_⟩
  · have reads : Request.read? ["check", "a.json", "b.json"] =
        some ⟨false, .check ⟨["a.json", "b.json"], none, none⟩⟩ := rfl
    obtain ⟨prints, -⟩ :=
      run_check_lines reads (ofFile_of_missing (by decide +kernel)) rfl (by decide)
        (.cons first (.cons second .nil)) (by decide)
    obtain ⟨outcome, groups, ends, stdout, shows, size, -⟩ := prints (by decide)
    exact ⟨outcome, groups, ends, stdout, shows, size.trans (by decide +kernel)⟩
  · have reads : Request.read? ["check", "b.json"] =
        some ⟨false, .check ⟨["b.json"], none, none⟩⟩ := rfl
    have plain : ∀ document ∈ [fine], ∀ problem ∈ Shape.documentProblems document,
        problem.breaks = 0 := List.forall_mem_singleton.mpr nofun
    have asIs : Check.ShownAsIs "b.json" :=
      Check.shownAsIs_of_not_mem (by decide) (by decide) (by decide)
    obtain ⟨prints, -⟩ :=
      run_check_lines reads (ofFile_of_missing (by decide +kernel)) rfl (by decide)
        (.cons second .nil) (by decide)
    obtain ⟨outcome, groups, ends, stdout, -, -, single⟩ := prints (by decide)
    obtain ⟨-, starts⟩ := single plain (List.forall_mem_singleton.mpr asIs)
    have one : Check.allEntries ["b.json"] [fine] = [⟨"b.json", none⟩] := rfl
    rw [one] at starts
    obtain ⟨line, rest, isStart, none, lines⟩ := List.forall₂_cons_left_iff.mp starts
    rw [List.forall₂_nil_left_iff.mp none] at lines
    refine ⟨outcome, line, ends, ?_, isStart⟩
    rw [stdout, lines, List.flatMap_singleton]

/-- An operator with a line feed in its name makes two lines of one problem. -/
theorem run_check_breaks :
    let system := FileTree.toFileSystem ⟨"/work", 1,
      [(["a.json"], .bytes "[\x22x\\ny\x22]".toUTF8)]⟩
    let document : Value := .list [.str "x\ny"]
    let text := "a.json: Unknown expression operator 'x\ny'"
    Document.load system "a.json" = .ok document ∧
      (Shape.documentProblems document).length = 1 ∧
      ∃ outcome, run system ["check", "a.json"] = .ok outcome ∧
        outcome.stdout.toList = text.toList ++ ['\n'] ∧
        outcome.stdout.toList.count '\n' ≠ max 1 (Shape.documentProblems document).length := by
  intro system document text
  have loads : Document.load system "a.json" = .ok document :=
    loads_single "x\ny" "[\x22x\\ny\x22]" rfl (by decide +kernel) (by decide)
  have reads : Request.read? ["check", "a.json"] =
      some ⟨false, .check ⟨["a.json"], none, none⟩⟩ := rfl
  have noConfig : ofFile system (Location.resolve system.workingDirectory
      (fileArgument ["check", "a.json"])) = .ok ([], false) := ofFile_of_missing (by decide +kernel)
  have ends : run system ["check", "a.json"] =
      .ok (reported system.columns (warningText []) [⟨"a.json", Check.problems document⟩]) := by
    rw [run_eq_checkOutcome reads noConfig rfl (by decide),
      Check.documents_of_load (.cons loads .nil)]
    rfl
  have lines : Check.resultLines false ⟨"a.json", Check.problems document⟩ = [text] := by
    decide +kernel
  have chars : text.toList =
      "a.json".toList ++ ':' :: " Unknown expression operator 'x\ny'".toList := by decide +kernel
  have shown : Check.lineChars system.columns text = text.toList ++ ['\n'] := by
    rw [Check.lineChars, chars, Check.replaceEmoji_of_single (by decide) (by decide +kernel)]
    decide +kernel
  have stdout :
      (reported system.columns (warningText [])
        [⟨"a.json", Check.problems document⟩]).stdout.toList = text.toList ++ ['\n'] := by
    rw [reported, String.toList_ofList, List.flatMap_singleton, Check.reportChars, lines,
      List.flatMap_singleton, shown]
  refine ⟨loads, rfl, _, ends, stdout, ?_⟩
  rw [stdout]
  decide +kernel

end CommandLine

end MapStyle
