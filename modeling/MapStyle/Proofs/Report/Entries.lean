import MapStyle.Proofs.Report.Coloring
import MapStyle.Proofs.Shape.Messages
import MapStyle.Proofs.Text.Lines

/-!
# Entries of a report

A report without color has an entry for each problem of a file, or one for a file without problems.
An entry takes one line, and one more for each line feed in the unknown operator that it is about.

* `Check.label` is how the first line of an entry starts, and `Check.label_of_shownAsIs` says when
  that is the path with a colon and a blank.
* `Check.Shows` is what can be said of the lines of an entry, and `Check.exists_shows` that a report
  consists of such lines.
-/

namespace MapStyle.Check

/-! ## Paths at the start of a line -/

/-- A path with a colon and a blank behind it, as a console shows them at the start of a line. -/
def label (path : String) : List Char :=
  Text.expandTabs 0 ((Text.replaceEmoji (path.toList ++ [':'])).filter (!Text.isDropped ·)) ++ [' ']

/-- A console shows a path at the start of a line as it is. -/
structure ShownAsIs (path : String) : Prop where
  noTab : '\t' ∉ path.toList
  noDropped : path.toList.any Text.isDropped = false
  noEmoji : Text.replaceEmoji (path.toList ++ [':']) = path.toList ++ [':']

theorem label_of_shownAsIs {path : String} (asIs : ShownAsIs path) :
    label path = (path ++ ": ").toList := by
  have kept : (path.toList ++ [':']).filter (!Text.isDropped ·) = path.toList ++ [':'] := by
    rw [List.filter_eq_self]
    intro c member
    rcases List.mem_append.mp member with within | last
    · rw [(Bool.not_eq_true _).mp (List.any_eq_false.mp asIs.noDropped c within)]
      rfl
    · rw [List.mem_singleton.mp last]
      decide
  have noTab : '\t' ∉ path.toList ++ [':'] := by
    rw [List.mem_append, not_or]
    exact ⟨asIs.noTab, by decide⟩
  rw [label, asIs.noEmoji, kept, Text.expandTabs_of_not_mem noTab, String.toList_append,
    List.append_assoc]
  rfl

/-- A path without a colon holds no part of an emoji code. -/
theorem shownAsIs_of_not_mem {path : String} (noColon : ':' ∉ path.toList)
    (noTab : '\t' ∉ path.toList) (noDropped : path.toList.any Text.isDropped = false) :
    ShownAsIs path :=
  ⟨noTab, noDropped, replaceEmoji_of_single noColon List.not_mem_nil⟩

/-! ## Lines of a report -/

namespace ReportLine

variable {line : ReportLine} {columns : Nat}

/-- The lines in which a console shows a line of a report without color. -/
def shown (columns : Nat) (line : ReportLine) : List (List Char) :=
  Text.shownLines columns (Text.replaceEmoji (line.format false).toList)

theorem lineChars_format (line : ReportLine) :
    lineChars columns (line.format false) = (line.shown columns).flatMap Output.line :=
  Text.onConsole_concat _

/-- The path and the colon have their emoji apart from the text. -/
theorem replaceEmoji_format (line : ReportLine) :
    Text.replaceEmoji (line.format false).toList =
      Text.replaceEmoji (line.path.toList ++ [':']) ++ ' ' :: Text.replaceEmoji line.text.toList := by
  rw [← Text.replaceEmoji_append (by decide), toList_format_false, List.append_assoc]
  rfl

theorem not_mem_replaceEmoji (noBreak : '\n' ∉ line.path.toList) :
    '\n' ∉ Text.replaceEmoji (line.path.toList ++ [':']) := by
  have noBreak' : '\n' ∉ line.path.toList ++ [':'] := by
    rw [List.mem_append, not_or]
    exact ⟨noBreak, by decide⟩
  rw [← List.count_eq_zero, Text.count_replaceEmoji (by decide), List.count_eq_zero]
  exact noBreak'

theorem length_shown (noBreak : '\n' ∉ line.path.toList) :
    (line.shown columns).length = lineFeeds line.text + 1 := by
  rw [shown, Text.length_shownLines, replaceEmoji_format, List.count_append,
    List.count_eq_zero.mpr (not_mem_replaceEmoji noBreak), List.count_cons_of_ne (by decide),
    Text.count_replaceEmoji (by decide), Nat.zero_add]
  rfl

theorem exists_shown (noBreak : '\n' ∉ line.path.toList)
    (starts : startsVisibly line.text = true) :
    ∃ first others, line.shown columns = first :: others ∧ label line.path <+: first := by
  obtain ⟨c, rest, text, ink, notDropped, notColon⟩ := exists_of_startsVisibly starts
  have noBreak' : '\n' ∉ Text.replaceEmoji (line.path.toList ++ [':']) ++ [' '] := by
    rw [List.mem_append, not_or]
    exact ⟨not_mem_replaceEmoji noBreak, by decide⟩
  obtain ⟨first, others, lines, isStart⟩ :=
    Text.exists_shownLines noBreak' ink notDropped (Text.replaceEmoji rest)
  refine ⟨first, others, ?_, ?_⟩
  · rw [shown, replaceEmoji_format, text, Text.replaceEmoji_cons_of_ne notColon, ← lines,
      List.append_assoc]
    rfl
  · obtain ⟨column, expanded⟩ := Text.exists_expandTabs_append 0
      ((Text.replaceEmoji (line.path.toList ++ [':'])).filter (!Text.isDropped ·)) [' ']
    have whole : label line.path = Text.expandTabs 0
        ((Text.replaceEmoji (line.path.toList ++ [':']) ++ [' ']).filter (!Text.isDropped ·)) := by
      rw [List.filter_append]
      exact expanded.symm
    rw [whole]
    exact (List.prefix_append _ [c]).trans isStart

end ReportLine

/-! ## Entries -/

/-- An entry of a report: a file, and a problem of it or that there is none. -/
structure Entry where
  file : String
  problem : Option DocumentProblem

namespace Entry

/-- The line feeds that an entry has within it. -/
def breaks (entry : Entry) : Nat := entry.problem.elim 0 DocumentProblem.breaks

/-- The line of a report about an entry. -/
def line (entry : Entry) : ReportLine :=
  ⟨entry.file, entry.problem.elim "OK" DocumentProblem.message,
    entry.problem.elim okStyle fun _ => problemStyle⟩

end Entry

/-- The entries about a file with a document in it. -/
def entries (file : String) (document : Value) : List Entry :=
  match Shape.documentProblems document with
  | [] => [⟨file, none⟩]
  | problems => problems.map fun problem => ⟨file, some problem⟩

/-- The lines about an entry are as many as it takes, and the first one starts with the path. -/
structure Shows (entry : Entry) (lines : List (List Char)) : Prop where
  size : lines.length = entry.breaks + 1
  apart : ∀ line ∈ lines, '\n' ∉ line
  starts : ∃ first others, lines = first :: others ∧ label entry.file <+: first

section Entries

variable {file : String} {document : Value} {columns : Nat}

theorem reportLines_eq (file : String) (document : Value) :
    reportLines ⟨file, problems document⟩ = (entries file document).map Entry.line := by
  unfold reportLines entries problems CheckResult.isClean
  cases Shape.documentProblems document with
  | nil => rfl
  | cons problem others => simp [Entry.line]

/-- How many lines the report about a document takes: one for each problem, or one if there is none,
and one more for each line feed in an operator that a problem is about. -/
def lineCount (document : Value) : Nat :=
  max 1 (Shape.documentProblems document).length +
    ((Shape.documentProblems document).map DocumentProblem.breaks).sum

theorem lineCount_of_plain
    (plain : ∀ problem ∈ Shape.documentProblems document, problem.breaks = 0) :
    lineCount document = max 1 (Shape.documentProblems document).length := by
  have none : ((Shape.documentProblems document).map DocumentProblem.breaks).sum = 0 :=
    List.sum_eq_zero (List.forall_mem_map.mpr plain)
  rw [lineCount, none, Nat.add_zero]

theorem sum_entries (file : String) (document : Value) :
    ((entries file document).map fun entry => entry.breaks + 1).sum = lineCount document := by
  unfold entries lineCount
  cases Shape.documentProblems document with
  | nil => rfl
  | cons problem others =>
      have atLeast : 1 ≤ (problem :: others).length := Nat.le_add_left 1 others.length
      have ones : ((problem :: others).map fun _ => 1).sum = (problem :: others).length := by
        simp [Nat.add_comm]
      rw [List.map_map, max_eq_right atLeast, Nat.add_comm, ← ones, ← List.sum_map_add]
      rfl

theorem file_of_mem_entries {entry : Entry} (member : entry ∈ entries file document) :
    entry.file = file := by
  unfold entries at member
  split at member
  · rw [List.mem_singleton.mp member]
  · obtain ⟨problem, -, rfl⟩ := List.mem_map.mp member
    rfl

theorem breaks_of_mem_entries {entry : Entry} (member : entry ∈ entries file document)
    (plain : ∀ problem ∈ Shape.documentProblems document, problem.breaks = 0) :
    entry.breaks = 0 := by
  unfold entries at member
  split at member
  · rw [List.mem_singleton.mp member]
    rfl
  · obtain ⟨problem, found, rfl⟩ := List.mem_map.mp member
    exact plain problem found

theorem shows_of_mem {entry : Entry} (member : entry ∈ entries file document)
    (noBreak : '\n' ∉ file.toList) : Shows entry (entry.line.shown columns) := by
  obtain ⟨size, starts⟩ : lineFeeds entry.line.text = entry.breaks ∧
      startsVisibly entry.line.text = true := by
    unfold entries at member
    split at member
    · have size : lineFeeds "OK" = 0 := by decide
      have starts : startsVisibly "OK" = true := by decide
      rw [List.mem_singleton.mp member]
      exact ⟨size, starts⟩
    · obtain ⟨problem, found, rfl⟩ := List.mem_map.mp member
      exact ⟨DocumentProblem.lineFeeds_message found, problem.startsVisibly_message⟩
  rw [← file_of_mem_entries member] at noBreak
  refine ⟨?_, fun line member => Text.not_mem_of_mem_shownLines member, ?_⟩
  · rw [ReportLine.length_shown noBreak, size]
  · exact ReportLine.exists_shown noBreak starts

end Entries

/-! ## Whole reports -/

/-- The entries about files with these documents in them. -/
def allEntries (files : List String) (documents : List Value) : List Entry :=
  (List.zipWith entries files documents).flatten

theorem mem_allEntries {files : List String} {documents : List Value} {entry : Entry}
    (member : entry ∈ allEntries files documents) :
    ∃ file ∈ files, ∃ document ∈ documents, entry ∈ entries file document := by
  obtain ⟨ofFile, isOfFile, among⟩ := List.mem_flatten.mp member
  obtain ⟨i, bound, rfl⟩ := List.mem_iff_getElem.mp isOfFile
  rw [List.getElem_zipWith] at among
  exact ⟨_, List.getElem_mem _, _, List.getElem_mem _, among⟩

/-- A report consists of the lines about its entries. -/
theorem exists_shows {files : List String} (noBreak : ∀ file ∈ files, '\n' ∉ file.toList)
    (documents : List Value) (columns : Nat) :
    ∃ groups,
      (List.zipWith (fun file document => ⟨file, problems document⟩) files documents).flatMap
        (reportChars columns) = groups.flatten.flatMap Output.line ∧
      List.Forall₂ Shows (allEntries files documents) groups := by
  have lines : (List.zipWith (fun file document => ⟨file, problems document⟩) files
      documents).flatMap reportLines = (allEntries files documents).map Entry.line := by
    rw [List.flatMap_def, List.map_zipWith, allEntries, List.map_flatten, List.map_zipWith]
    simp only [reportLines_eq]
  refine ⟨(allEntries files documents).map fun entry => entry.line.shown columns, ?_, ?_⟩
  · rw [Except.ok.inj ((printed_lines _).symm.trans (printed_plain _)), lines, List.flatMap_map,
      ← List.flatMap_def, List.flatMap_assoc]
    exact List.flatMap_congr fun entry _ => entry.line.lineChars_format
  · rw [List.forall₂_map_right_iff, List.forall₂_same]
    intro entry member
    obtain ⟨file, isFile, document, -, among⟩ := mem_allEntries member
    exact shows_of_mem among (noBreak file isFile)

theorem sum_allEntries {files : List String} {documents : List Value}
    (sizes : files.length = documents.length) :
    ((allEntries files documents).map fun entry => entry.breaks + 1).sum =
      (documents.map lineCount).sum := by
  induction files generalizing documents with
  | nil =>
      obtain rfl : documents = [] := List.length_eq_zero_iff.mp sizes.symm
      rfl
  | cons file files ih =>
      cases documents with
      | nil => cases sizes
      | cons document documents =>
          have others := ih (Nat.succ.inj sizes)
          rw [allEntries] at others
          rw [allEntries, List.zipWith_cons_cons, List.flatten_cons, List.map_append,
            List.sum_append, sum_entries, others, List.map_cons, List.sum_cons]

/-- A report takes as many lines as its documents do. -/
theorem length_flatten_of_shows {files : List String} {documents : List Value}
    {groups : List (List (List Char))} (sizes : files.length = documents.length)
    (shows : List.Forall₂ Shows (allEntries files documents) groups) :
    groups.flatten.length = (documents.map lineCount).sum := by
  rw [← sum_allEntries sizes]
  generalize allEntries files documents = items at shows
  induction shows with
  | nil => rfl
  | cons shows _ ih =>
      rw [List.flatten_cons, List.length_append, ih, shows.size, List.map_cons, List.sum_cons]

/-- Entries without line feeds take one line each. -/
theorem forall₂_flatten_of_shows {items : List Entry} {groups : List (List (List Char))}
    (shows : List.Forall₂ Shows items groups) (plain : ∀ entry ∈ items, entry.breaks = 0) :
    List.Forall₂ (fun entry line => label entry.file <+: line) items groups.flatten := by
  induction shows with
  | nil => exact .nil
  | @cons entry lines items groups shows _ ih =>
      rw [List.forall_mem_cons] at plain
      obtain ⟨first, others, rfl, starts⟩ := shows.starts
      have size := shows.size
      rw [plain.1, List.length_cons, Nat.add_right_cancel_iff, List.length_eq_zero_iff] at size
      rw [size]
      exact .cons starts (ih plain.2)

end MapStyle.Check
