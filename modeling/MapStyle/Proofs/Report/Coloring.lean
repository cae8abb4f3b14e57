import Mathlib.Algebra.Order.BigOperators.Group.List
import Mathlib.Algebra.Order.Group.Nat
import MapStyle.Proofs.Markup.Surviving
import MapStyle.Proofs.Report.Printing
import MapStyle.Proofs.Text.Console

/-!
# Reports with color

A report with color differs from one without in the tags around its paths and problems, and in that
these texts are escaped.  On a console without color it can always be printed, and it leaves the
same text there unless escaping harms one of the texts or an emoji stands for a code.

* `Check.render_colored` is what is shown of one line with color.
* `Check.printed_colored` and `Check.printed_plain` are whole reports.
* `Check.chars_eq_iff`: the two are the same exactly if all texts survive.
-/

namespace MapStyle.Check

open Markup

variable {columns : Nat}

/-- A line of a report: a path, and a text in a style. -/
structure ReportLine where
  path : String
  text : String
  style : String

namespace ReportLine

/-- A line with color or without. -/
def format (enabled : Bool) (line : ReportLine) : String :=
  pathLabel line.path enabled ++ ": " ++ colorize line.text line.style enabled

/-- What is shown of a line with color. -/
def coloredChars (columns : Nat) (line : ReportLine) : List Char :=
  Output.line (Text.onConsole columns
    (left line.path.toList ++ (": ".toList ++ left line.text.toList)))

end ReportLine

/-- The lines about one file. -/
def reportLines (result : CheckResult) : List ReportLine :=
  if result.isClean then [⟨result.path, "OK", okStyle⟩]
  else result.problems.map fun problem => ⟨result.path, problem, problemStyle⟩

theorem resultLines_eq (enabled : Bool) (result : CheckResult) :
    resultLines enabled result = (reportLines result).map (ReportLine.format enabled) := by
  unfold resultLines reportLines
  split
  · rfl
  · rw [List.map_map]
    rfl

theorem lines_eq (results : List CheckResult) (enabled : Bool) :
    lines results enabled = (results.flatMap reportLines).map (ReportLine.format enabled) := by
  rw [lines, List.map_flatMap]
  exact congrArg (results.flatMap ·) (funext (resultLines_eq enabled))

/-! ## Styles -/

theorem canonicalName_styles : ∀ style ∈ [pathStyle, okStyle, problemStyle],
    canonicalName style.toList = .ok style.toList := by
  decide +kernel

/-- The styles of a report can be read. -/
theorem isStyle_of_mem {style : String} (member : style ∈ [pathStyle, okStyle, problemStyle]) :
    IsStyle style.toList := by
  have canonical := canonicalName_styles style member
  simp only [List.mem_cons, List.not_mem_nil, or_false] at member
  rcases member with rfl | rfl | rfl <;>
    exact isStyle_of_canonical ⟨rfl, by decide, by decide⟩ canonical (by decide) (by decide)
      (by decide)

theorem isStyle_pathStyle : IsStyle pathStyle.toList := isStyle_of_mem List.mem_cons_self

theorem style_mem {results : List CheckResult} {line : ReportLine}
    (member : line ∈ results.flatMap reportLines) :
    line.style ∈ [pathStyle, okStyle, problemStyle] := by
  obtain ⟨result, -, among⟩ := List.mem_flatMap.mp member
  unfold reportLines at among
  split at among
  · rw [List.mem_singleton.mp among]
    simp
  · obtain ⟨problem, -, rfl⟩ := List.mem_map.mp among
    simp

/-! ## One line -/

theorem toList_format_true (line : ReportLine) :
    (line.format true).toList =
      bracketed pathStyle.toList ++ (escape line.path.toList ++ (bracketed closingTag ++
        (": ".toList ++ (bracketed line.style.toList ++ (escape line.text.toList ++
          (bracketed closingTag ++ [])))))) := by
  simp [ReportLine.format, pathLabel, colorize, bracketed, closingTag]

/-- A colon and a blank before a style are text of their own. -/
theorem pieces_separator {style : List Char} (isStyle : IsStyle style) (s rest : List Char) :
    pieces (": ".toList ++ (bracketed style ++ (escape s ++ (bracketed closingTag ++ rest)))) =
      .plain ": ".toList :: (styledPieces style s ++ pieces rest) := by
  have blank := pieces_text (n := 0) (show ' ' ≠ '\\' by decide)
    (tagAt?_of_ne (s := bracketed style ++ (escape s ++ (bracketed closingTag ++ rest)))
      (show ' ' ≠ '[' by decide))
  have colon := pieces_text (n := 0) (show ':' ≠ '\\' by decide)
    (tagAt?_of_ne (s := ' ' :: (bracketed style ++ (escape s ++ (bracketed closingTag ++ rest))))
      (show ':' ≠ '[' by decide))
  rw [backslashes, List.replicate_zero, List.nil_append, List.nil_append] at blank colon
  rw [pieces_styled isStyle] at blank
  refine colon.trans ?_
  rw [blank]
  rfl

theorem plainText_separator : plainText ": ".toList = ": ".toList := by
  change Text.replaceEmoji [':', ' '] = [':', ' ']
  rw [Text.replaceEmoji, if_pos rfl]
  split
  · next code =>
      rw [show [' '].dropWhile Text.inCode = [' '] by decide] at code
      cases code
  · rw [Text.replaceEmoji_of_not_mem (by decide)]

/-- A line with color is shown as what is left of its texts. -/
theorem render_colored {line : ReportLine} (isStyle : IsStyle line.style.toList) :
    render columns (line.format true).toList =
      .ok (Text.onConsole columns
        (left line.path.toList ++ (": ".toList ++ left line.text.toList))) := by
  have start : Progress.Readable .start := ⟨nofun, nofun⟩
  obtain ⟨afterPath, path, readablePath, textPath⟩ :=
    foldlM_addPiece_styled start isStyle_pathStyle line.path.toList
  obtain ⟨afterText, text, readableText, textText⟩ :=
    foldlM_addPiece_styled (readablePath.add ": ".toList) isStyle line.text.toList
  have separator : afterPath.addPiece (.plain ": ".toList) = .ok (afterPath.add ": ".toList) := by
    rw [Progress.addPiece, plainText_separator]
  have folds : (pieces (line.format true).toList).foldlM Progress.addPiece .start =
      .ok afterText := by
    rw [toList_format_true, pieces_styled isStyle_pathStyle,
      pieces_separator isStyle, List.foldlM_append, path]
    change List.foldlM Progress.addPiece afterPath _ = _
    rw [List.foldlM_cons, separator]
    change List.foldlM Progress.addPiece (afterPath.add ": ".toList) _ = _
    rw [List.foldlM_append, text]
    rfl
  have whole : afterText.text =
      (left line.path.toList ++ (": ".toList ++ left line.text.toList)).filter
        (!Text.isDropped ·) := by
    rw [textText, Progress.add_add, Progress.add, textPath]
    simp [Progress.add, Progress.start]
  rw [render_of_readable folds readableText, whole, Text.onConsole_filter]

/-! ## Whole reports -/

theorem printed_colored (results : List CheckResult) :
    Output.printed columns (Output.ofLines (lines results true) true) =
      .ok ((results.flatMap reportLines).flatMap (ReportLine.coloredChars columns)) := by
  rw [lines_eq]
  refine printed_ofLines_of_each fun line member => ?_
  rw [Output.operationText, Output.lineText, if_pos rfl,
    render_colored (isStyle_of_mem (style_mem member))]
  rfl

theorem printed_plain (results : List CheckResult) :
    Output.printed columns (Output.ofLines (lines results false) false) =
      .ok ((results.flatMap reportLines).flatMap fun line =>
        lineChars columns (line.format false)) := by
  rw [printed_ofLines, lines_eq, List.flatMap_map]

/-! ## With color and without -/

/-- The texts of a report: the paths, and the problems. -/
def texts (results : List CheckResult) : List String :=
  results.flatMap fun result => result.path :: result.problems

/-- No emoji stands for a code in a report, neither in a line without color nor in a piece of an
escaped text. -/
structure ShowsNoEmoji (results : List CheckResult) : Prop where
  lines : ∀ line ∈ lines results false, Text.replaceEmoji line.toList = line.toList
  pieces : ∀ text ∈ texts results, ∀ piece ∈ pieces (trimmed text.toList), piece.left = piece.bare

theorem left_eq_bare {s : List Char} (same : ∀ piece ∈ pieces (trimmed s), piece.left = piece.bare) :
    left s = bare s := by
  rw [left, bare, List.flatMap_congr same]

/-- What holds of the texts of a report holds of what its lines are made of. -/
theorem forall_reportLines_iff {results : List CheckResult} {P : String → Prop} (ok : P "OK") :
    (∀ line ∈ results.flatMap reportLines, P line.path ∧ P line.text) ↔
      ∀ text ∈ texts results, P text := by
  have one : ∀ result : CheckResult, (∀ line ∈ reportLines result, P line.path ∧ P line.text) ↔
      ∀ text ∈ result.path :: result.problems, P text := by
    rintro ⟨path, problems⟩
    cases problems with
    | nil =>
        change (∀ line ∈ [(⟨path, "OK", okStyle⟩ : ReportLine)], P line.path ∧ P line.text) ↔
          ∀ text ∈ [path], P text
        simp [ok]
    | cons problem problems =>
        change (∀ line ∈ (problem :: problems).map fun problem =>
            (⟨path, problem, problemStyle⟩ : ReportLine), P line.path ∧ P line.text) ↔
          ∀ text ∈ path :: problem :: problems, P text
        rw [List.forall_mem_map]
        constructor
        · exact fun each => List.forall_mem_cons.mpr
            ⟨(each problem List.mem_cons_self).1, fun other member => (each other member).2⟩
        · exact fun each other member =>
            ⟨each path List.mem_cons_self, each other (List.mem_cons_of_mem _ member)⟩
  simp only [texts, List.forall_mem_flatMap, one]

namespace ReportLine

variable {line : ReportLine}

theorem toList_format_false (line : ReportLine) :
    (line.format false).toList = line.path.toList ++ (": ".toList ++ line.text.toList) := by
  simp [format, pathLabel, colorize]

/-- A backslash is shown as often as it stands in a line. -/
theorem count_lineChars
    (noEmoji : Text.replaceEmoji (line.format false).toList = (line.format false).toList) :
    (lineChars columns (line.format false)).count '\\' =
      line.path.toList.count '\\' + line.text.toList.count '\\' := by
  rw [lineChars, Output.line, List.count_append, noEmoji,
    Text.count_onConsole (by decide) (by decide), toList_format_false]
  simp [List.count_append]

theorem count_coloredChars (path : left line.path.toList = bare line.path.toList)
    (text : left line.text.toList = bare line.text.toList) :
    (line.coloredChars columns).count '\\' =
      (bare line.path.toList).count '\\' + (bare line.text.toList).count '\\' := by
  rw [coloredChars, Output.line, List.count_append,
    Text.count_onConsole (by decide) (by decide), path, text]
  simp [List.count_append]

/-- A line with color has no more backslashes than the line, and fewer if escaping harms one of its
texts. -/
theorem count_coloredChars_le
    (noEmoji : Text.replaceEmoji (line.format false).toList = (line.format false).toList)
    (bares : left line.path.toList = bare line.path.toList ∧
      left line.text.toList = bare line.text.toList) :
    (line.coloredChars columns).count '\\' ≤ (lineChars columns (line.format false)).count '\\' ∧
      (¬(Survives line.path.toList ∧ Survives line.text.toList) →
        (line.coloredChars columns).count '\\' <
          (lineChars columns (line.format false)).count '\\') := by
  rw [count_coloredChars bares.1 bares.2, count_lineChars noEmoji]
  refine ⟨Nat.add_le_add (count_bare_le _) (count_bare_le _), fun lost => ?_⟩
  rcases not_and_or.mp lost with path | text
  · exact Nat.add_lt_add_of_lt_of_le (count_bare_lt path) (count_bare_le _)
  · exact Nat.add_lt_add_of_le_of_lt (count_bare_le _) (count_bare_lt text)

end ReportLine

/-- One colon alone is no code. -/
theorem replaceEmoji_of_single {s t : List Char} (before : ':' ∉ s) (after : ':' ∉ t) :
    Text.replaceEmoji (s ++ ':' :: t) = s ++ ':' :: t := by
  induction s with
  | nil =>
      rw [List.nil_append, Text.replaceEmoji, if_pos rfl]
      split
      · next rest code =>
          have colon : ':' ∈ t.dropWhile Text.inCode := by
            rw [code]
            exact List.mem_cons_self
          exact (after ((List.dropWhile_sublist _).subset colon)).elim
      · rw [Text.replaceEmoji_of_not_mem after]
  | cons c s ih =>
      rw [List.cons_append, Text.replaceEmoji, if_neg (List.ne_of_not_mem_cons before).symm,
        ih (List.not_mem_of_not_mem_cons before)]

/-- A report on texts without colons shows no emoji. -/
theorem showsNoEmoji_of_not_mem {results : List CheckResult}
    (noColon : ∀ text ∈ texts results, ':' ∉ text.toList) : ShowsNoEmoji results where
  lines := by
    rw [lines_eq, List.forall_mem_map]
    intro line member
    obtain ⟨path, text⟩ := (forall_reportLines_iff (P := fun text => ':' ∉ text.toList)
      (by decide)).mpr noColon line member
    rw [ReportLine.toList_format_false]
    change Text.replaceEmoji (line.path.toList ++ ':' :: (' ' :: line.text.toList)) = _
    exact replaceEmoji_of_single path (List.not_mem_cons_of_ne_of_not_mem (by decide) text)
  pieces text member := left_eq_bare_of_not_mem (noColon text member)

theorem count_flatMap_lt {α : Type} {c : Char} {f g : α → List Char} {items : List α}
    (atMost : ∀ a ∈ items, (f a).count c ≤ (g a).count c)
    (fewer : ∃ a ∈ items, (f a).count c < (g a).count c) :
    (items.flatMap f).count c < (items.flatMap g).count c := by
  rw [List.count_flatMap, List.count_flatMap]
  exact List.sum_lt_sum _ _ atMost fewer

/-- Where no emoji plays a part, a report with color is shown as one without exactly if escaping
does no harm to its texts. -/
theorem chars_eq_iff {results : List CheckResult} (noEmoji : ShowsNoEmoji results) :
    (results.flatMap reportLines).flatMap (ReportLine.coloredChars columns) =
        (results.flatMap reportLines).flatMap (fun line => lineChars columns (line.format false)) ↔
      ∀ text ∈ texts results, Survives text.toList := by
  have okSurvives : Survives "OK".toList := survives_of_not_mem (by decide)
  have plain : ∀ line ∈ results.flatMap reportLines,
      Text.replaceEmoji (line.format false).toList = (line.format false).toList := by
    intro line member
    refine noEmoji.lines _ ?_
    rw [lines_eq]
    exact List.mem_map_of_mem member
  have ok : left "OK".toList = bare "OK".toList := by
    refine left_eq_bare ?_
    rw [show pieces (trimmed "OK".toList) = [.plain "OK".toList] by decide,
      List.forall_mem_singleton]
    exact Text.replaceEmoji_of_not_mem (by decide)
  have bares : ∀ line ∈ results.flatMap reportLines,
      left line.path.toList = bare line.path.toList ∧
        left line.text.toList = bare line.text.toList :=
    (forall_reportLines_iff (P := fun text => left text.toList = bare text.toList) ok).mpr
      fun text member => left_eq_bare (noEmoji.pieces text member)
  rw [← forall_reportLines_iff (P := fun text => Survives text.toList) okSurvives]
  constructor
  · -- Backslashes tell: no line has more of them with color, and a line that loses some has fewer.
    intro same line member
    by_contra lost
    have atMost : ∀ line ∈ results.flatMap reportLines,
        (line.coloredChars columns).count '\\' ≤
          (lineChars columns (line.format false)).count '\\' := fun line member =>
      (ReportLine.count_coloredChars_le (plain line member) (bares line member)).1
    have fewer := count_flatMap_lt atMost ⟨line, member,
      (ReportLine.count_coloredChars_le (plain line member) (bares line member)).2 lost⟩
    exact Nat.ne_of_lt fewer (congrArg (List.count '\\') same)
  · intro survive
    refine List.flatMap_congr fun line member => ?_
    obtain ⟨path, text⟩ := survive line member
    obtain ⟨leftPath, leftText⟩ := bares line member
    rw [ReportLine.coloredChars, leftPath, leftText, bare_of_survives path, bare_of_survives text,
      lineChars, plain line member, ReportLine.toList_format_false]

end MapStyle.Check
