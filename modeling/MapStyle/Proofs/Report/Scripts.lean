import MapStyle.Proofs.Report.Coloring
import MapStyle.Proofs.Script.Calls

/-!
# Reports of scripts

A script can take each step of a report by itself: make the lines, prepare them for output, and
print that on a console.  It comes to the same text as in a command.

* `exec_reportLines`, `exec_prepareLines` and `exec_print` are the three steps, `exec_printReport`
  is a whole report.
* `printReport_same_iff` says when color changes nothing but the style.
-/

namespace MapStyle.Script

open Act

variable {s : Session}

/-! ## Lines -/

theorem isStructural_texts (texts : List String) : ∀ w ∈ texts.map Value.str,
    w.isStructural = true := by
  rw [List.forall_mem_map]
  exact fun _ _ => rfl

theorem isStructural_toValue (result : CheckResult) : result.toValue.isStructural = true := by
  refine Value.isStructural_iff.mpr ⟨rfl, List.forall_mem_cons.mpr ⟨rfl, ?_⟩⟩
  exact List.forall_mem_singleton.mpr
    (Value.isStructural_iff.mpr ⟨rfl, isStructural_texts result.problems⟩)

/-- The lines about a result that is a value. -/
theorem resultLines_toValue (enabled : Bool) (result : CheckResult) :
    resultLines enabled result.toValue = .ok (Check.resultLines enabled result) := by
  have problemLines : ∀ (path : String) (problems : List String),
      (problems.map Value.str).mapM (problemLine enabled (.str path)) =
        .ok (problems.map fun problem =>
          pathLabel path enabled ++ ": " ++ problemText problem enabled) := by
    intro path problems
    induction problems with
    | nil => rfl
    | cons problem problems ih =>
        rw [List.map_cons, List.mapM_cons, ih]
        cases enabled <;> rfl
  obtain ⟨path, problems⟩ := result
  cases problems with
  | nil => cases enabled <;> rfl
  | cons problem problems => exact problemLines path (problem :: problems)

theorem reportLinesOf_toValue (enabled : Bool) (results : List CheckResult) :
    reportLinesOf enabled (results.map CheckResult.toValue) =
      .ok (textList (Check.lines results enabled)) := by
  have each : (results.map CheckResult.toValue).mapM (resultLines enabled) =
      .ok (results.map (Check.resultLines enabled)) := by
    induction results with
    | nil => rfl
    | cons result results ih =>
        rw [List.map_cons, List.mapM_cons, resultLines_toValue, ih]
        rfl
  rw [reportLinesOf, each]
  rfl

theorem exec_reportLines (results : List CheckResult) (enabled : Bool) :
    exec ((Function.tool .reportLines).run (Bound.map .value
      ⟨[some (.list (results.map CheckResult.toValue)), some (.bool enabled)], []⟩)) s =
        (.ok (textList (Check.lines results enabled)), s) := by
  let args : Arguments :=
    ⟨[some (.list (results.map CheckResult.toValue)), some (.bool enabled)], []⟩
  have structural : ∀ v ∈ args.given, v.isStructural = true := by
    refine List.forall_mem_cons.mpr ⟨Value.isStructural_list ?_, List.forall_mem_singleton.mpr rfl⟩
    exact List.forall_mem_map.mpr fun result _ => isStructural_toValue result
  change exec ((Function.tool .reportLines).run (Bound.map .value args)) s = _
  rw [Function.run, exec_bind_of_ok (Bound.exec_values args s)]
  change exec (do
    let args ← Arguments.mapM Act.resolve args
    Act.ofExcept (ToolFunction.reportLines.answer args.fixed)) s = _
  rw [exec_bind_of_ok (Arguments.exec_resolve_of_isStructural structural), exec_ofExcept]
  have on : switchOf (.bool enabled) = enabled := by cases enabled <;> rfl
  change (reportLinesOf (switchOf (.bool enabled)) (results.map CheckResult.toValue), s) = _
  rw [on, reportLinesOf_toValue]

/-! ## Output -/

/-- Lines as prepared output. -/
def preparedLines (lines : List String) (markup : Bool) : Value :=
  .preparedOutput
    (.tuple (lines.map fun line => OutputOperation.lineValue (.str line) (.bool markup)))

theorem exec_prepareLines (lines : List String) (markup : Bool) :
    exec ((Function.tool .prepareLines).run (Bound.map .value
      ⟨[some (textList lines), some (.bool markup)], []⟩)) s =
        (.ok (preparedLines lines markup), s) := by
  rw [Function.run, exec_bind_of_ok (Bound.exec_values _ s), preparedLines]
  change (Except.ok (Value.preparedOutput (.tuple ((lines.map Value.str).map _))), s) = _
  rw [List.map_map]
  rfl

/-- One line more on a console. -/
theorem exec_printOperation {line : String} {markup : Bool} {text : List Char}
    (shows : Output.operationText columns (.line line markup) = .ok text) (mark : Nat)
    (colored : Bool) :
    exec (printOperation (.console mark columns colored)
      (OutputOperation.lineValue (.str line) (.bool markup))) s =
        (.ok (), { s with printed := s.printed ++ text }) := by
  have operation : operationOf columns (OutputOperation.lineValue (.str line) (.bool markup)) =
      .ok (some (.line line markup)) := by
    cases markup <;> rfl
  unfold printOperation columnsOf
  dsimp only
  rw [operation, exec_bind_of_ok (exec_ofExcept _ s)]
  dsimp only
  rw [shows]
  rfl

theorem isStructural_preparedLines (lines : List String) (markup : Bool) :
    (preparedLines lines markup).isStructural = true := by
  have line : ∀ text : String,
      (OutputOperation.lineValue (.str text) (.bool markup)).isStructural = true := by
    intro text
    refine Value.isStructural_iff.mpr ⟨rfl, fun w child => ?_⟩
    simp only [OutputOperation.lineValue, Value.children, List.mem_cons, List.not_mem_nil,
      or_false] at child
    rcases child with rfl | rfl | rfl | rfl <;> rfl
  refine Value.isStructural_iff.mpr ⟨rfl, List.forall_mem_singleton.mpr ?_⟩
  refine Value.isStructural_iff.mpr ⟨rfl, ?_⟩
  exact List.forall_mem_map.mpr fun text _ => line text

/-- Lines that can be printed are printed. -/
theorem exec_print {lines : List String} {markup : Bool} {text : List Char}
    (shows : Output.printed columns (Output.ofLines lines markup) = .ok text) (mark : Nat)
    (colored : Bool) :
    exec ((Function.tool .print).run (Bound.map .value
      ⟨[some (.console mark columns colored), some (preparedLines lines markup)], []⟩)) s =
        (.ok .null, { s with printed := s.printed ++ text }) := by
  have each : ∀ (lines : List String) (text : List Char) (s : Session),
      Output.printed columns (Output.ofLines lines markup) = .ok text →
      exec ((lines.map fun line => OutputOperation.lineValue (.str line) (.bool markup)).forM
        (printOperation (.console mark columns colored))) s =
          (.ok (), { s with printed := s.printed ++ text }) := by
    intro lines
    induction lines with
    | nil =>
        intro text s shows
        cases shows
        rw [List.append_nil]
        rfl
    | cons line lines ih =>
        intro text s shows
        obtain ⟨first, here, shows⟩ := except_bind_eq_ok.mp shows
        obtain ⟨others, rest, same⟩ := except_bind_eq_ok.mp shows
        cases same
        change exec (do
          printOperation (.console mark columns colored)
            (OutputOperation.lineValue (.str line) (.bool markup))
          (lines.map fun line => OutputOperation.lineValue (.str line) (.bool markup)).forM
            (printOperation (.console mark columns colored))) s = _
        rw [exec_bind_of_ok (exec_printOperation here mark colored), ih others _ rest,
          List.append_assoc]
  have resolves : exec (Act.resolve (preparedLines lines markup)) s =
      (.ok (preparedLines lines markup), s) := by
    rw [exec_resolve, LayerStore.resolve,
      LayerStore.resolveWithin_of_isStructural _ _ _ (isStructural_preparedLines lines markup)]
  rw [Function.run, exec_bind_of_ok (Bound.exec_values _ s)]
  change exec (Act.resolve (preparedLines lines markup) >>=
    printOutput (.console mark columns colored)) s = _
  rw [exec_bind_of_ok resolves]
  change exec (do
    (lines.map fun line => OutputOperation.lineValue (.str line) (.bool markup)).forM
      (printOperation (.console mark columns colored))
    return Value.null) s = _
  rw [exec_bind_of_ok (each lines text s shows), exec_pure]

/-! ## Reports -/

/-- Print a report on a console, with color or without. -/
def printReport (console : Value) (results : List CheckResult) (enabled : Bool) : Act Value := do
  let lines ← (Function.tool .reportLines).run (Bound.map .value
    ⟨[some (.list (results.map CheckResult.toValue)), some (.bool enabled)], []⟩)
  let output ← (Function.tool .prepareLines).run (Bound.map .value
    ⟨[some lines, some (.bool enabled)], []⟩)
  (Function.tool .print).run (Bound.map .value ⟨[some console, some output], []⟩)

theorem exec_printReport {results : List CheckResult} {enabled : Bool} {text : List Char}
    (shows : Output.printed columns (Output.ofLines (Check.lines results enabled) enabled) = .ok text)
    (mark : Nat) (colored : Bool) :
    exec (printReport (.console mark columns colored) results enabled) s =
      (.ok .null, { s with printed := s.printed ++ text }) := by
  rw [printReport, exec_bind_of_ok (exec_reportLines results enabled),
    exec_bind_of_ok (exec_prepareLines _ enabled), exec_print shows mark colored]

/-- A report with color can be printed on a console without color, as one without can.  Of a line
with color its texts are left, with a colon and a blank between them; and where no emoji plays a
part, the printed text is the same as without color if and only if escaping does no harm to any path
or problem. -/
theorem printReport_same_iff (results : List CheckResult) (mark columns : Nat) (s : Session) :
    ∃ colored plain : List Char,
      exec (printReport (.console mark columns false) results true) s =
        (.ok .null, { s with printed := s.printed ++ colored }) ∧
      exec (printReport (.console mark columns false) results false) s =
        (.ok .null, { s with printed := s.printed ++ plain }) ∧
      Output.printed columns (Output.ofLines (Check.lines results true) true) = .ok colored ∧
      Output.printed columns (Output.ofLines (Check.lines results false) false) = .ok plain ∧
      colored =
        (results.flatMap Check.reportLines).flatMap (Check.ReportLine.coloredChars columns) ∧
      (Check.ShowsNoEmoji results →
        (colored = plain ↔ ∀ text ∈ Check.texts results, Markup.Survives text.toList)) := by
  have withColor : Output.printed columns (Output.ofLines (Check.lines results true) true) = _ :=
    Check.printed_colored results
  have without : Output.printed columns (Output.ofLines (Check.lines results false) false) = _ :=
    Check.printed_plain results
  exact ⟨_, _, exec_printReport withColor mark false, exec_printReport without mark false, withColor,
    without, rfl, fun noEmoji => Check.chars_eq_iff noEmoji⟩

/-- Brackets are shown with color as they are without. -/
theorem printReport_same_iff_brackets :
    let results : List CheckResult := [⟨"a[b].json", ["no [/] here", "[x"]⟩, ⟨"c.json", []⟩]
    let s := Session.start ⟨"/", fun _ => .ok .empty, 80⟩
    exec (printReport (.console 0 80 false) results true) s =
      exec (printReport (.console 0 80 false) results false) s := by
  intro results s
  obtain ⟨colored, plain, withColor, without, -, -, -, same⟩ := printReport_same_iff results 0 80 s
  have noEmoji : Check.ShowsNoEmoji results := Check.showsNoEmoji_of_not_mem (by decide)
  have survive : ∀ text ∈ Check.texts results, Markup.Survives text.toList := fun text member =>
    Markup.survives_of_not_mem
      ((by decide : ∀ text ∈ Check.texts results, '\\' ∉ text.toList) text member)
  rw [withColor, without, (same noEmoji).mpr survive]

/-- Of two backslashes at the end of a path one is shown with color, and both are without. -/
theorem printReport_backslashes :
    let results : List CheckResult := [⟨"a\\\\", []⟩]
    let s := Session.start ⟨"/", fun _ => .ok .empty, 80⟩
    (exec (printReport (.console 0 80 false) results true) s).2.printed = "a\\: OK\n".toList ∧
      (exec (printReport (.console 0 80 false) results false) s).2.printed =
        "a\\\\: OK\n".toList := by
  intro results s
  have shown : ∀ text ∈ ["a\\\\", "OK"],
      Markup.left text.toList = Markup.bare text.toList := fun text member =>
    Check.left_eq_bare (Markup.left_eq_bare_of_not_mem
      ((by decide : ∀ text ∈ ["a\\\\", "OK"], ':' ∉ text.toList) text member))
  constructor
  · rw [exec_printReport (Check.printed_colored results) 0 false]
    change (Check.ReportLine.coloredChars 80 ⟨"a\\\\", "OK", okStyle⟩ ++ []) = _
    rw [Check.ReportLine.coloredChars, shown "a\\\\" (by simp), shown "OK" (by simp)]
    decide
  · rw [exec_printReport (Check.printed_plain results) 0 false]
    change (Check.lineChars 80 "a\\\\: OK" ++ []) = _
    rw [Check.lineChars,
      show "a\\\\: OK".toList = ['a', '\\', '\\'] ++ ':' :: [' ', 'O', 'K'] from rfl,
      Check.replaceEmoji_of_single (by decide) (by decide)]
    decide

end MapStyle.Script
