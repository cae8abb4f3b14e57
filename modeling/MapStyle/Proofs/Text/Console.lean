import Mathlib.Algebra.BigOperators.Group.List.Basic
import Mathlib.Algebra.GroupWithZero.Nat
import Mathlib.Data.List.DropRight
import MapStyle.Text.Console

/-!
# What a console keeps

A console drops some control characters, fills in blanks for tabs and cuts blanks off.  Any other
character it shows as often as it is in the text.
-/

namespace MapStyle.Text

variable {c : Char} {columns : Nat}

theorem count_intercalate {separator : Char} (ne : separator ≠ c) (lines : List (List Char)) :
    ([separator].intercalate lines).count c = (lines.map (List.count c)).sum := by
  unfold List.intercalate
  induction lines with
  | nil => rfl
  | cons line lines ih =>
      cases lines with
      | nil => simp
      | cons next lines =>
          rw [List.intersperse_cons_cons, List.flatten_cons, List.flatten_cons, List.count_append,
            List.count_append, ih, List.count_cons_of_ne ne, List.count_nil, Nat.zero_add]
          rfl

theorem count_expandTabs (ink : isBlank c = false) (column : Nat) (s : List Char) :
    (expandTabs column s).count c = s.count c := by
  have notTab : '\t' ≠ c := by
    rintro rfl
    exact absurd ink (by decide)
  have notSpace : ' ' ≠ c := by
    rintro rfl
    exact absurd ink (by decide)
  induction s generalizing column with
  | nil => rfl
  | cons d s ih =>
      rw [expandTabs]
      split
      · next tab =>
          dsimp only
          rw [List.count_append, ih, tab, List.count_cons_of_ne notTab,
            List.count_eq_zero_of_not_mem fun member =>
              notSpace (List.eq_of_mem_replicate member).symm,
            Nat.zero_add]
      · rw [List.count_cons, List.count_cons, ih]

/-- Only blanks at the end of a line are cut off. -/
theorem count_cropEnd (ink : isBlank c = false) (line : List Char) :
    (cropEnd columns line).count c = line.count c := by
  have whole : line.rdropWhile isBlank ++ line.rtakeWhile isBlank = line :=
    List.rdropWhile_append_rtakeWhile
  have blanks : (line.reverse.takeWhile isBlank).length = (line.rtakeWhile isBlank).length := by
    rw [List.rtakeWhile, List.length_reverse]
  have sizes := congrArg List.length whole
  rw [List.length_append] at sizes
  unfold cropEnd
  rw [blanks]
  dsimp only
  generalize kept : line.length -
    min (line.rtakeWhile isBlank).length (line.length - columns) = n
  have cut : (line.drop n).count c = 0 := by
    refine List.count_eq_zero_of_not_mem fun member => ?_
    rw [← whole, List.drop_append, List.drop_of_length_le (by omega), List.nil_append] at member
    rw [List.mem_rtakeWhile_imp (List.mem_of_mem_drop member)] at ink
    cases ink
  have split := congrArg (List.count c) (List.take_append_drop n line)
  rwa [List.count_append, cut, Nat.add_zero] at split

/-- A character that is neither dropped nor blank is shown as often as it stands in the text. -/
theorem count_onConsole (shown : isDropped c = false) (ink : isBlank c = false) (s : List Char) :
    (onConsole columns s).count c = s.count c := by
  have notBreak : '\n' ≠ c := by
    rintro rfl
    exact absurd ink (by decide)
  have lines : ((splitAt '\n' (s.filter (!isDropped ·))).map (consoleLine columns)).map
        (List.count c) =
      (splitAt '\n' (s.filter (!isDropped ·))).map (List.count c) := by
    rw [List.map_map]
    refine List.map_congr_left fun line _ => ?_
    rw [Function.comp_apply, consoleLine, count_cropEnd ink, count_expandTabs ink]
  rw [onConsole, count_intercalate notBreak, lines, ← count_intercalate notBreak,
    intercalate_splitAt]
  exact List.count_filter (by simp [shown])

/-- What a console drops can be dropped before. -/
theorem onConsole_filter (s : List Char) :
    onConsole columns (s.filter (!isDropped ·)) = onConsole columns s := by
  rw [onConsole, List.filter_filter, onConsole]
  simp only [Bool.and_self]

end MapStyle.Text
