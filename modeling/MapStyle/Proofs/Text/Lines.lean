import MapStyle.Proofs.Text.Console
import MapStyle.Proofs.Text.Emoji

/-!
# Lines on a console

A console shows a text in lines: one more than the text has line feeds.  What it drops or fills in
starts no line, and the blanks that it cuts off stand behind all else.

* `Text.shownLines` are the lines, and `Text.onConsole_concat` says that they are what is shown.
* `Text.length_shownLines` counts them.
* `Text.exists_shownLines` is the start of the first one.
-/

namespace MapStyle.Text

/-! ## Cutting a text -/

section Cutting

variable {c : Char} {s t piece : List Char}

theorem splitAt_cons_of_ne {d : Char} (other : d ≠ c) (s : List Char) :
    ∃ piece others, splitAt c s = piece :: others ∧ splitAt c (d :: s) = (d :: piece) :: others := by
  have keeps : (d == c) = false := beq_eq_false_iff_ne.mpr other
  cases pieces : splitAt c s with
  | nil => exact (splitWhere_ne_nil _ s pieces).elim
  | cons piece others =>
      refine ⟨piece, others, rfl, ?_⟩
      unfold splitAt at pieces ⊢
      rw [splitWhere, pieces, keeps]
      rfl

theorem splitAt_cons_self (c : Char) (s : List Char) : splitAt c (c :: s) = [] :: splitAt c s := by
  unfold splitAt
  rw [splitWhere, beq_self_eq_true]
  rfl

/-- There is one piece more than there are separators. -/
theorem length_splitAt (c : Char) (s : List Char) : (splitAt c s).length = s.count c + 1 := by
  induction s with
  | nil => rfl
  | cons d s ih =>
      by_cases same : d = c
      · rw [same, splitAt_cons_self, List.length_cons, ih, List.count_cons_self]
      · obtain ⟨piece, others, pieces, longer⟩ := splitAt_cons_of_ne same s
        rw [pieces] at ih
        rw [longer, List.count_cons_of_ne same, ← ih]
        rfl

theorem not_mem_of_mem_splitAt (isPiece : piece ∈ splitAt c s) : c ∉ piece := by
  intro member
  have separates := separates_of_mem_splitWhere isPiece member
  rw [beq_self_eq_true] at separates
  cases separates

/-- What stands before the first separator belongs to the first piece. -/
theorem exists_splitAt_append (none : c ∉ t) (s : List Char) :
    ∃ piece others, splitAt c s = piece :: others ∧ splitAt c (t ++ s) = (t ++ piece) :: others := by
  induction t with
  | nil =>
      cases pieces : splitAt c s with
      | nil => exact (splitWhere_ne_nil _ s pieces).elim
      | cons piece others => exact ⟨piece, others, rfl, pieces⟩
  | cons d t ih =>
      obtain ⟨piece, others, pieces, joined⟩ := ih (List.not_mem_of_not_mem_cons none)
      obtain ⟨whole, rest, isWhole, longer⟩ :=
        splitAt_cons_of_ne (List.ne_of_not_mem_cons none).symm (t ++ s)
      rw [joined, List.cons.injEq] at isWhole
      obtain ⟨rfl, rfl⟩ := isWhole
      exact ⟨piece, others, pieces, longer⟩

theorem intercalate_concat (lines : List (List Char)) (nonempty : lines ≠ []) :
    [c].intercalate lines ++ [c] = lines.flatMap (· ++ [c]) := by
  unfold List.intercalate
  induction lines with
  | nil => exact (nonempty rfl).elim
  | cons line lines ih =>
      cases lines with
      | nil => simp
      | cons next lines =>
          rw [List.flatMap_cons, ← ih (List.cons_ne_nil _ _), List.intersperse_cons_cons,
            List.flatten_cons, List.flatten_cons]
          simp only [List.append_assoc]

end Cutting

/-! ## One line -/

section Line

variable {c : Char}

/-- The tabs behind a place are filled up without regard to what stands before it, the column
apart. -/
theorem exists_expandTabs_append (column : Nat) (s t : List Char) :
    ∃ behind, expandTabs column (s ++ t) = expandTabs column s ++ expandTabs behind t := by
  induction s generalizing column with
  | nil => exact ⟨column, rfl⟩
  | cons d s ih =>
      rw [List.cons_append, expandTabs, expandTabs]
      dsimp only
      split
      · obtain ⟨behind, same⟩ := ih ((column / tabWidth + 1) * tabWidth)
        exact ⟨behind, by rw [same, List.append_assoc]⟩
      · obtain ⟨behind, same⟩ := ih (column + charWidth d)
        exact ⟨behind, by rw [same, List.cons_append]⟩

theorem expandTabs_of_not_mem {s : List Char} (noTab : '\t' ∉ s) (column : Nat) :
    expandTabs column s = s := by
  induction s generalizing column with
  | nil => rfl
  | cons d s ih =>
      rw [expandTabs, if_neg (List.ne_of_not_mem_cons noTab).symm,
        ih (List.not_mem_of_not_mem_cons noTab)]

/-- Only blanks are filled in. -/
theorem mem_of_mem_expandTabs (other : c ≠ ' ') {column : Nat} {s : List Char}
    (member : c ∈ expandTabs column s) : c ∈ s := by
  induction s generalizing column with
  | nil => exact member
  | cons d s ih =>
      rw [expandTabs] at member
      dsimp only at member
      split at member
      · rcases List.mem_append.mp member with filled | later
        · exact (other (List.eq_of_mem_replicate filled)).elim
        · exact List.mem_cons_of_mem d (ih later)
      · rcases List.mem_cons.mp member with rfl | later
        · exact List.mem_cons_self
        · exact List.mem_cons_of_mem d (ih later)

theorem mem_of_mem_consoleLine (other : c ≠ ' ') {line : List Char}
    (member : c ∈ consoleLine columns line) : c ∈ line :=
  mem_of_mem_expandTabs other (List.mem_of_mem_take member)

/-- A line is shown at least up to its last character that is no blank. -/
theorem prefix_cropEnd (ink : isBlank c = false) (s t : List Char) :
    s ++ [c] <+: cropEnd columns (s ++ c :: t) := by
  have blanks : ((s ++ c :: t).reverse.takeWhile isBlank).length ≤ t.length := by
    have stops : (t.reverse ++ c :: s.reverse).takeWhile isBlank = t.reverse.takeWhile isBlank := by
      rw [List.takeWhile_append, List.takeWhile_cons_of_neg (by rw [ink]; exact Bool.false_ne_true)]
      split
      · next whole => rw [List.append_nil, (List.takeWhile_prefix isBlank).eq_of_length whole]
      · rfl
    rw [List.reverse_append, List.reverse_cons, List.append_assoc, List.singleton_append, stops]
    exact (List.takeWhile_sublist _).length_le.trans_eq List.length_reverse
  have whole : s ++ c :: t = (s ++ [c]) ++ t := (List.append_assoc s [c] t).symm
  have start : s ++ [c] = (s ++ c :: t).take (s.length + 1) := by
    have size : (s ++ [c]).length = s.length + 1 := List.length_append
    rw [whole, ← size, List.take_left]
  rw [start, cropEnd]
  refine List.take_prefix_take_left ?_
  rw [List.length_append, List.length_cons]
  omega

end Line

/-! ## The lines of a text -/

/-- The lines in which a console shows a text. -/
def shownLines (columns : Nat) (s : List Char) : List (List Char) :=
  (splitAt '\n' (s.filter (!isDropped ·))).map (consoleLine columns)

variable {columns : Nat}

theorem onConsole_concat (s : List Char) :
    onConsole columns s ++ ['\n'] = (shownLines columns s).flatMap (· ++ ['\n']) := by
  refine intercalate_concat _ ?_
  rw [ne_eq, List.map_eq_nil_iff]
  exact splitWhere_ne_nil _ _

theorem length_shownLines (s : List Char) :
    (shownLines columns s).length = s.count '\n' + 1 := by
  rw [shownLines, List.length_map, length_splitAt, List.count_filter (by decide)]

theorem not_mem_of_mem_shownLines {s line : List Char} (member : line ∈ shownLines columns s) :
    '\n' ∉ line := by
  obtain ⟨piece, isPiece, rfl⟩ := List.mem_map.mp member
  exact fun within => not_mem_of_mem_splitAt isPiece (mem_of_mem_consoleLine (by decide) within)

/-- The first line starts with what stands at the start of the text, up to a character that is
neither blank nor dropped. -/
theorem exists_shownLines {s : List Char} {c : Char} (none : '\n' ∉ s) (ink : isBlank c = false)
    (shown : isDropped c = false) (t : List Char) :
    ∃ first others, shownLines columns (s ++ c :: t) = first :: others ∧
      expandTabs 0 (s.filter (!isDropped ·)) ++ [c] <+: first := by
  have notTab : '\t' ≠ c := by
    rintro rfl
    exact absurd ink (by decide)
  have notBreak : '\n' ≠ c := by
    rintro rfl
    exact absurd ink (by decide)
  have whole : (s ++ c :: t).filter (!isDropped ·) =
      (s.filter (!isDropped ·) ++ [c]) ++ t.filter (!isDropped ·) := by
    rw [List.filter_append, List.filter_cons_of_pos (by rw [shown]; rfl), List.append_assoc,
      List.singleton_append]
  have noBreak : '\n' ∉ s.filter (!isDropped ·) ++ [c] := by
    rw [List.mem_append, List.mem_singleton, not_or]
    exact ⟨fun member => none (List.mem_filter.mp member).1, notBreak⟩
  obtain ⟨piece, others, -, joined⟩ := exists_splitAt_append noBreak (t.filter (!isDropped ·))
  obtain ⟨column, expanded⟩ := exists_expandTabs_append 0 (s.filter (!isDropped ·)) (c :: piece)
  refine ⟨_, _, by rw [shownLines, whole, joined, List.map_cons], ?_⟩
  rw [consoleLine, List.append_assoc, List.singleton_append, expanded, expandTabs,
    if_neg notTab.symm]
  exact prefix_cropEnd ink _ _

end MapStyle.Text
