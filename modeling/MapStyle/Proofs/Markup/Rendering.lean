import MapStyle.Markup.Render
import MapStyle.Proofs.Markup.Escaping

/-!
# Rendering escaped texts

A text that is escaped and put between the tags of a style adds its characters to a line, less what
escaping loses at a bracket and at its end, and leaves no style behind that cannot be read.

* `Markup.left` is what a console shows of such a text.
* `Markup.foldlM_addPiece_styled` is the step lemma: one such text more.
* `Markup.render_of_readable` is what a console makes of a line in the end.
-/

namespace MapStyle.Markup

variable {style : List Char} {progress : Progress}

/-! ## What is left of a text -/

/-- The tag that closes the last style. -/
def closingTag : List Char := ['/']

/-- What is shown of a piece of a text that was escaped. -/
def Piece.left : Piece → List Char
  | .plain text => plainText text
  | .tag n body => backslashes n ++ plainText (bracketed body)

/-- What is shown in the place of a closing tag with backslashes before it: half of them, and the
tag itself if one of them makes it literal. -/
def closingLeft (n : Nat) : List Char :=
  backslashes (n / 2) ++ if n % 2 = 1 then bracketed closingTag else []

/-- What is shown of a text that was escaped and put between tags. -/
def left (s : List Char) : List Char :=
  (pieces (trimmed s)).flatMap Piece.left ++ closingLeft (closingSlashes s)

/-! ## One piece more -/

theorem Progress.add_nil (progress : Progress) : progress.add [] = progress := by
  obtain ⟨text, spans, opened⟩ := progress
  simp [Progress.add]

theorem Progress.add_add (progress : Progress) (s t : List Char) :
    (progress.add s).add t = progress.add (s ++ t) := by
  simp [Progress.add, List.append_assoc]

/-- Pieces with literal tags add what is left of them. -/
theorem foldlM_addPiece_literal (ps : List Piece) (progress : Progress) :
    (ps.map Piece.literal).foldlM Progress.addPiece progress =
      .ok (progress.add (ps.flatMap Piece.left)) := by
  induction ps generalizing progress with
  | nil => exact congrArg Except.ok progress.add_nil.symm
  | cons p ps ih =>
      have step : progress.addPiece p.literal = .ok (progress.add p.left) := by
        cases p with
        | plain text => rfl
        | tag n body =>
            have odd : (2 * n + 1) % 2 = 1 := by omega
            have half : (2 * n + 1) / 2 = n := by omega
            rw [Piece.literal, Progress.addPiece, if_pos odd, half, Piece.left]
      rw [List.map_cons, List.foldlM_cons, step]
      change (ps.map Piece.literal).foldlM Progress.addPiece (progress.add p.left) = _
      rw [ih, Progress.add_add, List.flatMap_cons]

/-! ## Styles -/

/-- A tag that opens a style which can be read. -/
structure IsStyle (style : List Char) : Prop where
  isBody : IsBody style
  opens : ∀ progress : Progress, progress.apply style =
    .ok { progress with opened := (⟨style, none⟩, progress.text.length) :: progress.opened }
  noAction : style.head? ≠ some '@'
  readable : (readStyle style).isOk = true

/-- A style in its canonical form, without parameters, is opened under its own name. -/
theorem isStyle_of_canonical (isBody : IsBody style) (canonical : canonicalName style = .ok style)
    (noClosing : style.head? ≠ some '/') (noAction : style.head? ≠ some '@')
    (noParameters : '=' ∉ style) : IsStyle style where
  isBody := isBody
  opens progress := by
    have all : ∀ c ∈ style, decide (c ≠ '=') = true := by
      rintro c member
      exact decide_eq_true fun same => noParameters (same ▸ member)
    have whole : Text.cutAt '=' style = (style, none) := by
      rw [Text.cutAt, List.dropWhile_eq_nil_iff.mpr all]
    have opens : openTag style = .ok ⟨style, none⟩ := by
      rw [openTag, whole]
      dsimp only
      rw [canonical]
      rfl
    unfold Progress.apply
    rw [whole]
    dsimp only
    split
    · exact (noClosing rfl).elim
    · rw [opens]
      rfl
  noAction := noAction
  readable := by
    unfold canonicalName at canonical
    cases reads : readStyle style with
    | ok text => rfl
    | error problem =>
        rw [reads] at canonical
        cases canonical

/-- So far all styles can be read, and no open tag is an action. -/
structure Progress.Readable (progress : Progress) : Prop where
  spans : ∀ span ∈ progress.spans, (readStyle span.style).isOk = true
  opened : ∀ tag ∈ progress.opened, tag.1.isAction = false ∧ (readStyle tag.1.style).isOk = true

theorem Progress.Readable.add (readable : progress.Readable) (s : List Char) :
    (progress.add s).Readable := ⟨readable.spans, readable.opened⟩

theorem Progress.Readable.open (readable : progress.Readable) (isStyle : IsStyle style) :
    Progress.Readable
      { progress with opened := (⟨style, none⟩, progress.text.length) :: progress.opened } where
  spans := readable.spans
  opened := List.forall_mem_cons.mpr
    ⟨⟨beq_eq_false_iff_ne.mpr isStyle.noAction, isStyle.readable⟩, readable.opened⟩

/-- The closing tag closes the last open one. -/
theorem Progress.Readable.close (readable : progress.Readable) {tag : OpenTag × Nat}
    {others : List (OpenTag × Nat)} (opened : progress.opened = tag :: others) :
    ∃ after, progress.apply closingTag = .ok after ∧ after.Readable ∧
      after.text = progress.text := by
  have ofTag := readable.opened tag (opened ▸ List.mem_cons_self)
  have check : checkAction tag.1 = .ok () := by
    rw [checkAction, ofTag.1]
    rfl
  refine ⟨{ progress with spans := progress.spans ++ [progress.spanOf tag], opened := others },
    ?_, ⟨?_, ?_⟩, rfl⟩
  · have closes : Progress.closed? [] progress.opened = .ok (some (tag, others)) := by
      rw [opened]
      rfl
    have noParameters : (Text.cutAt '=' closingTag).1 = closingTag := rfl
    unfold Progress.apply
    split
    · next name closing =>
        obtain rfl : [] = name := (List.cons.inj (noParameters.symm.trans closing)).2
        rw [closes]
        change (do
          checkAction tag.1
          let spans := if tag.1.isAction then [] else [progress.spanOf tag]
          return { progress with spans := progress.spans ++ spans, opened := others }) = _
        rw [check, ofTag.1]
        rfl
    · next opening => exact (opening [] noParameters).elim
  · intro span member
    rcases List.mem_append.mp member with old | new
    · exact readable.spans span old
    · rw [List.mem_singleton.mp new]
      exact ofTag.2
  · exact fun other member => readable.opened other (opened ▸ List.mem_cons_of_mem _ member)

/-- A closing tag with backslashes before it adds what is left of it. -/
theorem Progress.Readable.addPiece_closing (readable : progress.Readable) {tag : OpenTag × Nat}
    {others : List (OpenTag × Nat)} (opened : progress.opened = tag :: others) (n : Nat) :
    ∃ after, progress.addPiece (.tag n closingTag) = .ok after ∧ after.Readable ∧
      after.text = (progress.add (closingLeft n)).text := by
  rw [Progress.addPiece, closingLeft]
  have plain : plainText (bracketed closingTag) = bracketed closingTag :=
    Text.replaceEmoji_of_not_mem (by decide)
  split
  · exact ⟨_, rfl, readable.add _, by rw [plain]⟩
  · rw [List.append_nil]
    exact (readable.add (backslashes (n / 2))).close opened

/-! ## Texts in a style -/

theorem isBody_closingTag : IsBody closingTag := ⟨rfl, by decide, by decide⟩

/-- The pieces of a text that is escaped and put between the tags of a style. -/
def styledPieces (style s : List Char) : List Piece :=
  .tag 0 style :: ((pieces (trimmed s)).map Piece.literal ++ [.tag (closingSlashes s) closingTag])

theorem pieces_styled (isStyle : IsStyle style) (s rest : List Char) :
    pieces (bracketed style ++ (escape s ++ (bracketed closingTag ++ rest))) =
      styledPieces style s ++ pieces rest := by
  have opening := pieces_tag (n := 0) isStyle.isBody (escape s ++ (bracketed closingTag ++ rest))
  rw [backslashes, List.replicate_zero, List.nil_append] at opening
  rw [opening, pieces_escape_append s isBody_closingTag, styledPieces, List.cons_append,
    List.append_assoc]
  rfl

/-- A text in a style adds what is left of it. -/
theorem foldlM_addPiece_styled (readable : progress.Readable) (isStyle : IsStyle style)
    (s : List Char) :
    ∃ after, (styledPieces style s).foldlM Progress.addPiece progress = .ok after ∧
      after.Readable ∧ after.text = (progress.add (left s)).text := by
  let opened : Progress :=
    { progress with opened := (⟨style, none⟩, progress.text.length) :: progress.opened }
  have opens : progress.addPiece (.tag 0 style) = .ok opened := by
    change (progress.add []).apply style = _
    rw [progress.add_nil, isStyle.opens]
  let inside := opened.add ((pieces (trimmed s)).flatMap Piece.left)
  obtain ⟨after, closes, readableAfter, text⟩ :=
    ((readable.open isStyle).add ((pieces (trimmed s)).flatMap Piece.left)).addPiece_closing
      (show inside.opened = _ :: progress.opened from rfl) (closingSlashes s)
  refine ⟨after, ?_, readableAfter, ?_⟩
  · rw [styledPieces, List.foldlM_cons, opens]
    change List.foldlM Progress.addPiece opened _ = _
    rw [List.foldlM_append, foldlM_addPiece_literal]
    change List.foldlM Progress.addPiece inside _ = _
    rw [List.foldlM_cons, closes]
    rfl
  · rw [text, Progress.add_add]
    rfl

/-! ## Lines -/

/-- What a console makes of a line whose styles can be read. -/
theorem render_of_readable {line : List Char}
    (folds : (pieces line).foldlM Progress.addPiece .start = .ok progress)
    (readable : progress.Readable) (columns : Nat) :
    render columns line = .ok (Text.onConsole columns progress.text) := by
  have finish : ∀ span ∈ progress.finish.spans, (readStyle span.style).isOk = true := by
    intro span member
    rcases List.mem_append.mp member with closed | opened
    · exact readable.spans span closed
    · obtain ⟨tag, among, rfl⟩ := List.mem_map.mp opened
      exact (readable.opened tag among).2
  have needed : ∀ name ∈ progress.finish.neededStyles columns, (readStyle name).isOk = true := by
    intro name member
    obtain ⟨span, among, rfl⟩ := List.mem_map.mp member
    refine finish span ?_
    unfold StyledText.neededSpans at among
    split_ifs at among
    · exact (List.mem_filter.mp among).1
    · exact among
    · exact (List.mem_filter.mp among).1
  have reads : ∀ names : List (List Char), (∀ name ∈ names, (readStyle name).isOk = true) →
      ∃ styles, names.mapM readStyle = .ok styles := by
    intro names each
    induction names with
    | nil => exact ⟨[], rfl⟩
    | cons name names ih =>
        rw [List.forall_mem_cons] at each
        obtain ⟨styles, others⟩ := ih each.2
        cases here : readStyle name with
        | error problem =>
            rw [here] at each
            cases each.1
        | ok style => exact ⟨style :: styles, by rw [List.mapM_cons, here, others]; rfl⟩
  obtain ⟨styles, answers⟩ := reads _ needed
  unfold render styledText
  rw [folds]
  change (do
    let _ ← (progress.finish.neededStyles columns).mapM readStyle
    return Text.onConsole columns progress.finish.text) = _
  rw [answers]
  rfl

end MapStyle.Markup
