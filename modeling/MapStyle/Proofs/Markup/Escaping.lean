import MapStyle.Proofs.Markup.Pieces

/-!
# Escaped texts

An escaped text in front of a tag: no tag in it counts, and the backslashes at its end become those
in front of the tag.

* `Markup.escape_eq` says what escaping does to the end of a text.
* `Markup.pieces_escape_append` are the pieces of an escaped text and of the tag behind it.
-/

namespace MapStyle.Markup

variable {n : Nat} {c : Char} {s t rest body after : List Char}

/-! ## The end of a text -/

/-- A text without the backslashes at its end. -/
def trimmed (s : List Char) : List Char := s.rdropWhile (· == '\\')

/-- How many backslashes stand at the end of a text. -/
def ending (s : List Char) : Nat := (s.rtakeWhile (· == '\\')).length

theorem trimmed_append_ending (s : List Char) : trimmed s ++ backslashes (ending s) = s := by
  have slashes : s.rtakeWhile (· == '\\') = backslashes (ending s) :=
    List.eq_replicate_iff.mpr ⟨rfl, fun c member => by simpa using List.mem_rtakeWhile_imp member⟩
  rw [← slashes]
  exact List.rdropWhile_append_rtakeWhile

theorem trimmed_backslashes (n : Nat) : trimmed (backslashes n) = [] :=
  List.rdropWhile_eq_nil_iff.mpr fun c member => by simp [eq_of_mem_backslashes member]

theorem ending_backslashes (n : Nat) : ending (backslashes n) = n := by
  have all : (backslashes n).rtakeWhile (· == '\\') = backslashes n :=
    List.rtakeWhile_eq_self_iff.mpr fun c member => by simp [eq_of_mem_backslashes member]
  rw [ending, all, backslashes, List.length_replicate]

/-- The backslashes at the end stand behind the last other character. -/
theorem trimmed_append_cons (other : c ≠ '\\') (s t : List Char) :
    trimmed (s ++ c :: t) = s ++ c :: trimmed t := by
  unfold trimmed
  induction t using List.reverseRecOn with
  | nil => rw [List.rdropWhile_concat_neg _ _ _ (by simp [other]), List.rdropWhile_nil]
  | append_singleton t d ih =>
      rw [← List.cons_append, ← List.append_assoc, List.rdropWhile_concat, List.rdropWhile_concat,
        ih]
      split <;> simp

theorem ending_append_cons (other : c ≠ '\\') (s t : List Char) :
    ending (s ++ c :: t) = ending t := by
  unfold ending
  induction t using List.reverseRecOn with
  | nil => rw [List.rtakeWhile_concat_neg _ _ _ (by simp [other]), List.rtakeWhile_nil]
  | append_singleton t d ih =>
      rw [← List.cons_append, ← List.append_assoc, List.rtakeWhile_concat, List.rtakeWhile_concat]
      split
      · rw [List.length_append, ih, List.length_append]
      · rfl

/-- What is cut off a bracketed text stands behind its bracket. -/
theorem trimmed_bracketed (body t : List Char) (n : Nat) :
    trimmed (backslashes n ++ (bracketed body ++ t)) =
      backslashes n ++ (bracketed body ++ trimmed t) := by
  have split : ∀ r, backslashes n ++ (bracketed body ++ r) =
      (backslashes n ++ '[' :: body) ++ ']' :: r := fun r => by simp [bracketed]
  rw [split, trimmed_append_cons (by decide), ← split]

theorem ending_bracketed (body t : List Char) (n : Nat) :
    ending (backslashes n ++ (bracketed body ++ t)) = ending t := by
  have split : backslashes n ++ (bracketed body ++ t) =
      (backslashes n ++ '[' :: body) ++ ']' :: t := by simp [bracketed]
  rw [split, ending_append_cons (by decide)]

/-! ## Literal tags -/

/-- A text with its tags made literal. -/
def escapeTags (s : List Char) : List Char := (pieces s).flatMap Piece.escaped

/-- A piece with its tag made literal, as a piece. -/
def Piece.literal : Piece → Piece
  | .plain text => .plain text
  | .tag n body => .tag (2 * n + 1) body

theorem flatMap_escaped_addPlain (s : List Char) (ps : List Piece) :
    (addPlain s ps).flatMap Piece.escaped = s ++ ps.flatMap Piece.escaped := by
  cases ps with
  | nil => simp [addPlain, Piece.escaped]
  | cons p ps => cases p <;> simp [addPlain, Piece.escaped]

theorem escapeTags_backslashes (n : Nat) : escapeTags (backslashes n) = backslashes n := by
  rw [escapeTags, pieces_backslashes]
  split
  · next zero => rw [zero]; rfl
  · simp [Piece.escaped]

theorem escapeTags_text (other : c ≠ '\\') (noTag : tagAt? (c :: s) = none) :
    escapeTags (backslashes n ++ c :: s) = backslashes n ++ c :: escapeTags s := by
  rw [escapeTags, pieces_text other noTag, flatMap_escaped_addPlain, List.append_assoc]
  rfl

theorem escapeTags_tag (isBody : IsBody body) (after : List Char) :
    escapeTags (backslashes n ++ (bracketed body ++ after)) =
      backslashes (2 * n + 1) ++ (bracketed body ++ escapeTags after) := by
  rw [escapeTags, pieces_tag isBody, List.flatMap_cons, Piece.escaped, List.append_assoc]
  rfl

theorem ending_escapeTags (s : List Char) : ending (escapeTags s) = ending s := by
  induction s using cut_induction with
  | finish n => rw [escapeTags_backslashes]
  | text n c s other noTag ih =>
      rw [escapeTags_text other noTag, ending_append_cons other, ending_append_cons other, ih]
  | tag n body s isBody ih => rw [escapeTags_tag isBody, ending_bracketed, ending_bracketed, ih]

/-- A text that ends with exactly one backslash gets another one, and no other text is changed at
its end. -/
theorem escape_eq (s : List Char) :
    escape s = escapeTags s ++ backslashes (if ending s = 1 then 1 else 0) := by
  have close : ∀ t, closeBackslash t = t ++ backslashes (if ending t = 1 then 1 else 0) := by
    intro t
    have count : ending t = (t.reverse.takeWhile (· == '\\')).length := by
      rw [ending, List.rtakeWhile, List.length_reverse]
    unfold closeBackslash
    rw [count]
    split
    · next others same => simp [same, backslashes]
    · next others more same =>
        rw [same]
        cases others with
        | nil => rfl
        | cons d others =>
            have other : d ≠ '\\' := fun same => more others (by rw [same])
            simp [other, backslashes]
    · next one =>
        cases last : t.reverse with
        | nil => simp [backslashes]
        | cons d others =>
            have other : d ≠ '\\' := fun same => one others (by rw [last, same])
            simp [other, backslashes]
  rw [escape, close, ← escapeTags, ending_escapeTags]

/-! ## In front of a tag -/

/-- Where no tag starts, none starts if what follows starts in the same way or with no tag at all,
and does not end either. -/
theorem tagAt?_cons_eq_none (noTag : tagAt? (c :: s) = none)
    (starts : t.head?.any startsTag = true → s.head?.any startsTag = true)
    (ends : bodyEnd? s = none → bodyEnd? t = none) : tagAt? (c :: t) = none := by
  by_cases bracket : c = '['
  · subst bracket
    rw [tagAt?_eq_none_iff] at noTag ⊢
    exact fun here => ends (noTag (starts here))
  · exact tagAt?_of_ne bracket

theorem tagAt?_trimmed (noTag : tagAt? (c :: s) = none) : tagAt? (c :: trimmed s) = none := by
  refine tagAt?_cons_eq_none noTag (fun starts => ?_) fun none => ?_
  · rw [← trimmed_append_ending s]
    cases same : trimmed s with
    | nil =>
        rw [same] at starts
        cases starts
    | cons d rest =>
        rw [same] at starts
        exact starts
  · rw [← trimmed_append_ending s] at none
    exact bodyEnd?_eq_none_of_append none

/-- Literal tags close nothing. -/
theorem bodyEnd?_escapeTags (ends : bodyEnd? s = none) : bodyEnd? (escapeTags s) = none := by
  induction s using cut_induction with
  | finish n => rwa [escapeTags_backslashes]
  | text n c s other noTag ih =>
      rw [bodyEnd?_backslashes_append, bodyEnd?_cons_eq_none_iff] at ends
      rw [escapeTags_text other noTag, bodyEnd?_backslashes_append, bodyEnd?_cons_eq_none_iff]
      exact ⟨ends.1, ends.2.imp_right ih⟩
  | tag n body s isBody ih =>
      rw [escapeTags_tag isBody, bodyEnd?_backslashes_append]
      rfl

theorem tagAt?_escapeTags_append (noTag : tagAt? (c :: s) = none)
    (starts : t.head?.any startsTag = false) (ends : bodyEnd? t = none) :
    tagAt? (c :: (escapeTags s ++ t)) = none := by
  refine tagAt?_cons_eq_none noTag (fun here => ?_) fun none =>
    bodyEnd?_append_eq_none (bodyEnd?_escapeTags none) ends
  clear noTag
  induction s using cut_induction with
  | finish n =>
      rw [escapeTags_backslashes] at here
      cases n with
      | zero => exact absurd here (by simp [backslashes, starts])
      | succ n => exact here
  | text n c s other noTag =>
      rw [escapeTags_text other noTag] at here
      cases n <;> exact here
  | tag n body s isBody =>
      rw [escapeTags_tag isBody] at here
      change startsTag '\\' = true at here
      exact absurd here (by decide)

theorem addPlain_literal (s : List Char) (ps qs : List Piece) (p : Piece) (tag : ∀ t, p ≠ .plain t) :
    addPlain s (ps.map Piece.literal ++ p :: qs) =
      (addPlain s ps).map Piece.literal ++ p :: qs := by
  cases ps with
  | nil => cases p <;> first | rfl | exact (tag _ rfl).elim
  | cons q ps => cases q <;> rfl

/-- A text with literal tags in front of a tag: the backslashes at its end count for the tag. -/
theorem pieces_escapeTags_append (s : List Char) (m : Nat) (isBody : IsBody body)
    (after : List Char) :
    pieces (escapeTags s ++ (backslashes m ++ (bracketed body ++ after))) =
      (pieces (trimmed s)).map Piece.literal ++ .tag (ending s + m) body :: pieces after := by
  have starts : (backslashes m ++ (bracketed body ++ after)).head?.any startsTag = false := by
    cases m <;> rfl
  have ends : bodyEnd? (backslashes m ++ (bracketed body ++ after)) = none :=
    (bodyEnd?_backslashes_append _ _).mpr rfl
  -- Along the cuts of the text itself: those of the escaped text are what has to be found.
  induction s using cut_induction with
  | finish n =>
      rw [escapeTags_backslashes, trimmed_backslashes, ending_backslashes, ← List.append_assoc,
        ← backslashes_add, pieces_tag isBody]
      rfl
  | text n c s other noTag ih =>
      rw [escapeTags_text other noTag, trimmed_append_cons other, ending_append_cons other,
        pieces_text other (tagAt?_trimmed noTag), List.append_assoc, List.cons_append,
        pieces_text other (tagAt?_escapeTags_append noTag starts ends), ih]
      exact addPlain_literal _ _ _ _ fun _ => nofun
  | tag n inner s isInner ih =>
      rw [escapeTags_tag isInner, trimmed_bracketed, ending_bracketed, pieces_tag isInner,
        List.append_assoc, List.append_assoc, pieces_tag isInner, ih]
      rfl

/-- How many backslashes stand in front of a tag behind an escaped text. -/
def closingSlashes (s : List Char) : Nat := ending s + if ending s = 1 then 1 else 0

/-- An escaped text in front of a tag. -/
theorem pieces_escape_append (s : List Char) (isBody : IsBody body) (after : List Char) :
    pieces (escape s ++ (bracketed body ++ after)) =
      (pieces (trimmed s)).map Piece.literal ++ .tag (closingSlashes s) body :: pieces after := by
  rw [escape_eq, List.append_assoc, pieces_escapeTags_append s _ isBody, closingSlashes]

end MapStyle.Markup
