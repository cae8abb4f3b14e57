import MapStyle.Proofs.Markup.Rendering

/-!
# Texts that survive escaping

Escaping a text and rendering it again loses a backslash at each bracket that starts no tag, and of
two or more backslashes at the end of the text all but half.  Nothing else is lost.

* `Markup.Survives` says that a text has neither.
* `Markup.bare_of_survives`: such a text is shown as it is, emoji apart.
* `Markup.count_bare_lt`: any other text is shown with fewer backslashes than it has.
-/

namespace MapStyle.Markup

variable {n : Nat} {c : Char} {s t body : List Char}

/-! ## What survives -/

/-- No backslash stands before a bracket unless a tag starts there. -/
def KeepsBrackets (s : List Char) : Prop :=
  ∀ rest, '\\' :: '[' :: rest <:+ s → (tagAt? ('[' :: rest)).isSome = true

/-- A text that escaping does no harm to. -/
structure Survives (s : List Char) : Prop where
  brackets : KeepsBrackets s
  ending : ending s ≤ 1

theorem survives_of_not_mem (noSlash : '\\' ∉ s) : Survives s where
  brackets rest suffix := (noSlash (suffix.subset List.mem_cons_self)).elim
  ending := by
    have none : s.rtakeWhile (· == '\\') = [] := List.eq_nil_iff_forall_not_mem.mpr fun c member =>
      noSlash (by
        have slash : c = '\\' := by simpa using List.mem_rtakeWhile_imp member
        exact slash ▸ (List.rtakeWhile_suffix _ s).subset member)
    rw [Markup.ending, none]
    exact Nat.zero_le 1

theorem suffix_backslashes_iff (other : c ≠ '\\') {rest : List Char} :
    '\\' :: '[' :: rest <:+ backslashes n ++ c :: s ↔
      (0 < n ∧ c = '[' ∧ rest = s) ∨ '\\' :: '[' :: rest <:+ s := by
  induction n with
  | zero =>
      change _ <:+ c :: s ↔ _
      rw [List.suffix_cons_iff]
      simp [Ne.symm other]
  | succ n ih =>
      change _ <:+ '\\' :: (backslashes n ++ c :: s) ↔ _
      rw [List.suffix_cons_iff, ih, List.cons.injEq, eq_self, true_and]
      cases n with
      | zero =>
          change '[' :: rest = c :: s ∨ _ ↔ _
          rw [List.cons.injEq]
          simp [eq_comm (a := c)]
      | succ n =>
          have apart : '[' :: rest ≠ backslashes (n + 1) ++ c :: s := fun same => by
            cases (List.cons.inj same).1
          simp [apart]

theorem keepsBrackets_backslashes (n : Nat) : KeepsBrackets (backslashes n) := by
  intro rest suffix
  have bracket : '[' ∈ backslashes n := suffix.subset (by simp)
  exact absurd (eq_of_mem_backslashes bracket) (by decide)

theorem keepsBrackets_text_iff (other : c ≠ '\\') (noTag : tagAt? (c :: s) = none) :
    KeepsBrackets (backslashes n ++ c :: s) ↔ ¬(0 < n ∧ c = '[') ∧ KeepsBrackets s := by
  unfold KeepsBrackets
  constructor
  · intro keeps
    refine ⟨?_, fun rest suffix =>
      keeps rest ((suffix_backslashes_iff other).mpr (Or.inr suffix))⟩
    rintro ⟨some, rfl⟩
    have starts := keeps s ((suffix_backslashes_iff other).mpr (Or.inl ⟨some, rfl, rfl⟩))
    rw [noTag] at starts
    cases starts
  · rintro ⟨apart, keeps⟩ rest suffix
    rcases (suffix_backslashes_iff other).mp suffix with ⟨some, bracket, -⟩ | deeper
    · exact (apart ⟨some, bracket⟩).elim
    · exact keeps rest deeper

theorem suffix_body_iff (opens : '[' ∉ body) {rest : List Char} :
    '\\' :: '[' :: rest <:+ body ++ ']' :: s ↔ '\\' :: '[' :: rest <:+ s := by
  induction body with
  | nil =>
      rw [List.nil_append, List.suffix_cons_iff]
      simp
  | cons d body ih =>
      have apart : '[' :: rest ≠ body ++ ']' :: s := by
        cases body with
        | nil => exact fun same => by cases (List.cons.inj same).1
        | cons e body =>
            rintro same
            exact opens (by rw [(List.cons.inj same).1]; simp)
      rw [List.cons_append, List.suffix_cons_iff, ih (List.not_mem_of_not_mem_cons opens),
        List.cons.injEq]
      simp [apart]

theorem keepsBrackets_tag_iff (isBody : IsBody body) :
    KeepsBrackets (backslashes n ++ (bracketed body ++ s)) ↔ KeepsBrackets s := by
  have text : bracketed body ++ s = '[' :: (body ++ ']' :: s) := by simp [bracketed]
  have starts : (tagAt? ('[' :: (body ++ ']' :: s))).isSome = true := by
    rw [← text, tagAt?_bracketed isBody]
    rfl
  unfold KeepsBrackets
  simp only [text, suffix_backslashes_iff (show '[' ≠ '\\' by decide), suffix_body_iff isBody.opens]
  constructor
  · exact fun keeps rest suffix => keeps rest (Or.inr suffix)
  · rintro keeps rest (⟨-, -, rfl⟩ | suffix)
    · exact starts
    · exact keeps rest suffix

/-! ## What is shown of brackets -/

/-- What is shown of a piece of an escaped text, emoji apart. -/
def Piece.bare : Piece → List Char
  | .plain text => unescapePlain text
  | .tag n body => backslashes n ++ unescapePlain (bracketed body)

/-- What is shown of an escaped text between tags, emoji apart. -/
def bare (s : List Char) : List Char :=
  (pieces (trimmed s)).flatMap Piece.bare ++ closingLeft (closingSlashes s)

/-- The last backslash before a bracket is dropped. -/
theorem unescapePlain_backslashes (other : c ≠ '\\') (n : Nat) (t : List Char) :
    unescapePlain (backslashes n ++ c :: t) =
      backslashes (if 0 < n ∧ c = '[' then n - 1 else n) ++ c :: unescapePlain t := by
  induction n with
  | zero =>
      change unescapePlain (c :: t) = c :: unescapePlain t
      rw [unescapePlain]
      exact fun _ slash => (other slash).elim
  | succ n ih =>
      cases n with
      | zero =>
          change unescapePlain ('\\' :: c :: t) = _
          by_cases bracket : c = '['
          · rw [bracket, unescapePlain, if_pos ⟨Nat.one_pos, rfl⟩]
            rfl
          · rw [unescapePlain, if_neg fun both => bracket both.2]
            · exact congrArg _ ih
            · exact fun _ _ same => bracket (List.cons.inj same).1
      | succ n =>
          change unescapePlain ('\\' :: '\\' :: (backslashes n ++ c :: t)) = _
          rw [unescapePlain]
          · change '\\' :: unescapePlain (backslashes (n + 1) ++ c :: t) = _
            rw [ih]
            by_cases bracket : c = '[' <;> simp [bracket, backslashes, List.replicate_succ]
          · intro _ _ same
            cases same

/-- A tag is shown as it is. -/
theorem unescapePlain_bracketed (isBody : IsBody body) :
    unescapePlain (bracketed body) = bracketed body := by
  have without : ∀ t : List Char, '[' ∉ t → unescapePlain t = t := by
    intro t opens
    fun_induction unescapePlain t with
    | case1 => rfl
    | case2 rest ih => simp at opens
    | case3 c rest _ ih => rw [ih (List.not_mem_of_not_mem_cons opens)]
  rw [bracketed, unescapePlain]
  · rw [without _ (by simp [isBody.opens])]
  · exact fun _ slash => absurd slash (by decide)

theorem flatMap_bare_addPlain (other : c ≠ '\\') (n : Nat) (ps : List Piece) :
    (addPlain (backslashes n ++ [c]) ps).flatMap Piece.bare =
      backslashes (if 0 < n ∧ c = '[' then n - 1 else n) ++ c :: ps.flatMap Piece.bare := by
  have alone := unescapePlain_backslashes other n []
  cases ps with
  | nil => simp [addPlain, Piece.bare, alone, unescapePlain]
  | cons p ps =>
      cases p with
      | plain text => simp [addPlain, Piece.bare, unescapePlain_backslashes other n text]
      | tag m body => simp [addPlain, Piece.bare, alone, unescapePlain]

/-- Of the pieces of a text in which each bracket keeps its backslashes, nothing is lost. -/
theorem flatMap_bare_of_keepsBrackets (keeps : KeepsBrackets s) :
    (pieces (trimmed s)).flatMap Piece.bare = trimmed s := by
  induction s using cut_induction with
  | finish n =>
      rw [trimmed_backslashes]
      rfl
  | text n c s other noTag ih =>
      rw [keepsBrackets_text_iff other noTag] at keeps
      rw [trimmed_append_cons other, pieces_text other (tagAt?_trimmed noTag),
        flatMap_bare_addPlain other, if_neg keeps.1, ih keeps.2]
  | tag n body s isBody ih =>
      rw [keepsBrackets_tag_iff isBody] at keeps
      rw [trimmed_bracketed, pieces_tag isBody, List.flatMap_cons, Piece.bare,
        unescapePlain_bracketed isBody, ih keeps, List.append_assoc]

theorem count_backslashes (n : Nat) : (backslashes n).count '\\' = n := List.count_replicate_self

/-- The pieces of a text have no more backslashes than it, and fewer if a bracket loses one. -/
theorem count_flatMap_bare (s : List Char) :
    ((pieces (trimmed s)).flatMap Piece.bare).count '\\' ≤ (trimmed s).count '\\' ∧
      (¬KeepsBrackets s →
        ((pieces (trimmed s)).flatMap Piece.bare).count '\\' < (trimmed s).count '\\') := by
  induction s using cut_induction with
  | finish n =>
      rw [trimmed_backslashes]
      exact ⟨Nat.le_refl _, fun loses => (loses (keepsBrackets_backslashes n)).elim⟩
  | text n c s other noTag ih =>
      rw [keepsBrackets_text_iff other noTag, trimmed_append_cons other,
        pieces_text other (tagAt?_trimmed noTag), flatMap_bare_addPlain other]
      simp only [List.count_append, count_backslashes, List.count_cons_of_ne other]
      split
      · next bracket => exact ⟨by omega, fun _ => by omega⟩
      · next kept => exact ⟨by omega, fun loses => by
          have := ih.2 fun keeps => loses ⟨kept, keeps⟩
          omega⟩
  | tag n body s isBody ih =>
      rw [keepsBrackets_tag_iff isBody, trimmed_bracketed, pieces_tag isBody, List.flatMap_cons,
        Piece.bare, unescapePlain_bracketed isBody]
      simp only [List.count_append]
      exact ⟨by omega, fun loses => by have := ih.2 loses; omega⟩

/-! ## What is shown of a text -/

/-- At most one backslash at the end is shown as it is. -/
theorem closingLeft_closingSlashes (few : ending s ≤ 1) :
    closingLeft (closingSlashes s) = backslashes (ending s) := by
  unfold closingSlashes
  have cases : ending s = 0 ∨ ending s = 1 := by omega
  rcases cases with none | one
  · rw [none]
    rfl
  · rw [one]
    rfl

theorem count_closingLeft (n : Nat) : (closingLeft n).count '\\' = n / 2 := by
  have noSlash : (bracketed closingTag).count '\\' = 0 := by decide
  rw [closingLeft, List.count_append, count_backslashes]
  split <;> simp [noSlash]

/-- A text that survives is shown as it is. -/
theorem bare_of_survives (survives : Survives s) : bare s = s := by
  rw [bare, flatMap_bare_of_keepsBrackets survives.brackets,
    closingLeft_closingSlashes survives.ending, trimmed_append_ending]

/-- What is shown of a text has no more backslashes than it. -/
theorem count_bare_le (s : List Char) : (bare s).count '\\' ≤ s.count '\\' := by
  have whole := congrArg (List.count '\\') (trimmed_append_ending s)
  have inner := (count_flatMap_bare s).1
  rw [List.count_append, count_backslashes] at whole
  rw [bare, List.count_append, count_closingLeft, closingSlashes]
  split <;> omega

/-- What is shown of a text that does not survive has fewer backslashes than it. -/
theorem count_bare_lt (lost : ¬Survives s) : (bare s).count '\\' < s.count '\\' := by
  have whole := congrArg (List.count '\\') (trimmed_append_ending s)
  obtain ⟨inner, fewer⟩ := count_flatMap_bare s
  rw [List.count_append, count_backslashes] at whole
  rw [bare, List.count_append, count_closingLeft, closingSlashes]
  by_cases keeps : KeepsBrackets s
  · have many : ¬ending s ≤ 1 := fun few => lost ⟨keeps, few⟩
    split <;> omega
  · have := fewer keeps
    split <;> omega

/-! ## Emoji -/

theorem unescapePlain_subset (s : List Char) : unescapePlain s ⊆ s := by
  fun_induction unescapePlain s with
  | case1 => exact fun _ => id
  | case2 rest ih => exact List.Subset.trans (List.cons_subset_cons _ ih) (List.subset_cons_self _ _)
  | case3 c rest _ ih => exact List.cons_subset_cons _ ih

/-- Without a colon there is no code for an emoji. -/
theorem left_eq_bare_of_not_mem (noColon : ':' ∉ s) :
    ∀ piece ∈ pieces (trimmed s), piece.left = piece.bare := by
  intro piece member
  have within : ∀ text ⊆ piece.source, plainText text = unescapePlain text := by
    intro text inside
    refine Text.replaceEmoji_of_not_mem fun colon => noColon ?_
    rw [← trimmed_append_ending s, ← flatMap_source_pieces (trimmed s)]
    exact List.mem_append_left _
      (List.mem_flatMap.mpr ⟨piece, member, inside (unescapePlain_subset _ colon)⟩)
  cases piece with
  | plain text => exact within text fun _ => id
  | tag n body => exact congrArg _ (within _ (List.subset_append_right _ _))

end MapStyle.Markup
