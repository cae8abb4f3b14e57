import Mathlib.Data.List.DropRight
import MapStyle.Markup.Basic

/-!
# Cutting lines into tags

A line is cut from left to right: some backslashes, and then a tag, another character, or the end.

* `Markup.cut_induction` is the induction along the cuts, and `pieces_backslashes`, `pieces_text`
  and `pieces_tag` are the pieces in each of its cases.
* `Markup.flatMap_source_pieces` puts the pieces of a line together again.
-/

namespace MapStyle.Markup

variable {n : Nat} {c : Char} {s t rest body after : List Char}

/-! ## Backslashes -/

theorem backslashes_add (m n : Nat) : backslashes (m + n) = backslashes m ++ backslashes n :=
  List.replicate_append_replicate.symm

theorem eq_of_mem_backslashes (member : c ∈ backslashes n) : c = '\\' :=
  List.eq_of_mem_replicate member

/-- A text starts with some backslashes, and then with something else. -/
theorem exists_backslashes (s : List Char) :
    ∃ n rest, s = backslashes n ++ rest ∧ rest.head? ≠ some '\\' := by
  induction s with
  | nil => exact ⟨0, [], rfl, nofun⟩
  | cons c s ih =>
      by_cases slash : c = '\\'
      · obtain ⟨n, rest, rfl, other⟩ := ih
        exact ⟨n + 1, rest, by rw [slash]; rfl, other⟩
      · exact ⟨0, c :: s, rfl, fun same => slash (Option.some.inj same)⟩

theorem takeWhile_backslashes (other : rest.head? ≠ some '\\') :
    (backslashes n ++ rest).takeWhile (· == '\\') = backslashes n := by
  induction n with
  | zero =>
      cases rest with
      | nil => rfl
      | cons c rest =>
          have isOther : c ≠ '\\' := fun same => other (congrArg some same)
          exact List.takeWhile_cons_of_neg (by simp [isOther])
  | succ n ih =>
      change ('\\' :: (backslashes n ++ rest)).takeWhile (· == '\\') = _
      rw [List.takeWhile_cons_of_pos rfl, ih]
      rfl

theorem dropWhile_backslashes (other : rest.head? ≠ some '\\') :
    (backslashes n ++ rest).dropWhile (· == '\\') = rest := by
  have whole := List.takeWhile_append_dropWhile (p := (· == '\\')) (l := backslashes n ++ rest)
  rw [takeWhile_backslashes other] at whole
  exact List.append_cancel_left whole

/-! ## Tags -/

/-- What can stand in the brackets of a tag. -/
structure IsBody (body : List Char) : Prop where
  starts : body.head?.any startsTag = true
  opens : '[' ∉ body
  closes : ']' ∉ body

theorem bodyEnd?_of_closed (opens : '[' ∉ s) (closes : ']' ∉ s) (rest : List Char) :
    bodyEnd? (s ++ ']' :: rest) = some (s, rest) := by
  induction s with
  | nil => rfl
  | cons c s ih =>
      rw [List.mem_cons, not_or] at opens closes
      rw [List.cons_append, bodyEnd?, if_neg (Ne.symm closes.1), if_neg (Ne.symm opens.1),
        ih opens.2 closes.2]
      rfl

theorem of_bodyEnd?_eq_some (found : bodyEnd? s = some (body, rest)) :
    s = body ++ ']' :: rest ∧ '[' ∉ body ∧ ']' ∉ body := by
  induction s generalizing body with
  | nil => cases found
  | cons c s ih =>
      rw [bodyEnd?] at found
      split_ifs at found with closes opens
      · cases found
        exact ⟨by rw [closes]; rfl, List.not_mem_nil, List.not_mem_nil⟩
      · obtain ⟨⟨inner, others⟩, deeper, same⟩ := Option.map_eq_some_iff.mp found
        cases same
        obtain ⟨rfl, noOpening, noClosing⟩ := ih deeper
        exact ⟨rfl, List.not_mem_cons_of_ne_of_not_mem (Ne.symm opens) noOpening,
          List.not_mem_cons_of_ne_of_not_mem (Ne.symm closes) noClosing⟩

/-- Where nothing closes, nothing closes in two such texts, one after the other. -/
theorem bodyEnd?_append_eq_none (here : bodyEnd? s = none) (there : bodyEnd? t = none) :
    bodyEnd? (s ++ t) = none := by
  induction s with
  | nil => exact there
  | cons c s ih =>
      rw [bodyEnd?] at here
      rw [List.cons_append, bodyEnd?]
      split_ifs at here ⊢
      · rfl
      · rw [ih (Option.map_eq_none_iff.mp here)]
        rfl

theorem bodyEnd?_eq_none_of_append (whole : bodyEnd? (s ++ t) = none) : bodyEnd? s = none := by
  cases found : bodyEnd? s with
  | none => rfl
  | some inner =>
      obtain ⟨rfl, opens, closes⟩ := of_bodyEnd?_eq_some found
      rw [List.append_assoc, List.cons_append, bodyEnd?_of_closed opens closes] at whole
      cases whole

theorem bodyEnd?_cons_eq_none_iff :
    bodyEnd? (c :: s) = none ↔ c ≠ ']' ∧ (c = '[' ∨ bodyEnd? s = none) := by
  rw [bodyEnd?]
  split_ifs <;> simp [*]

theorem bodyEnd?_backslashes_append (n : Nat) (s : List Char) :
    bodyEnd? (backslashes n ++ s) = none ↔ bodyEnd? s = none := by
  induction n with
  | zero => rfl
  | succ n ih =>
      change bodyEnd? ('\\' :: (backslashes n ++ s)) = none ↔ _
      rw [bodyEnd?_cons_eq_none_iff, ih]
      simp

theorem startsTag_ne (starts : startsTag c = true) : c ≠ '[' ∧ c ≠ ']' ∧ c ≠ '\\' := by
  refine ⟨?_, ?_, ?_⟩ <;>
  · rintro rfl
    exact absurd starts (by decide)

theorem tagAt?_bracketed (isBody : IsBody body) (rest : List Char) :
    tagAt? (bracketed body ++ rest) = some (body, rest) := by
  obtain ⟨starts, opens, closes⟩ := isBody
  cases body with
  | nil => cases starts
  | cons c inner =>
      have starts : startsTag c = true := starts
      have text : bracketed (c :: inner) ++ rest = '[' :: c :: (inner ++ ']' :: rest) := by
        simp [bracketed]
      rw [text, tagAt?, if_pos starts, bodyEnd?_of_closed
        (List.not_mem_of_not_mem_cons opens) (List.not_mem_of_not_mem_cons closes)]
      rfl

theorem of_tagAt?_eq_some (found : tagAt? s = some (body, rest)) :
    IsBody body ∧ s = bracketed body ++ rest := by
  unfold tagAt? at found
  split at found
  · next c others =>
      split_ifs at found with starts
      obtain ⟨⟨inner, after⟩, closed, same⟩ := Option.map_eq_some_iff.mp found
      cases same
      obtain ⟨rfl, opens, closes⟩ := of_bodyEnd?_eq_some closed
      obtain ⟨notOpening, notClosing, -⟩ := startsTag_ne starts
      exact ⟨⟨starts, List.not_mem_cons_of_ne_of_not_mem notOpening.symm opens,
        List.not_mem_cons_of_ne_of_not_mem notClosing.symm closes⟩, by simp [bracketed]⟩
  · cases found

/-- No tag starts at a bracket if what follows could start one, but does not end. -/
theorem tagAt?_eq_none_iff :
    tagAt? ('[' :: s) = none ↔ (s.head?.any startsTag = true → bodyEnd? s = none) := by
  cases s with
  | nil => exact iff_of_true rfl nofun
  | cons c s =>
      rw [tagAt?, List.head?_cons, Option.any_some]
      cases starts : startsTag c with
      | false => simp
      | true =>
          obtain ⟨notOpening, notClosing, -⟩ := startsTag_ne starts
          simp [bodyEnd?, notOpening, notClosing]

theorem tagAt?_of_ne (other : c ≠ '[') : tagAt? (c :: s) = none := by
  unfold tagAt?
  split
  · next same => exact (other (List.cons.inj same).1).elim
  · rfl

/-! ## Cuts -/

theorem addPlain_addPlain (s t : List Char) (ps : List Piece) :
    addPlain s (addPlain t ps) = addPlain (s ++ t) ps := by
  cases ps with
  | nil => rfl
  | cons p ps => cases p <;> simp [addPlain]

/-- The pieces of a line after its first cut, if it starts with so many backslashes. -/
def nextPieces (others : List Char → List Piece) (n : Nat) (rest : List Char) : List Piece :=
  match tagAt? rest with
  | some (body, after) => .tag n body :: others after
  | none =>
    match n, rest with
    | 0, [] => []
    | 0, c :: more => addPlain [c] (others more)
    | n + 1, rest => addPlain (backslashes (n + 1)) (others rest)

theorem nextPieces_congr {f g : List Char → List Piece}
    (same : ∀ s : List Char, s.length < n + rest.length → f s = g s) :
    nextPieces f n rest = nextPieces g n rest := by
  unfold nextPieces
  split
  · next body after found =>
      obtain ⟨-, rfl⟩ := of_tagAt?_eq_some found
      refine congrArg _ (same after ?_)
      simp only [bracketed, List.length_append, List.length_cons]
      omega
  · split
    · rfl
    · exact congrArg _ (same _ (by simp))
    · exact congrArg _ (same _ (by omega))

theorem piecesWithin_succ (fuel : Nat) (other : rest.head? ≠ some '\\') :
    piecesWithin (fuel + 1) (backslashes n ++ rest) = nextPieces (piecesWithin fuel) n rest := by
  rw [piecesWithin, takeWhile_backslashes other, dropWhile_backslashes other]
  unfold nextPieces
  cases tagAt? rest with
  | some tag => exact congrArg (fun m => Piece.tag m tag.1 :: _) List.length_replicate
  | none => cases n <;> cases rest <;> rfl

/-- Steps beyond the length of a line change nothing. -/
theorem piecesWithin_eq_pieces {fuel : Nat} (enough : s.length < fuel) :
    piecesWithin fuel s = pieces s := by
  suffices same : ∀ (fuel other : Nat) (s : List Char), s.length < fuel → s.length < other →
      piecesWithin fuel s = piecesWithin other s from
    same fuel _ s enough (Nat.lt_succ_self _)
  clear enough
  intro fuel
  induction fuel with
  | zero => exact fun _ _ absurd => (Nat.not_lt_zero _ absurd).elim
  | succ fuel ih =>
      intro other s enough enough'
      obtain ⟨other, rfl⟩ := Nat.exists_eq_succ_of_ne_zero (Nat.ne_zero_of_lt enough')
      obtain ⟨n, rest, rfl, different⟩ := exists_backslashes s
      rw [List.length_append, backslashes, List.length_replicate] at enough enough'
      rw [piecesWithin_succ fuel different, piecesWithin_succ other different]
      exact nextPieces_congr fun s shorter => ih other s (by omega) (by omega)

theorem pieces_backslashes_append (other : rest.head? ≠ some '\\') :
    pieces (backslashes n ++ rest) = nextPieces pieces n rest := by
  rw [pieces, piecesWithin_succ _ other, List.length_append, backslashes, List.length_replicate]
  exact nextPieces_congr fun s shorter => piecesWithin_eq_pieces shorter

/-- Nothing but backslashes is left. -/
theorem pieces_backslashes (n : Nat) :
    pieces (backslashes n) = if n = 0 then [] else [.plain (backslashes n)] := by
  have cut : pieces (backslashes n ++ []) = nextPieces pieces n [] :=
    pieces_backslashes_append nofun
  rw [List.append_nil] at cut
  rw [cut]
  cases n <;> rfl

/-- Backslashes and a character with which no tag starts. -/
theorem pieces_text (other : c ≠ '\\') (noTag : tagAt? (c :: s) = none) :
    pieces (backslashes n ++ c :: s) = addPlain (backslashes n ++ [c]) (pieces s) := by
  have different : (c :: s).head? ≠ some '\\' := fun same => other (Option.some.inj same)
  have single : pieces (c :: s) = addPlain [c] (pieces s) := by
    have cut := pieces_backslashes_append (n := 0) different
    rw [backslashes, List.replicate_zero, List.nil_append] at cut
    rw [cut]
    unfold nextPieces
    rw [noTag]
  rw [pieces_backslashes_append different]
  unfold nextPieces
  rw [noTag]
  cases n with
  | zero => rfl
  | succ n =>
      dsimp only
      rw [single, addPlain_addPlain]

/-- Backslashes and a tag. -/
theorem pieces_tag (isBody : IsBody body) (after : List Char) :
    pieces (backslashes n ++ (bracketed body ++ after)) = .tag n body :: pieces after := by
  rw [pieces_backslashes_append (by simp [bracketed])]
  unfold nextPieces
  rw [tagAt?_bracketed isBody]

/-- Induction along the cuts of a line. -/
theorem cut_induction {motive : List Char → Prop} (finish : ∀ n, motive (backslashes n))
    (text : ∀ n c s, c ≠ '\\' → tagAt? (c :: s) = none → motive s →
      motive (backslashes n ++ c :: s))
    (tag : ∀ n body s, IsBody body → motive s → motive (backslashes n ++ (bracketed body ++ s)))
    (s : List Char) : motive s := by
  induction length : s.length using Nat.strong_induction_on generalizing s with
  | _ size ih =>
      subst length
      obtain ⟨n, rest, rfl, different⟩ := exists_backslashes s
      cases rest with
      | nil =>
          rw [List.append_nil]
          exact finish n
      | cons c more =>
          cases found : tagAt? (c :: more) with
          | none =>
              refine text n c more (fun same => different (congrArg some same)) found
                (ih _ ?_ more rfl)
              rw [List.length_append, List.length_cons]
              omega
          | some inner =>
              obtain ⟨body, after⟩ := inner
              obtain ⟨isBody, same⟩ := of_tagAt?_eq_some found
              rw [same]
              refine tag n body after isBody (ih _ ?_ after rfl)
              rw [same]
              simp only [bracketed, List.length_append, List.length_cons]
              omega

/-- What a piece is cut out of. -/
def Piece.source : Piece → List Char
  | .plain text => text
  | .tag n body => backslashes n ++ bracketed body

/-- The pieces of a line make the line. -/
theorem flatMap_source_pieces (s : List Char) : (pieces s).flatMap Piece.source = s := by
  have addPlain_source : ∀ (t : List Char) (ps : List Piece),
      (addPlain t ps).flatMap Piece.source = t ++ ps.flatMap Piece.source := by
    intro t ps
    cases ps with
    | nil => simp [addPlain, Piece.source]
    | cons p ps => cases p <;> simp [addPlain, Piece.source]
  induction s using cut_induction with
  | finish n =>
      rw [pieces_backslashes]
      split
      · next none => rw [none]; rfl
      · exact List.append_nil _
  | text n c s other noTag ih =>
      rw [pieces_text other noTag, addPlain_source, ih, List.append_assoc]
      rfl
  | tag n body s isBody ih =>
      rw [pieces_tag isBody, List.flatMap_cons, ih, Piece.source, List.append_assoc]

end MapStyle.Markup
