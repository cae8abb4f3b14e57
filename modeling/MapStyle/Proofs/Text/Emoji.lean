import Mathlib.Data.List.TakeWhile
import MapStyle.Text.Emoji

/-!
# Texts with emoji

No blank stands in a code, nor in an emoji.  So emoji in the place of codes leave the blanks of a
text as they are, and what stands before a blank does not depend on what stands behind it.

* `Text.replaceEmoji_append` takes a text apart at a blank.
* `Text.count_replaceEmoji` says that no blank comes or goes.
-/

namespace MapStyle.Text

/-! ## Words -/

theorem separates_of_mem_splitWhere {separates : Char → Bool} {s piece : List Char} {c : Char}
    (isPiece : piece ∈ splitWhere separates s) (member : c ∈ piece) : separates c = false := by
  induction s generalizing piece with
  | nil =>
      rw [splitWhere, List.mem_singleton] at isPiece
      rw [isPiece] at member
      cases member
  | cons d s ih =>
      rw [splitWhere] at isPiece
      cases pieces : splitWhere separates s with
      | nil => exact (splitWhere_ne_nil separates s pieces).elim
      | cons first others =>
          rw [pieces] at ih isPiece
          dsimp only at isPiece
          split at isPiece
          · rcases List.mem_cons.mp isPiece with rfl | deeper
            · cases member
            · exact ih deeper member
          · next keeps =>
              rcases List.mem_cons.mp isPiece with rfl | deeper
              · rcases List.mem_cons.mp member with rfl | within
                · exact (Bool.not_eq_true _).mp keeps
                · exact ih List.mem_cons_self within
              · exact ih (List.mem_cons_of_mem _ deeper) member

theorem mem_of_mem_wordPairs {words : List (List Char)} {entry : List Char × List Char}
    (member : entry ∈ wordPairs words) : entry.2 ∈ words := by
  induction words using wordPairs.induct with
  | case1 name emoji rest ih =>
      rw [wordPairs] at member
      rcases List.mem_cons.mp member with rfl | deeper
      · exact List.mem_cons_of_mem _ List.mem_cons_self
      · exact List.mem_cons_of_mem _ (List.mem_cons_of_mem _ (ih deeper))
  | case2 words short =>
      rw [wordPairs] at member
      · cases member
      · exact short

/-- No blank stands in an emoji. -/
theorem isBlank_of_emojiNamed? {name emoji : List Char} {c : Char}
    (named : emojiNamed? name = some emoji) (member : c ∈ emoji) : isBlank c = false := by
  unfold emojiNamed? emojiTable at named
  rw [Option.map_eq_some_iff] at named
  obtain ⟨entry, found, rfl⟩ := named
  have isWord := mem_of_mem_wordPairs (List.mem_of_find?_eq_some found)
  exact separates_of_mem_splitWhere (List.mem_filter.mp isWord).1 member

theorem isBlank_of_selector {code : List Char} {c : Char} (member : c ∈ (codeParts code).2) :
    isBlank c = false := by
  have selectors : ∀ form ∈ emojiForms, isBlank form.2 = false := by decide
  unfold codeParts at member
  split at member
  · next form found =>
      rw [List.mem_singleton.mp member]
      exact selectors form (List.mem_of_find?_eq_some found)
  · cases member

/-- A code stands for an emoji with a selector, or for itself. -/
theorem emojiOfCode_cases (code : List Char) :
    (∃ name emoji, emojiNamed? name = some emoji ∧
      emojiOfCode code = emoji ++ (codeParts code).2) ∨
      emojiOfCode code = ':' :: (code ++ [':']) := by
  unfold emojiOfCode
  cases named : emojiNamed? (codeParts code).1 with
  | some emoji => exact Or.inl ⟨_, emoji, named, by rw [Option.map_some, Option.getD_some]⟩
  | none => exact Or.inr (by rw [Option.map_none, Option.getD_none])

/-- No blank stands in what stands for a code, if none stands in the code. -/
theorem isBlank_of_mem_emojiOfCode {code : List Char} {c : Char}
    (noBlank : ∀ d ∈ code, isBlank d = false) (member : c ∈ emojiOfCode code) :
    isBlank c = false := by
  have colon : isBlank ':' = false := by decide
  rcases emojiOfCode_cases code with ⟨name, emoji, named, same⟩ | same
  · rw [same, List.mem_append] at member
    exact member.elim (isBlank_of_emojiNamed? named) isBlank_of_selector
  · rw [same, List.mem_cons, List.mem_append, List.mem_singleton] at member
    rcases member with rfl | inCode | rfl
    · exact colon
    · exact noBlank c inCode
    · exact colon

/-! ## Blanks in a text -/

variable {c : Char}

theorem inCode_of_isBlank (blank : isBlank c = true) : inCode c = false := by
  rw [inCode, blank]
  exact Bool.and_false _

theorem ne_colon_of_isBlank (blank : isBlank c = true) : c ≠ ':' := by
  rintro rfl
  exact absurd blank (by decide)

theorem replaceEmoji_cons_of_ne (other : c ≠ ':') (rest : List Char) :
    replaceEmoji (c :: rest) = c :: replaceEmoji rest := by
  rw [replaceEmoji, if_neg other]

/-- A colon that starts a code. -/
theorem replaceEmoji_code {rest after : List Char} (code : rest.dropWhile inCode = ':' :: after) :
    replaceEmoji (':' :: rest) = emojiOfCode (rest.takeWhile inCode) ++ replaceEmoji after := by
  rw [replaceEmoji, if_pos rfl]
  split
  · next other same =>
      rw [code] at same
      cases same
      rfl
  · next none => exact (none after code).elim

/-- A colon that starts no code. -/
theorem replaceEmoji_colon {rest : List Char}
    (none : ∀ after, rest.dropWhile inCode ≠ ':' :: after) :
    replaceEmoji (':' :: rest) = ':' :: replaceEmoji rest := by
  rw [replaceEmoji, if_pos rfl]
  split
  · next after code => exact (none after code).elim
  · rfl

/-- What stands before a blank and what stands behind it have their emoji apart from each other. -/
theorem replaceEmoji_append (blank : isBlank c = true) (s rest : List Char) :
    replaceEmoji (s ++ c :: rest) = replaceEmoji s ++ c :: replaceEmoji rest := by
  induction s using replaceEmoji.induct with
  | case1 =>
      rw [List.nil_append, replaceEmoji_cons_of_ne (ne_colon_of_isBlank blank), replaceEmoji]
      rfl
  | case2 s after code ih =>
      have codeToo : (s ++ c :: rest).dropWhile inCode = ':' :: (after ++ c :: rest) := by
        rw [List.dropWhile_append, code]
        rfl
      have same : (s ++ c :: rest).takeWhile inCode = s.takeWhile inCode := by
        rw [List.takeWhile_append, if_neg]
        intro whole
        have ends := congrArg List.length (s.takeWhile_append_dropWhile (p := inCode))
        rw [List.length_append, whole, code, List.length_cons] at ends
        omega
      rw [List.cons_append, replaceEmoji_code codeToo, replaceEmoji_code code, same, ih,
        List.append_assoc]
  | case3 s none ih =>
      have noneToo : ∀ after, (s ++ c :: rest).dropWhile inCode ≠ ':' :: after := by
        intro after code
        rw [List.dropWhile_append] at code
        cases behind : s.dropWhile inCode with
        | nil =>
            rw [behind, List.isEmpty_nil, if_pos rfl,
              List.dropWhile_cons_of_neg (by simp [inCode_of_isBlank blank])] at code
            exact ne_colon_of_isBlank blank (List.cons.inj code).1
        | cons d more =>
            rw [behind, List.isEmpty_cons, if_neg Bool.false_ne_true, List.cons_append] at code
            exact none more (by rw [behind, (List.cons.inj code).1])
      rw [List.cons_append, replaceEmoji_colon noneToo, replaceEmoji_colon none, ih]
      rfl
  | case4 d s other ih =>
      rw [List.cons_append, replaceEmoji_cons_of_ne other, replaceEmoji_cons_of_ne other, ih]
      rfl

/-- Emoji in the place of codes leave the blanks of a text. -/
theorem count_replaceEmoji (blank : isBlank c = true) (s : List Char) :
    (replaceEmoji s).count c = s.count c := by
  induction s using replaceEmoji.induct with
  | case1 => rw [replaceEmoji]
  | case2 s after code ih =>
      have noBlank : ∀ d ∈ s.takeWhile inCode, isBlank d = false := fun d within => by
        have isIn : inCode d = true := List.mem_takeWhile_imp within
        simp only [inCode, Bool.and_eq_true, Bool.not_eq_true'] at isIn
        exact isIn.2
      have without : ∀ {t : List Char}, (∀ d ∈ t, isBlank d = false) → t.count c = 0 :=
        fun clean => List.count_eq_zero_of_not_mem fun member => by
          rw [clean c member] at blank
          cases blank
      have whole : s = s.takeWhile inCode ++ ':' :: after := by
        rw [← code, List.takeWhile_append_dropWhile]
      have colon := (ne_colon_of_isBlank blank).symm
      have behind : s.count c = after.count c := by
        rw [whole, List.count_append, without noBlank, List.count_cons_of_ne colon, Nat.zero_add]
      rw [replaceEmoji_code code, List.count_append, ih, List.count_cons_of_ne colon, behind,
        without fun d member => isBlank_of_mem_emojiOfCode noBlank member, Nat.zero_add]
  | case3 s none ih => rw [replaceEmoji_colon none, List.count_cons, List.count_cons, ih]
  | case4 d s other ih =>
      rw [replaceEmoji_cons_of_ne other, List.count_cons, List.count_cons, ih]

end MapStyle.Text
