/-!
# Splitting texts

Cutting a text at every separator, and at the first one.

* `Text.intercalate_splitAt` says that no character is lost where a text is cut.
-/

namespace MapStyle.Text

/-- The pieces of a text between the characters that separate; there is always one piece. -/
def splitWhere (separates : Char → Bool) : List Char → List (List Char)
  | [] => [[]]
  | c :: rest =>
    let pieces := splitWhere separates rest
    if separates c then [] :: pieces
    else
      match pieces with
      | [] => [[c]]
      | piece :: others => (c :: piece) :: others

/-- The pieces of a text between the separators; there is always one piece. -/
def splitAt (separator : Char) (s : List Char) : List (List Char) := splitWhere (· == separator) s

theorem splitWhere_ne_nil (separates : Char → Bool) (s : List Char) :
    splitWhere separates s ≠ [] := by
  cases s with
  | nil => simp [splitWhere]
  | cons c rest =>
    simp only [splitWhere]
    split
    · simp
    · split <;> simp

/-- The separator put back between the pieces gives the text. -/
theorem intercalate_splitAt (separator : Char) (s : List Char) :
    [separator].intercalate (splitAt separator s) = s := by
  unfold splitAt
  induction s with
  | nil => rfl
  | cons c rest ih =>
    simp only [splitWhere]
    cases h : splitWhere (· == separator) rest with
    | nil => exact absurd h (splitWhere_ne_nil _ rest)
    | cons piece others =>
      rw [h] at ih
      by_cases hc : c = separator
      · simp [hc, List.intercalate] at ih ⊢
        exact ih
      · cases others <;> simp_all [List.intercalate, List.intersperse]

/-- The text before the first separator, and the text after it if there is one. -/
def cutAt (separator : Char) (s : List Char) : List Char × Option (List Char) :=
  match s.dropWhile (· ≠ separator) with
  | [] => (s, none)
  | _ :: rest => (s.takeWhile (· ≠ separator), some rest)

def afterStart? (start s : List Char) : Option (List Char) :=
  if start.isPrefixOf s then some (s.drop start.length) else none

end MapStyle.Text
