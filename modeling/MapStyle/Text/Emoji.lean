import MapStyle.Text.Blank
import MapStyle.Text.EmojiNames
import MapStyle.Text.Lowercase

/-!
# Emoji codes

A name between two colons stands for an emoji, if there is an emoji of that name; case does not
matter.  A form may follow the name after a dash, and then a selector of that form follows the
emoji.  A code holds no blank; one that names nothing is kept, colons and all.

* `Text.replaceEmoji` puts emoji in the place of their codes.
-/

namespace MapStyle.Text

/-- Words taken two by two. -/
def wordPairs : List (List Char) → List (List Char × List Char)
  | name :: emoji :: rest => (name, emoji) :: wordPairs rest
  | _ => []

def emojiTable : List (List Char × List Char) := wordPairs (words emojiNames.toList)

def emojiNamed? (name : List Char) : Option (List Char) :=
  let wanted := lowercase name
  (emojiTable.find? fun entry => entry.1 == wanted).map Prod.snd

/-- The forms that a code can ask for, and the selector of each: drawn as text, or in color. -/
def emojiForms : List (List Char × Char) :=
  [("-text".toList, '\uFE0E'), ("-emoji".toList, '\uFE0F')]

/-- The name in a code, and the selector of the form that the code asks for. -/
def codeParts (code : List Char) : List Char × List Char :=
  match emojiForms.find? fun form => form.1.isSuffixOf code with
  | some form => (code.take (code.length - form.1.length), [form.2])
  | none => (code, [])

/-- What stands for a code: the emoji with the selector of its form, or the code between its
colons. -/
def emojiOfCode (code : List Char) : List Char :=
  ((emojiNamed? (codeParts code).1).map (· ++ (codeParts code).2)).getD (':' :: (code ++ [':']))

def inCode (c : Char) : Bool := c != ':' && !isBlank c

/-- Dropping characters from the start of a text makes it no longer. -/
theorem length_dropWhile_le (p : Char → Bool) (s : List Char) :
    (s.dropWhile p).length ≤ s.length :=
  (List.dropWhile_sublist p).length_le

/-- The text with emoji in the place of their codes, found from left to right. -/
def replaceEmoji : List Char → List Char
  | [] => []
  | c :: rest =>
    if c = ':' then
      match _h : rest.dropWhile inCode with
      | ':' :: after => emojiOfCode (rest.takeWhile inCode) ++ replaceEmoji after
      | _ => c :: replaceEmoji rest
    else c :: replaceEmoji rest
termination_by s => s.length
decreasing_by
  · have := length_dropWhile_le inCode rest
    simp_all only [List.length_cons]
    omega
  all_goals simp

/-- A text without a colon is left as it is. -/
theorem replaceEmoji_of_not_mem {s : List Char} (h : ':' ∉ s) : replaceEmoji s = s := by
  induction s with
  | nil => rw [replaceEmoji]
  | cons c rest ih =>
    simp only [List.mem_cons, not_or] at h
    rw [replaceEmoji, if_neg (Ne.symm h.1), ih h.2]

end MapStyle.Text
