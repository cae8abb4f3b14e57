import MapStyle.Text.Digit
import MapStyle.Text.Newline

/-!
# JSON problems

Why a text is not JSON, and where.  A position is an index into the text, shown with its line and
its column, both counted from one.

And why a value cannot be written as JSON.
-/

namespace MapStyle.Json

/-- Why a text is not JSON. -/
inductive Reason where
  | expectedValue
  | expectedName
  | expectedColon
  | expectedComma
  | extraData
  | unterminated
  | controlCharacter
  | badEscape
  | badUnicodeEscape
  | byteOrderMark
deriving DecidableEq, Repr, Inhabited

def Reason.text : Reason → String
  | .expectedValue => "Expecting value"
  | .expectedName => "Expecting property name enclosed in double quotes"
  | .expectedColon => "Expecting ':' delimiter"
  | .expectedComma => "Expecting ',' delimiter"
  | .extraData => "Extra data"
  | .unterminated => "Unterminated string starting at"
  | .controlCharacter => "Invalid control character at"
  | .badEscape => "Invalid \\escape"
  | .badUnicodeEscape => "Invalid \\uXXXX escape"
  | .byteOrderMark => "Unexpected UTF-8 BOM (decode using utf-8-sig)"

/-- A reason at a place of a text. -/
structure Problem where
  reason : Reason
  line : Nat
  column : Nat
  index : Nat
deriving DecidableEq, Repr, Inhabited

/-- A reason at an index of a text. -/
def Problem.at (text : List Char) (reason : Reason) (index : Nat) : Problem :=
  ⟨reason, Text.lineOf text index, Text.columnOf text index, index⟩

/-- The message of a problem: the reason, then the line, the column and the index. -/
def Problem.message (p : Problem) : String :=
  p.reason.text ++ ": line " ++ toString p.line ++ " column " ++ toString p.column
    ++ " (char " ++ toString p.index ++ ")"

/-- Why a value cannot be written as JSON. -/
inductive WriteProblem where
  /-- An object of the library stands in it. -/
  | unwritable (kind : String)
  /-- A key of a map is neither a text nor a number nor a boolean nor null. -/
  | badKey (kind : String)
  /-- A value holds itself. -/
  | circular
  /-- An integer has too many digits. -/
  | oversizedInteger
  /-- The indent is no whole number of blanks. -/
  | fractionalIndent
  /-- The indent is no number. -/
  | noIndent (kind : String)
deriving DecidableEq, Repr, Inhabited

def WriteProblem.message : WriteProblem → String
  | .unwritable kind => "Object of type " ++ kind ++ " is not JSON serializable"
  | .badKey kind => "keys must be str, int, float, bool or None, not " ++ kind
  | .circular => "Circular reference detected"
  | .oversizedInteger =>
    "Exceeds the limit (" ++ toString Text.integerDigitLimit ++ " digits) for integer string "
      ++ "conversion; use sys.set_int_max_str_digits() to increase the limit"
  | .fractionalIndent => "can't multiply sequence by non-int of type 'float'"
  | .noIndent kind => "'>' not supported between instances of '" ++ kind ++ "' and 'int'"

end MapStyle.Json
