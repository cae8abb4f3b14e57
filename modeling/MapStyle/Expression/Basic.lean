import MapStyle.Expression.Operator
import MapStyle.Value.Map

/-!
# Expressions

An expression wraps its forged array: the tag of an operator and its operands, in the order of the
grammar.  Operands are not checked; an expression given as an operand is replaced by its forged
array, and anything else is kept as it is.

* `Value.asOperand` is that replacement.
* `Expression.ofOperator` builds an expression from operands, `Expression.ofParts` from finished
  parts.
* `optionRecord` drops the unset entries of a record of options.
-/

namespace MapStyle

/-- One node of an expression tree, as the value it forges to. -/
structure Expression where
  forged : Value
deriving Inhabited, Repr

namespace Value

/-- A value in the position of an operand: an expression gives way to its forged array. -/
def asOperand : Value → Value
  | .expression forged => forged
  | v => v

end Value

namespace Expression

def toValue (e : Expression) : Value := .expression e.forged

/-- The array of a tag and finished parts. -/
def ofParts (op : Operator) (parts : List Value) : Expression :=
  ⟨.list (.str op.tag :: parts)⟩

/-- The array of a tag and operands. -/
def ofOperator (op : Operator) (operands : List Value) : Expression :=
  ofParts op (operands.map Value.asOperand)

/-- The array of an expression with one more operand at its end. -/
def followedBy (e : Expression) (last : Value) : Expression :=
  ⟨.list (e.forged.iterated?.getD [] ++ [last.asOperand])⟩

/-- The array of any tag and operands, known to the grammar or not. -/
def ofTag (tag : Value) (operands : List Value) : Expression :=
  ⟨.list (tag :: operands.map Value.asOperand)⟩

end Expression

/-- A record of options: null entries are dropped, the others become operands. -/
def optionRecord (options : Entries) : Entries :=
  (options.filter fun entry => !entry.2.isNull).map fun entry => (entry.1, entry.2.asOperand)

def namedEntry (name : String) (value : Value) : Value × Value := (.str name, value)

end MapStyle
