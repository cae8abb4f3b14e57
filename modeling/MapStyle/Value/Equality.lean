import MapStyle.Value.Basic

/-!
# Equality of values

Two values are equal if they are of the same kind and hold equal parts.  Numbers are compared by
what they denote, whatever their kind, and maps without regard to order.  A layer, a piece of
highlighted text and a console equal only themselves.

A double that denotes nothing differs from itself where it is compared on its own; inside a
container it is found again by its payload.

* `Value.same` compares parts of containers and keys of maps, `Value.equals` compares values on
  their own.
-/

namespace MapStyle.Value

/-- The integer that a boolean, an integer or a whole float stands for. -/
def wholeNumber? : Value → Option Int
  | .bool b => some (if b then 1 else 0)
  | .int n => some n
  | .float x => x.toInt?
  | _ => none

/-- Equality of values that are neither maps nor lists nor objects; a double that denotes nothing is
known by its payload. -/
def sameScalar : Value → Value → Bool
  | .null, .null => true
  | .str a, .str b => a == b
  | .broken a, .broken b => a == b
  | .float x, .float y => x.same y
  | a, b =>
    match a.wholeNumber?, b.wholeNumber? with
    | some m, some n => m == n
    | _, _ => false

mutual

/-- Equality of values inside containers. -/
def same : Value → Value → Bool
  | .list xs, .list ys | .tuple xs, .tuple ys => sameItems xs ys
  | .map es, b | .scope es, b =>
    match b.entries? with
    | some fs => es.length == fs.length && sameWithin es fs
    | none => false
  | .expression x, .expression y | .caseChain x, .caseChain y | .letChain x, .letChain y
  | .property x, .property y | .constant x, .constant y
  | .preparedOutput x, .preparedOutput y => same x y
  | .pendingCase x₁ x₂, .pendingCase y₁ y₂ | .matchChain x₁ x₂, .matchChain y₁ y₂
  | .matchEnding x₁ x₂, .matchEnding y₁ y₂ | .checkResult x₁ x₂, .checkResult y₁ y₂
  | .loadedConfig x₁ x₂, .loadedConfig y₁ y₂ => same x₁ y₁ && same x₂ y₂
  | .outputOperation x₁ x₂ x₃ x₄, .outputOperation y₁ y₂ y₃ y₄ =>
    same x₁ y₁ && same x₂ y₂ && same x₃ y₃ && same x₄ y₄
  | .varBindings es, .varBindings fs => es.length == fs.length && sameWithin es fs
  | .layer i, .layer j | .record i, .record j => i == j
  | .console i _ _, .console j _ _ | .highlighted i _ _, .highlighted j _ _ => i == j
  | a, b => a.sameScalar b

def sameItems : List Value → List Value → Bool
  | [], [] => true
  | x :: xs, y :: ys => same x y && sameItems xs ys
  | _, _ => false

/-- Every entry of the first map has an equal entry in the second. -/
def sameWithin : List (Value × Value) → List (Value × Value) → Bool
  | [], _ => true
  | (k, v) :: es, fs => (fs.any fun f => same k f.1 && same v f.2) && sameWithin es fs

end

/-- Equality of values. -/
def equals : Value → Value → Bool
  | .float x, .float y => x.equals y
  | a, b => same a b

/-- A text is the same only as an equal text. -/
@[simp] theorem same_str (a b : String) : (Value.str a).same (.str b) = (a == b) := by
  simp [same, sameScalar]

theorem eq_of_same_of_isText {v t : Value} (isText : t.isText = true) (h : v.same t = true) :
    v = t := by
  cases t with
  | str s | broken s => cases v <;> simp_all [same, sameScalar, wholeNumber?, entries?]
  | _ => cases isText

theorem eq_str_of_same {v : Value} {s : String} (h : v.same (.str s) = true) : v = .str s :=
  eq_of_same_of_isText rfl h

theorem same_self_of_isText {t : Value} (isText : t.isText = true) : t.same t = true := by
  cases t with
  | str s | broken s => simp [same, sameScalar]
  | _ => cases isText

end MapStyle.Value
