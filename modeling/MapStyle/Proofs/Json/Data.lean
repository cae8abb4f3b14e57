import Mathlib.Logic.Basic
import MapStyle.Proofs.Json.Writing
import MapStyle.Proofs.Value.Plain

/-!
# Data

Data is what JSON has texts for: nothing in it is an object of the library or a view of one, and the
keys of its maps are texts, numbers, booleans or null.

* `Value.isData` decides it for a value with everything in it, and `Value.hasShortIntegers` whether
  the integers in a value have few enough digits to be written.
* `Json.writeProblem?_eq_none_iff`: data with short integers is all that can be written, and it can
  always be written.
-/

namespace MapStyle

namespace Value

/-- What a key of JSON is made from. -/
def isScalar : Value → Bool
  | .null | .bool _ | .int _ | .float _ | .str _ | .broken _ => true
  | _ => false

/-- The kinds of value that data is made of. -/
def isDataKind : Value → Bool
  | .null | .bool _ | .int _ | .float _ | .str _ | .broken _ | .list _ | .tuple _ => true
  | .map es => es.all fun e => e.1.isScalar
  | _ => false

/-- Data: every part of it is of a kind that data is made of. -/
def isData (v : Value) : Bool := v.parts.all isDataKind

theorem isData_iff {v : Value} :
    v.isData = true ↔ v.isDataKind = true ∧ ∀ w ∈ v.children, w.isData = true :=
  all_parts_iff

/-- An integer has few enough digits to be written. -/
def isShort : Value → Bool
  | .int n => (decimalDigits n.natAbs).length ≤ Text.integerDigitLimit
  | _ => true

/-- All integers in a value are short. -/
def hasShortIntegers (v : Value) : Bool := v.parts.all isShort

theorem hasShortIntegers_iff {v : Value} :
    v.hasShortIntegers = true ↔
      v.isShort = true ∧ ∀ w ∈ v.children, w.hasShortIntegers = true :=
  all_parts_iff

theorem isData_of_isScalar {v : Value} (scalar : v.isScalar = true) : v.isData = true := by
  cases v <;> first | rfl | cases scalar

theorem isData_map {es : Entries} :
    (Value.map es).isData = true ↔ ∀ e ∈ es, e.1.isScalar = true ∧ e.2.isData = true := by
  rw [isData_iff, isDataKind, List.all_eq_true, children, forall_mem_pairs]
  constructor
  · rintro ⟨keys, each⟩ e member
    exact ⟨keys e member, (each e member).2⟩
  · exact fun each => ⟨fun e member => (each e member).1, fun e member =>
      ⟨isData_of_isScalar (each e member).1, (each e member).2⟩⟩

theorem hasShortIntegers_of_isScalar {v : Value} (scalar : v.isScalar = true) :
    v.hasShortIntegers = v.isShort := by
  rw [Bool.eq_iff_iff, hasShortIntegers_iff]
  have none : v.children = [] := by cases v <;> first | rfl | cases scalar
  rw [none]
  exact and_iff_left nofun

theorem isStructural_of_isData {v : Value} (data : v.isData = true) : v.isStructural = true := by
  refine List.all_eq_true.mpr fun p member => ?_
  have kind := List.all_eq_true.mp data p member
  cases p <;> first | rfl | cases kind

end Value

namespace Json

/-- An integer is written unless it has too many digits. -/
theorem integerProblem?_eq_none_iff {n : Int} :
    integerProblem? n = none ↔ (Value.int n).isShort = true := by
  rw [integerProblem?, Value.isShort, decide_eq_true_iff]
  split
  · next long => exact iff_of_false (Option.some_ne_none _) (Nat.not_le.mpr long)
  · next short => exact iff_of_true rfl (Nat.not_lt.mp short)

theorem keyProblem?_int (n : Int) : keyProblem? (.int n) = integerProblem? n := by
  unfold keyProblem? writeKey writeInteger integerProblem?
  dsimp only
  by_cases long : Text.integerDigitLimit < (decimalDigits n.natAbs).length
  · rw [if_neg (Nat.not_le.mpr long), if_pos long]
    rfl
  · rw [if_pos (Nat.not_lt.mp long), if_neg long]
    rfl

theorem keyProblem?_eq_none_iff {key : Value} :
    keyProblem? key = none ↔ key.isScalar = true ∧ key.isShort = true := by
  cases key with
  | int n =>
      rw [keyProblem?_int, integerProblem?_eq_none_iff]
      exact (and_iff_right rfl).symm
  | _ => simp [keyProblem?, writeKey, Value.isScalar, Value.isShort]

theorem itemsProblem?_eq_none_iff {items : List Value} :
    itemsProblem? items = none ↔ ∀ v ∈ items, writeProblem? v = none := by
  induction items with
  | nil => simp [itemsProblem?]
  | cons item items ih => rw [itemsProblem?, Option.or_eq_none_iff, ih, List.forall_mem_cons]

theorem entriesProblem?_eq_none_iff {es : Entries} :
    entriesProblem? es = none ↔
      ∀ e ∈ es, (e.1.isScalar = true ∧ e.1.isShort = true) ∧ writeProblem? e.2 = none := by
  induction es with
  | nil => simp [entriesProblem?]
  | cons e es ih =>
      rw [entriesProblem?, Option.or_eq_none_iff, Option.or_eq_none_iff, keyProblem?_eq_none_iff, ih,
        List.forall_mem_cons]

/-- Nothing in a value keeps it from being written if and only if it is data with short integers. -/
theorem writeProblem?_eq_none_iff {v : Value} :
    writeProblem? v = none ↔ v.isData = true ∧ v.hasShortIntegers = true := by
  induction v using Value.children_induction with
  | step v ih =>
      cases v with
      | list items | tuple items =>
          rw [writeProblem?, itemsProblem?_eq_none_iff, Value.isData_iff, Value.hasShortIntegers_iff]
          exact (forall₂_congr ih).trans
            (forall₂_and.trans (and_congr (and_iff_right rfl).symm (and_iff_right rfl).symm))
      | map es =>
          have values := fun e member => (Value.forall_mem_pairs.mp ih e member).2
          rw [writeProblem?, entriesProblem?_eq_none_iff, Value.isData_map,
            Value.hasShortIntegers_iff, Value.children, Value.forall_mem_pairs]
          constructor
          · refine fun each => ⟨fun e member => ?_, rfl, fun e member => ?_⟩
            · obtain ⟨⟨scalar, -⟩, writable⟩ := each e member
              exact ⟨scalar, ((values e member).mp writable).1⟩
            · obtain ⟨⟨scalar, short⟩, writable⟩ := each e member
              exact ⟨Value.hasShortIntegers_of_isScalar scalar ▸ short,
                ((values e member).mp writable).2⟩
          · rintro ⟨data, -, short⟩ e member
            obtain ⟨scalar, isData⟩ := data e member
            obtain ⟨shortKey, shortValue⟩ := short e member
            exact ⟨⟨scalar, Value.hasShortIntegers_of_isScalar scalar ▸ shortKey⟩,
              (values e member).mpr ⟨isData, shortValue⟩⟩
      | int n =>
          rw [writeProblem?, integerProblem?_eq_none_iff, Value.hasShortIntegers_of_isScalar rfl]
          exact (and_iff_right rfl).symm
      | null | bool b | float x | str s | broken symbols => exact iff_of_true rfl ⟨rfl, rfl⟩
      | _ =>
          exact iff_of_false (Option.some_ne_none _) fun written =>
            Bool.false_ne_true (Value.isData_iff.mp written.1).1

end Json

end MapStyle
