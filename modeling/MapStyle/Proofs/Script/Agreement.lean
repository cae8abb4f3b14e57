import MapStyle.Proofs.Script.Evaluation
import MapStyle.Proofs.Value.Equality

/-!
# Terms that agree

Two ways to write the same thing are compared by their outcomes.  Where they have a value, a script
can compare them itself.

* `SameOutcome` holds of two terms that answer the same or end in the same fault.
* `Alike` holds of two terms with one value that are equal where a script compares them.
* `SameOutcome.alike` takes the first to the second for all that is no leaf.
-/

namespace MapStyle.Script

open Act

/-- Two terms have the same outcome: one value or one fault, and one session after it. -/
def SameOutcome (scope : Entries) (s : Session) (left right : Term) : Prop :=
  exec (eval scope left) s = exec (eval scope right) s

/-- Two terms have one value, and they are equal where they are compared. -/
structure Alike (scope : Entries) (s : Session) (left right : Term) (v : Value) : Prop where
  answersLeft : Answers scope s left v
  answersRight : Answers scope s right v
  equal : Answers scope s (.equal left right) (.bool true)

variable {scope : Entries} {s : Session} {left right : Term} {v : Value}

/-- A value that is no leaf is none with the present records in it. -/
theorem isLeaf_resolve (store : LayerStore) {v : Value} (inner : v.isLeaf = false) :
    (store.resolve v).isLeaf = false := by
  unfold LayerStore.resolve
  cases store.length with
  | zero => exact inner
  | succ steps => cases v <;> first | rfl | cases inner

/-- Two terms are equal if their values, one after the other, are the same with the present records
in them, and that is no leaf. -/
theorem exec_equal_of_resolve {s₁ s₂ : Session} {v' : Value}
    (answersLeft : exec (eval scope left) s = (.ok v, s₁))
    (answersRight : exec (eval scope right) s₁ = (.ok v', s₂))
    (same : s₂.layers.resolve v = s₂.layers.resolve v')
    (inner : (s₂.layers.resolve v').isLeaf = false) :
    exec (eval scope (.equal left right)) s = (.ok (.bool true), s₂) := by
  have equals : (s₂.layers.resolve v').equals (s₂.layers.resolve v') = true := by
    apply Value.equals_self
    intro x isDouble
    rw [isDouble] at inner
    cases inner
  rw [eval, exec_bind_of_ok answersLeft, exec_bind_of_ok answersRight,
    exec_bind_of_ok (exec_resolve v s₂), exec_bind_of_ok (exec_resolve v' s₂), exec_pure, same, equals]

/-- Two terms that answer one value, one after the other, are equal if that is no leaf. -/
theorem exec_equal {s₁ s₂ : Session} (answersLeft : exec (eval scope left) s = (.ok v, s₁))
    (answersRight : exec (eval scope right) s₁ = (.ok v, s₂)) (inner : v.isLeaf = false) :
    exec (eval scope (.equal left right)) s = (.ok (.bool true), s₂) :=
  exec_equal_of_resolve answersLeft answersRight rfl (isLeaf_resolve _ inner)

namespace SameOutcome

theorem alike (same : SameOutcome scope s left right) (answers : Answers scope s right v)
    (inner : v.isLeaf = false) : Alike scope s left right v :=
  have answersLeft : Answers scope s left v := same.trans answers
  ⟨answersLeft, answers, exec_equal answersLeft answers inner⟩

end SameOutcome

end MapStyle.Script
