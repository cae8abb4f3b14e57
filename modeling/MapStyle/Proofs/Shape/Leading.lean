import MapStyle.Script.Eval
import MapStyle.Proofs.Layer.Copies
import MapStyle.Proofs.Layer.Present
import MapStyle.Proofs.Script.Calls

/-!
# Arrays led by an operator

The shape of a forged expression is decided by its first element, so it is kept by everything that
keeps texts: by copies, and by putting present records in the place of live ones.

* `Shape.isExpression_mapLeaves` is that statement.
* `Script.PassesChecks` says that the three checks of an expression find nothing in a value, and
  `Script.passesChecks_of_isExpression` when that is so.
-/

namespace MapStyle

namespace Shape

/-- An array of an operator of the grammar. -/
theorem isExpression_iff {v : Value} :
    isExpression v = true ↔
      ∃ tag parts, v = .list (.str tag :: parts) ∧ (Operator.ofTag? tag).isSome = true := by
  constructor
  · intro led
    unfold isExpression at led
    split at led
    · next tag parts => exact ⟨tag, parts, rfl, led⟩
    · cases led
  · rintro ⟨tag, parts, rfl, known⟩
    exact known

theorem isExpression_ofParts (op : Operator) (parts : List Value) :
    isExpression (Expression.ofParts op parts).forged = true :=
  isExpression_iff.mpr ⟨op.tag, parts, rfl, by rw [Operator.ofTag?_tag]; rfl⟩

theorem checkExpression_of_isExpression {v : Value} (led : isExpression v = true) :
    checkExpression v = none := by
  obtain ⟨tag, parts, rfl, known⟩ := isExpression_iff.mp led
  obtain ⟨op, found⟩ := Option.isSome_iff_exists.mp known
  rw [checkExpression, found]

theorem documentProblems_of_isExpression {v : Value} (led : isExpression v = true) :
    documentProblems v = [] := by
  obtain ⟨tag, parts, rfl, -⟩ := isExpression_iff.mp led
  have isText : isLedByText (.list (.str tag :: parts)) = true := rfl
  rw [documentProblems, if_pos isText, checkExpression_of_isExpression led]
  rfl

/-- What keeps texts keeps the operator that leads an array. -/
theorem isExpression_mapLeaves {f : Value → Value} (texts : ∀ s, f (.str s) = .str s) {v : Value}
    (led : isExpression v = true) : isExpression (v.mapLeaves f) = true := by
  obtain ⟨tag, parts, rfl, known⟩ := isExpression_iff.mp led
  rw [Value.mapLeaves, Value.mapLeavesOfItems, Value.mapLeaves, texts]
  · exact known
  all_goals
    intros
    contradiction

theorem isExpression_unroll (store : LayerStore) (depth : Nat) {v : Value}
    (led : isExpression v = true) : isExpression (store.unroll depth v) = true := by
  obtain ⟨shown, shows, unrolls, -⟩ := store.exists_unroll depth
  rw [unrolls]
  exact isExpression_mapLeaves shows.str led

theorem isExpression_copy {store : LayerStore} {mark : Nat} {v : Value} {copied : LayerStore.Copied}
    (copies : store.copy mark v = .ok copied) (led : isExpression v = true) :
    isExpression copied.value = true := by
  rw [(LayerStore.copy_eq_ok copies).1]
  exact isExpression_mapLeaves (fun _ => rfl) led

end Shape

namespace Script

open Act

/-- A value as the only argument of a call. -/
def alone (v : Value) : Bound Argument := ⟨[some (.value v)], []⟩

/-- The checks of an expression find nothing in a value, in any session. -/
structure PassesChecks (v : Value) : Prop where
  isExpression : ∀ s, exec ((Function.tool .isExpression).run (alone v)) s = (.ok (.bool true), s)
  checkExpression : ∀ s, exec ((Function.tool .checkExpression).run (alone v)) s = (.ok .null, s)
  documentProblems :
    ∀ s, exec ((Function.tool .documentProblems).run (alone v)) s = (.ok (.list []), s)

/-- A check takes its argument with present records in the place of live ones, as deep as it
looks. -/
theorem exec_check {f : ToolFunction}
    (check : f = .isExpression ∨ f = .checkExpression ∨ f = .documentProblems ∨ f = .layerProblems ∨
      f = .checkLayer) (v : Value) (s : Session) :
    exec ((Function.tool f).run (alone v)) s =
      (f.answer [some (s.layers.unroll ToolFunction.checkDepth v)], s) := by
  let args : Arguments := ⟨[some v], []⟩
  have run : f.run args = (do
      let args ← args.mapM f.look
      Act.ofExcept (f.answer args.fixed)) := by
    rcases check with rfl | rfl | rfl | rfl | rfl <;> rfl
  have looks : f.look = Act.unroll ToolFunction.checkDepth := by
    rcases check with rfl | rfl | rfl | rfl | rfl <;> rfl
  change exec ((Function.tool f).run (Bound.map .value args)) s = _
  rw [Function.run, exec_bind_of_ok (Bound.exec_values args s), run, looks,
    exec_bind_of_ok (Arguments.exec_mapM args fun v _ => exec_unroll _ v s), exec_ofExcept]
  rfl

theorem passesChecks_of_isExpression {v : Value} (led : Shape.isExpression v = true) :
    PassesChecks v where
  isExpression s := by
    rw [exec_check (by simp), ToolFunction.answer, Shape.isExpression_unroll _ _ led]
  checkExpression s := by
    rw [exec_check (by simp), ToolFunction.answer,
      Shape.checkExpression_of_isExpression (Shape.isExpression_unroll _ _ led)]
  documentProblems s := by
    rw [exec_check (by simp), ToolFunction.answer, Check.problems,
      Shape.documentProblems_of_isExpression (Shape.isExpression_unroll _ _ led)]
    rfl

end Script

end MapStyle
