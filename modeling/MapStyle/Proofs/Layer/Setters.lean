import Mathlib.Logic.Relation
import MapStyle.Proofs.Layer.InOrder
import MapStyle.Proofs.Layer.Keeping
import MapStyle.Proofs.Script.Evaluation

/-!
# Calls of setters

A layer that is made of texts has a record that is in order, and the record stays so whatever the
setters of the layer are given, as long as the zooms are numbers and the filter is an expression.

* `HasOrder` is the invariant: a layer is there, and its record is in order.
* `SetterStep` is one call of a setter, or anything else that leaves the record of the layer alone;
  `SetterStep.hasOrder` is the step lemma and `hasOrder_of_steps` the lemma of whole runs.
* `HasOrder.passesLayerChecks`: no check finds anything in what the layer forges to.
-/

namespace MapStyle

namespace Script

open Act

/-- A copy of an array is led by the same operator. -/
theorem isExpression_copied {v w : Value} {s s' : Session} (copies : exec (copy v) s = (.ok w, s'))
    (led : Shape.isExpression v = true) : Shape.isExpression w = true := by
  rw [exec_copy] at copies
  cases copied : s.layers.copy s.nextMark v with
  | error fault =>
      rw [copied] at copies
      cases copies
  | ok c =>
      rw [copied] at copies
      cases copies
      exact Shape.isExpression_copy copied led

/-! ## One call -/

/-- What a setter must be given for the record of a layer to stay in order: a zoom is a number, and
a filter is an expression or a property value with the array of one.  The others take anything. -/
def LayerSetter.Suits : LayerSetter → Value → Prop
  | .minZoom, v | .maxZoom, v => v.isNumber = true
  | .filter, v => Shape.isExpression v.asPropertyValue = true
  | _, _ => True

/-- A write that leaves a record in order. -/
def Layer.Write.Suits : Layer.Write → Prop
  | .inSection name _ _ => name = "paint" ∨ name = "layout"
  | .atTop name value => Layer.fits name value = true
  | .filter condition => Shape.isExpression condition.asPropertyValue = true

/-- A setter that is given what it must be given writes what it may. -/
theorem LayerSetter.suits_of_run {field : LayerSetter} {args : Arguments} {write : Layer.Write}
    (suits : ∀ v ∈ args.given, field.Suits v) (runs : field.run args = .ok write) :
    Layer.Write.Suits write := by
  have given : ∀ v, args.fixed = [some v] → field.Suits v := fun v same =>
    suits v (List.mem_append_left _ (by rw [same]; exact List.mem_cons_self))
  unfold LayerSetter.run at runs
  split at runs <;> cases runs
  case h_13 => exact rfl
  case h_14 same => exact given _ same
  case h_15 same => exact given _ same
  case h_16 same => exact given _ same
  all_goals first | exact Or.inl rfl | exact Or.inr rfl

/-- A copy of a filter keeps the operator that leads its array. -/
theorem isExpression_of_copyProperty {v w : Value} {s s' : Session}
    (copies : exec (copyProperty v) s = (.ok w, s'))
    (led : Shape.isExpression v.asPropertyValue = true) :
    Shape.isExpression w.asPropertyValue = true := by
  have ofInner : ∀ {inner : Value} {wrap : Value → Value}, Shape.isExpression inner = true →
      (∀ u, (wrap u).asPropertyValue = u) → exec (do return wrap (← copy inner)) s = (.ok w, s') →
      Shape.isExpression w.asPropertyValue = true := by
    intro inner wrap led held copies
    obtain ⟨u, s₁, copiesInner, same⟩ := bind_eq_ok.mp copies
    cases same
    rw [held, isExpression_copied copiesInner led]
  cases v with
  | expression inner => exact ofInner led (fun _ => rfl) copies
  | property inner => exact ofInner led (fun _ => rfl) copies
  | constant inner => exact ofInner led (fun _ => rfl) copies
  | _ =>
      cases copies
      exact led

/-- A layer is there, and its record is in order. -/
structure HasOrder (id : LayerId) (s : Session) : Prop where
  known : id < s.layers.length
  inOrder : Layer.InOrder (s.layers.recordOf id)

namespace HasOrder

variable {id : LayerId} {s s' : Session}

theorem keep (hasOrder : HasOrder id s) (keeps : Keeps id s s') : HasOrder id s' where
  known := keeps.known hasOrder.known
  inOrder := by
    rw [keeps.record]
    exact hasOrder.inOrder

/-- A change to the layer that leaves its record in order. -/
theorem changeLayer (hasOrder : HasOrder id s) {change : Layer → Layer}
    (changes : ∀ layer : Layer, Layer.InOrder layer.record → Layer.InOrder (change layer).record) :
    HasOrder id (exec (changeLayer id change) s).2 where
  known := by
    change id < (s.layers.modify id change).length
    rw [List.length_modify]
    exact hasOrder.known
  inOrder := by
    change Layer.InOrder (LayerStore.recordOf (s.layers.modify id change) id)
    rw [LayerStore.recordOf_modify_self change hasOrder.known]
    exact changes _ hasOrder.inOrder

/-- A write into a section fills it, or fails; the sections of a record that is in order belong to
no other layer. -/
theorem exec_writeInSection (hasOrder : HasOrder id s) {name : String}
    (isSection : name = "paint" ∨ name = "layout") (key value : Value) :
    HasOrder id (exec (LayerSetter.writeInSection id name key value) s).2 := by
  have filled : ∀ entries, Layer.fits name (.map entries) = true := by
    rcases isSection with rfl | rfl <;> exact fun _ => rfl
  have notRecord : ∀ other,
      Entries.lookupName (s.layers.recordOf id) name ≠ some (.record other) := by
    intro other found
    have suits := hasOrder.inOrder.fits _ _ found
    rcases isSection with rfl | rfl <;> cases suits
  unfold LayerSetter.writeInSection
  rw [exec_bind_of_ok (exec_get s)]
  split
  · next found _ => exact (notRecord _ found).elim
  · next found _ => exact (notRecord _ found).elim
  · exact hasOrder.changeLayer fun layer inOrder => inOrder.putName (filled _)
  · have made : HasOrder id (exec (Act.changeLayer id (·.withSection name)) s).2 :=
      hasOrder.changeLayer fun layer inOrder => inOrder.putName (filled _)
    rw [exec_bind]
    exact made

/-- Doing what a setter writes leaves the record of the layer in order. -/
theorem exec_perform (hasOrder : HasOrder id s) {write : Layer.Write}
    (suits : Layer.Write.Suits write) : HasOrder id (exec (LayerSetter.perform id write) s).2 := by
  cases write with
  | inSection name key value =>
      have kept := hasOrder.keep (keeps_copyProperty hasOrder.known value)
      exact after_bind kept fun w _ _ copied =>
        copied.exec_writeInSection suits key w
  | atTop name value =>
      exact hasOrder.changeLayer fun layer inOrder => inOrder.putName suits
  | filter condition =>
      have kept := hasOrder.keep (keeps_copyProperty hasOrder.known condition)
      exact after_bind kept fun w _ copies copied =>
        copied.changeLayer fun layer inOrder =>
          inOrder.putName (isExpression_of_copyProperty copies suits)

/-- A call of a setter leaves the record of the layer in order, also if it fails. -/
theorem exec_runMethod (hasOrder : HasOrder id s) {field : LayerSetter} {bound : Bound Argument}
    (suits : ∀ v, Argument.value v ∈ bound.given → field.Suits v) :
    HasOrder id (exec (runMethod (.setter field) (.layer id) bound) s).2 := by
  rcases Bound.values_cases bound s with ⟨args, rfl⟩ | fails
  · have plain : Method.setter field ≠ .forgeWith := fun same => nomatch same
    rw [Answers.exec_runMethod plain]
    change HasOrder id (exec (do
      let write ← Act.ofExcept (field.run args)
      LayerSetter.perform id write
      return Value.layer id) s).2
    refine after_bind ?_ fun write s₁ runs ordered => ?_
    · rw [exec_ofExcept]
      exact hasOrder
    · rw [exec_ofExcept] at runs
      have writes := LayerSetter.suits_of_run
        (fun v given => suits v (Bound.mem_given_map_of_mem _ given)) (congrArg Prod.fst runs)
      exact after_bind (ordered.exec_perform writes) fun _ _ _ done => done
  · unfold runMethod
    rw [exec_bind, fails]
    exact hasOrder

end HasOrder

/-! ## Sequences of calls -/

/-- What can happen to a session between two looks at a layer: a call of one of its setters with
suitable arguments, whether it succeeds or fails, or anything that leaves the record of the layer as
it is. -/
inductive SetterStep (id : LayerId) : Session → Session → Prop
  | call {s : Session} (field : LayerSetter) (bound : Bound Argument) :
    (∀ v, Argument.value v ∈ bound.given → field.Suits v) →
    SetterStep id s (exec (runMethod (.setter field) (.layer id) bound) s).2
  | elsewhere {s s' : Session} : s.layers.length ≤ s'.layers.length →
    s'.layers.recordOf id = s.layers.recordOf id → SetterStep id s s'

variable {id : LayerId} {s s' : Session}

theorem SetterStep.hasOrder (step : SetterStep id s s') (before : HasOrder id s) :
    HasOrder id s' := by
  cases step with
  | call field bound suits => exact before.exec_runMethod suits
  | elsewhere longer same => exact before.keep ⟨longer, same⟩

/-- The record of a layer that was in order is in order after any number of calls. -/
theorem hasOrder_of_steps (steps : Relation.ReflTransGen (SetterStep id) s s')
    (before : HasOrder id s) : HasOrder id s' := by
  induction steps with
  | refl => exact before
  | tail _ step ih => exact step.hasOrder ih

/-- A layer is made of three texts, and of a text, null or nothing as its source layer. -/
theorem exec_layer (kind name source : String) {sourceLayer : Option Value}
    (isText : ∀ v, sourceLayer = some v → v = .null ∨ v.isText = true) (s : Session) :
    ∃ s', exec ((Function.construct .layer).run (Bound.map .value
        ⟨[some (.str kind), some (.str name), some (.str source), sourceLayer], []⟩)) s =
          (.ok (.layer s.layers.length), s') ∧ HasOrder s.layers.length s' := by
  have given : Arguments.orNull sourceLayer = .null ∨
      (Arguments.orNull sourceLayer).isText = true := by
    cases sourceLayer with
    | none => exact Or.inl rfl
    | some v => exact isText v rfl
  let layer : Layer := Layer.create (.str kind) (.str name) (.str source)
    (if !(s.layers.view (Arguments.orNull sourceLayer)).isFalsy then Arguments.orNull sourceLayer
      else .null)
  refine ⟨{ s with layers := s.layers ++ [layer] }, ?_, ?_, ?_⟩
  · rw [Function.run, exec_bind_of_ok (Bound.exec_values _ s), Construction.run]
    all_goals rfl
  · change _ < (s.layers ++ [layer]).length
    rw [List.length_append]
    exact Nat.lt_succ_self _
  · change Layer.InOrder (LayerStore.recordOf (s.layers ++ [layer]) _)
    rw [LayerStore.recordOf_concat]
    refine Layer.inOrder_create ?_
    split
    · exact given
    · exact Or.inl rfl

/-! ## The checks -/

/-- The checks of a layer find nothing in a value. -/
structure PassesLayerChecks (v : Value) (s : Session) : Prop where
  layerProblems :
    exec ((Function.tool .layerProblems).run (alone v)) s = (.ok (.list []), s)
  documentProblems :
    exec ((Function.tool .documentProblems).run (alone v)) s = (.ok (.list []), s)
  checkLayer : exec ((Function.tool .checkLayer).run (alone v)) s = (.ok .null, s)

/-- What a layer forges to is its live record. -/
theorem exec_forge_layer (id : LayerId) (s : Session) :
    exec (Act.forge (.layer id)) s = (.ok (.record id), s) := rfl

/-- The live record of a layer whose record is in order passes the checks. -/
theorem HasOrder.passesLayerChecks (hasOrder : HasOrder id s) :
    PassesLayerChecks (.record id) s := by
  obtain ⟨record, unrolls, inOrder⟩ := Layer.exists_unroll_record 2 hasOrder.inOrder
  have noProblems : Shape.layerProblems (.map record) = [] :=
    Shape.recordProblems_of_inOrder inOrder
  constructor
  · rw [exec_check (by simp), ToolFunction.checkDepth, unrolls, ToolFunction.answer, noProblems]
    rfl
  · rw [exec_check (by simp), ToolFunction.checkDepth, unrolls, ToolFunction.answer, Check.problems,
      Shape.documentProblems_of_inOrder inOrder]
    rfl
  · rw [exec_check (by simp), ToolFunction.checkDepth, unrolls, ToolFunction.answer, Shape.checkLayer,
      noProblems]
    rfl

end Script

end MapStyle
