import MapStyle.Proofs.Catalog.Selection
import MapStyle.Proofs.Json.Kinds
import MapStyle.Proofs.Shape.Made

/-!
# What the functions of the tool answer

The functions of the tool make no expressions, except that they build the examples of the catalog.
A few of them hand back an argument.
-/

namespace MapStyle.Script

open Act

/-! ## Answers without a session -/

theorem noExpression_of_boundedInt {value bound v : Value}
    (answers : boundedIntOf value bound = .ok v) : NoExpression v := by
  have fromOption : ∀ n : Option Int, NoExpression ((n.map Value.int).getD .null) := by
    intro n
    cases n <;> exact nofun
  unfold boundedIntOf at answers
  split at answers <;> cases answers
  · split <;> exact nofun
  · exact nofun
  · exact fromOption _
  · exact fromOption _
  · exact nofun

theorem noExpression_of_reportLines {enabled : Bool} {results : List Value} {v : Value}
    (answers : reportLinesOf enabled results = .ok v) : NoExpression v := by
  obtain ⟨_, -, same⟩ := except_bind_eq_ok.mp answers
  cases same
  exact nofun

/-- A function that only looks at its arguments answers no expression, but for the one that can hand
back the name of a file. -/
theorem ToolFunction.noExpression_of_answer {f : ToolFunction} {args : List (Option Value)} {v : Value}
    (makes : (Function.tool f).handsBack = false) (answers : f.answer args = .ok v) :
    NoExpression v := by
  unfold ToolFunction.answer at answers
  split at answers
  · cases answers
    exact nofun
  · split at answers <;> cases answers
    exact nofun
  · cases answers
    exact nofun
  · split at answers <;> cases answers
    exact nofun
  · exact noExpression_of_boundedInt answers
  · cases makes
  · cases answers
    exact nofun
  · split at answers
    · exact noExpression_of_reportLines answers
    · cases answers
  · obtain ⟨_, -, same⟩ := except_bind_eq_ok.mp answers
    cases same
    exact nofun
  · cases answers
    exact nofun
  · obtain ⟨_, -, same⟩ := except_bind_eq_ok.mp answers
    cases same
    exact nofun
  · obtain ⟨_, -, same⟩ := except_bind_eq_ok.mp answers
    cases same
    exact nofun
  · cases answers

/-! ## The catalog -/

/-- A value that is an expression. -/
def isExpressionObject : Value → Bool
  | .expression _ => true
  | _ => false

/-- An example of the catalog holds no expression; one that is an expression is led by an
operator. -/
def holdsNoExpression : Example → Bool
  | .expression e =>
    Shape.isExpression e.forged && e.forged.parts.all fun p => !isExpressionObject p
  | .property p => p.value.parts.all fun p => !isExpressionObject p
  | .constant c => c.value.parts.all fun p => !isExpressionObject p
  | .layer l => l.forge.parts.all fun p => !isExpressionObject p

theorem catalog_holdsNoExpression :
    (Catalog.groups.all fun group => group.2.all fun entry => holdsNoExpression entry.2) = true := by
  decide

theorem holdsNoExpression_of_mem {group : String × ExampleGroup} (known : group ∈ Catalog.groups)
    {entry : String × Example} (member : entry ∈ group.2) : holdsNoExpression entry.2 = true :=
  List.all_eq_true.mp (List.all_eq_true.mp catalog_holdsNoExpression group known) entry member

theorem noExpression_of_parts {v : Value}
    (none : (v.parts.all fun p => !isExpressionObject p) = true) {w : Value} :
    Value.expression w ∉ v.parts := fun part =>
  nomatch (Bool.not_eq_true' _).mp (List.all_eq_true.mp none _ part)

/-- What an example forges to holds no expression. -/
theorem expression_notMem_forge {e : Example} (holds : holdsNoExpression e = true) {w : Value} :
    Value.expression w ∉ e.forge.parts := by
  cases e with
  | expression x => exact noExpression_of_parts (Bool.and_eq_true_iff.mp holds).2
  | _ => exact noExpression_of_parts holds

theorem noExpression_of_forge {e : Example} (holds : holdsNoExpression e = true) :
    NoExpression e.forge := by
  intro w same
  have part : Value.expression w ∈ e.forge.parts := by
    rw [← same]
    exact Value.self_mem_parts _
  exact expression_notMem_forge holds part

theorem noExpression_of_select {group name : Option String} {v : Value}
    (answers : (Catalog.select group name).result = .ok v) : NoExpression v := by
  rcases Catalog.select_cases group name with ⟨_, -, same⟩ | ⟨_, -, same⟩ |
    ⟨_, known, _, member, same⟩ | ⟨_, same⟩ <;> cases answers.symm.trans same
  · exact nofun
  · exact nofun
  · exact noExpression_of_forge (holdsNoExpression_of_mem known member)

theorem noExpression_of_selectOf {group name v : Value}
    (answers : (selectOf group name).result = .ok v) : NoExpression v := by
  have unknown : ∀ other, selectOf.unknownExample other ≠ .ok v := by
    intro other answers
    obtain ⟨_, -, fault⟩ := except_bind_eq_ok.mp answers
    cases fault
  unfold selectOf at answers
  split at answers
  · exact noExpression_of_select answers
  · exact noExpression_of_select answers
  · exact noExpression_of_select answers
  · exact noExpression_of_select answers
  · exact (unknown _ answers).elim
  · split at answers
    · exact (unknown _ answers).elim
    · exact noExpression_of_select answers
  · obtain ⟨_, -, fault⟩ := except_bind_eq_ok.mp answers
    cases fault

/-! ## All functions of the tool -/

theorem yields_groupsValue (selected : List (String × ExampleGroup)) :
    Yields (groupsValue selected) Made :=
  .bind fun _ => .pure (Made.other nofun)

theorem yields_prepareJsonOf (payload indent theme : Value) (colored : Bool) :
    Yields (prepareJsonOf payload indent theme colored) Made := by
  unfold prepareJsonOf
  refine .bind fun text => ?_
  split
  · exact .bind fun _ => .bind fun _ => .pure (Made.other nofun)
  · exact .pure (Made.other nofun)

/-- A function of the tool that does not hand back an argument makes no expression that is not led
by an operator. -/
theorem ToolFunction.yields_made {f : ToolFunction} (makes : (Function.tool f).handsBack = false)
    (args : Arguments) : Yields (f.run args) Made := by
  unfold ToolFunction.run
  split
  · exact .bind fun _ => .bind fun _ => .pure (Made.other nofun)
  · refine .bind fun entries => ?_
    split <;> exact .pure (Made.other nofun)
  · exact .bind fun _ => .bind fun _ => .pure (Made.other nofun)
  · exact .bind fun _ => .bind fun _ => .bind fun _ => .bind fun _ => .pure (Made.other nofun)
  · exact .bind fun _ => .pure (Made.other nofun)
  · exact .bind fun _ => .bind fun _ => .ofExcept fun v loads =>
      Made.other (Document.noExpression_of_load loads)
  · exact .bind fun _ => .bind fun _ => .bind fun _ => .bind fun _ => .pure (Made.other nofun)
  · exact .pure (Made.other nofun)
  · exact .bind fun _ => yields_groupsValue _
  · exact .ofLogged fun v answers => Made.other (noExpression_of_selectOf answers)
  · cases makes
  · cases makes
  · cases makes
  · cases makes
  · cases makes
  · exact .bind fun _ => .bind fun _ => yields_prepareJsonOf _ _ _ _
  · exact .bind fun _ => .pure (Made.other nofun)
  · exact .bind fun _ => .bind fun _ => .bind fun _ => .pure (Made.other nofun)
  · exact .pure (Made.other nofun)
  · exact .pure (Made.other nofun)
  · refine .bind fun _ => ?_
    unfold printOutput
    split
    · exact .bind fun _ => .bind fun _ => .pure (Made.other nofun)
    · exact .throw
  · exact .bind fun _ => .ofExcept fun v answers =>
      Made.other (ToolFunction.noExpression_of_answer makes answers)

/-! ## All functions -/

/-- A function that is not a raw constructor and does not hand back an argument makes expressions
that are led by an operator. -/
theorem Function.yields_made {f : Function} (notRaw : f.isRaw = false) (makes : f.handsBack = false)
    (bound : Bound Argument) : Yields (f.run bound) Made := by
  cases f with
  | style f =>
      refine .bind fun _ => .bind fun args => ?_
      have runs : Yields (Act.ofExcept (f.run args)) fun e _ => IsOfParts e :=
        .ofExcept fun _ runs _ => StyleFunction.isOfParts_of_run runs
      exact .bind_of runs fun _ form => yields_makeExpression form.led
  | letIn => exact yields_runLet bound
  | construct f => exact .bind fun args => Construction.yields_made notRaw makes args
  | property f => exact .bind fun _ => .bind fun _ => .pure (Made.other nofun)
  | constant f => exact .bind fun _ => .bind fun _ => .pure (Made.other nofun)
  | tool f => exact .bind fun args => ToolFunction.yields_made makes args

end MapStyle.Script
