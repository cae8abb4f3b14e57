import MapStyle.Proofs.Shape.LayerChecks

/-!
# The checks of an expression

Four checks decide whether a value is an expression: one answers yes or no, one fails with a
problem, one lists the problems of a layer with the value as its filter, and one lists the problems
of a document, which the value can be if it is a list that starts with a text.

* `Script.Verdict` is what all four answer, and `Script.exec_expressionChecks` that they answer so.
-/

namespace MapStyle

namespace Shape

/-- The two checks of an expression go by one problem. -/
theorem isExpression_eq (v : Value) : isExpression v = (checkExpression v).isNone := by
  rw [Bool.eq_iff_iff, isOfKind_expression_iff]
  rcases checkExpression_cases v with ⟨none, holds⟩ | ⟨problem, some, reasoned⟩
  · rw [none]
    exact iff_of_true holds rfl
  · rw [some]
    exact iff_of_false reasoned.not_isOfKind Bool.false_ne_true

theorem checkExpression_unroll (store : LayerStore) (depth : Nat) (v : Value) :
    checkExpression (store.unroll depth v) = checkExpression v := by
  obtain ⟨shown, shows, unrolls, -⟩ := store.exists_unroll depth
  rw [unrolls, checkExpression_mapLeaves shows]

/-- A list that starts with a text is a document as an expression. -/
theorem documentProblems_unroll_of_led (store : LayerStore) (depth : Nat) {t : Value}
    (isText : IsOfKind .text t) (rest : List Value) :
    documentProblems (store.unroll depth (.list (t :: rest))) =
      ((checkExpression (.list (t :: rest))).map DocumentProblem.expression).toList := by
  obtain ⟨shown, shows, unrolls, -⟩ := store.exists_unroll depth
  have stays : store.unroll depth t = t :=
    (unrolls _).trans ((shows.mapLeaves_eq_text (isText_iff.mpr isText)).mpr rfl)
  have seen := checkExpression_unroll store depth (.list (t :: rest))
  rw [LayerStore.unroll_list, List.map_cons, stays] at seen ⊢
  have isLed : isLedByText (.list (t :: rest.map (store.unroll depth))) = true :=
    isText_iff.mpr isText
  rw [documentProblems, if_pos isLed, seen]

/-! ## Filters -/

/-- A record with a value as its filter, and with the other rules of a layer record met. -/
structure IsRecordOfFilter (v : Value) (record : Entries) : Prop where
  filter : Entries.lookupName record "filter" = some v
  met : ∀ rule ∈ layerRules, rule.key ≠ "filter" → rule.Met (Entries.lookupName record rule.key)

/-- About a record of a filter the rules say what the check of the expression finds, and no more. -/
theorem IsRecordOfFilter.rulesTell {v : Value} {record : Entries}
    (isRecord : IsRecordOfFilter v record) :
    RulesTell record (layerRules.map fun rule =>
      if rule.key = "filter" then
        (checkExpression v).map fun problem => (LayerProblem.badFilter problem).message
      else none) := by
  have ofKind : ∀ rule ∈ layerRules, rule.key = "filter" → rule.kind = .expression := by decide
  rw [RulesTell, List.forall₂_map_right_iff, List.forall₂_same]
  intro rule listed
  split
  · next isFilter =>
      have kind := ofKind rule listed isFilter
      rw [isFilter, isRecord.filter]
      rcases checkExpression_cases v with ⟨none, holds⟩ | ⟨problem, some, reasoned⟩
      · rw [none]
        exact .nothing (.there (kind ▸ holds))
      · rw [some]
        exact .message (.noExpression kind reasoned)
  · next other => exact .nothing (isRecord.met rule listed other)

end Shape

/-! ## The four checks -/

namespace Script

open Act Shape

/-- The checks find this problem with a value as an expression, or none. -/
structure Verdict (v : Value) (s : Session) (problem : Option ExpressionProblem) : Prop where
  decides :
    exec ((Function.tool .isExpression).run (alone v)) s = (.ok (.bool problem.isNone), s)
  passes : problem = none → exec ((Function.tool .checkExpression).run (alone v)) s = (.ok .null, s)
  fails : ∀ found ∈ problem,
    exec ((Function.tool .checkExpression).run (alone v)) s = (.error (.expressionShape found), s)
  asFilter : ∀ w record, (s.layers.view w).entries? = some record → IsRecordOfFilter v record →
    exec ((Function.tool .layerProblems).run (alone w)) s =
      (.ok (textList (problem.toList.map fun found =>
        "Layer 'filter' is invalid: " ++ found.message)), s)
  asDocument : ∀ t rest, IsOfKind .text t → v = .list (t :: rest) →
    exec ((Function.tool .documentProblems).run (alone v)) s =
      (.ok (textList (problem.toList.map ExpressionProblem.message)), s)

theorem verdict (v : Value) (s : Session) : Verdict v s (checkExpression v) where
  decides := by
    rw [exec_check (by simp), ToolFunction.answer, isExpression_eq, checkExpression_unroll]
  passes none := by
    rw [exec_check (by simp), ToolFunction.answer, checkExpression_unroll, none]
  fails found isProblem := by
    rw [exec_check (by simp), ToolFunction.answer, checkExpression_unroll, isProblem]
  asFilter w record isMap isRecord := by
    obtain ⟨said, tell, messages⟩ :=
      exists_tells_of_layerProblems (show 2 ≤ ToolFunction.checkDepth by decide) isMap
    rw [(findsInLayer w s).lists, layerMessages, messages,
      tell.unique isRecord.rulesTell fun _ _ => rfl]
    cases checkExpression v <;> rfl
  asDocument := by
    rintro t rest isText rfl
    rw [exec_check (by simp), ToolFunction.answer, Check.problems,
      documentProblems_unroll_of_led _ _ isText]
    cases checkExpression (.list (t :: rest)) <;> rfl

/-- All checks of an expression come to one verdict: there is no problem exactly if the value is an
expression, and otherwise one that says why it is none. -/
theorem exec_expressionChecks (v : Value) (s : Session) :
    ∃ problem, Verdict v s problem ∧ (problem = none ↔ IsOfKind .expression v) ∧
      ∀ found ∈ problem, IsNoExpression v found.message := by
  refine ⟨checkExpression v, verdict v s, ?_, ?_⟩
  · rw [← isOfKind_expression_iff, isExpression_eq, Option.isNone_iff_eq_none]
  · intro found isProblem
    rcases checkExpression_cases v with ⟨none, -⟩ | ⟨problem, some, reasoned⟩
    · cases none.symm.trans isProblem
    · cases some.symm.trans isProblem
      exact reasoned

/-- An unknown operator is told of an array by itself and as a filter. -/
theorem exec_expressionChecks_unknown :
    let session := Session.start ⟨"/", fun _ => .ok .empty, 80⟩
    let v : Value := .list [.str "nope", .int 1]
    let record : Entries := [(.str "id", .str "a"), (.str "type", .str "fill"),
      (.str "source", .str "s"), (.str "filter", v)]
    let message := "Unknown expression operator 'nope'"
    IsRecordOfFilter v record ∧ ∃ problem : ExpressionProblem,
      problem.message = message ∧
      exec ((Function.tool .isExpression).run (alone v)) session = (.ok (.bool false), session) ∧
      exec ((Function.tool .checkExpression).run (alone v)) session =
        (.error (.expressionShape problem), session) ∧
      exec ((Function.tool .layerProblems).run (alone (.map record))) session =
        (.ok (textList ["Layer 'filter' is invalid: " ++ message]), session) ∧
      exec ((Function.tool .documentProblems).run (alone v)) session =
        (.ok (textList [message]), session) := by
  intro session v record message
  have isRecord : IsRecordOfFilter v record := by
    refine ⟨rfl, ?_⟩
    simp only [layerRules, List.forall_mem_cons]
    exact ⟨fun _ => .there (.text "a"), fun _ => .there (.text "fill"), fun _ => .there (.text "s"),
      fun _ => .absent rfl, fun _ => .absent rfl, fun _ => .absent rfl, fun _ => .absent rfl,
      fun _ => .absent rfl, fun other => (other rfl).elim,
      fun _ member => (List.not_mem_nil member).elim⟩
  have reasoned : IsNoExpression v message := .unknownOperator fun op isTag =>
    absurd (isSome_ofTag?_iff.mpr ⟨op, isTag⟩) (by decide)
  obtain ⟨found, verdict, isNone, isReason⟩ := exec_expressionChecks v session
  obtain ⟨problem, rfl⟩ : ∃ problem, found = some problem :=
    Option.ne_none_iff_exists'.mp fun none => reasoned.not_isOfKind (isNone.mp none)
  have same : problem.message = message := (isReason problem rfl).unique reasoned
  have asFilter := verdict.asFilter (.map record) record rfl isRecord
  have asDocument := verdict.asDocument (.str "nope") [.int 1] (.text "nope") rfl
  simp only [Option.toList, List.map_cons, List.map_nil, same] at asFilter asDocument
  exact ⟨isRecord, problem, same, verdict.decides, verdict.fails problem rfl, asFilter, asDocument⟩

end Script

end MapStyle
