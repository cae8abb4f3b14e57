import MapStyle.Proofs.Forging.Chains
import MapStyle.Proofs.Forging.Assembly

/-!
# What each form answers

For each form of the vocabulary: if its operands answer, so does the form, and it answers the array
that the table puts together from what stands for the operands.

* `Answers.style` takes care of all functions of the vocabulary at once.
* `Answers.cases_finished`, `Answers.matchOn_*` and `Answers.letIn` go through the steps of chains.
-/

namespace MapStyle.Script

open Act Form

/-- A term answers, in every scope, the expression that holds an array. -/
structure Builds (s : Session) (term : Term) (array : Value) : Prop where
  answers : ∀ scope, Answers scope s term (.expression array)
  plain : array.isPlain = true
  led : array.isLed = true

namespace Answers

variable {scope : Entries} {s : Session} {terms : List Term} {vs : List Value}

/-! ## Functions of the style vocabulary -/

theorem style {f : StyleFunction} {positional : Nat} {names : List Nat}
    (fits : (Form.style f positional names).Fits s.slot vs.length)
    (each : ∀ scope, List.Forall₂ (Answers scope s) terms vs)
    (taken : ∀ v ∈ vs, f.takes v = true) :
    Builds s (Form.term (.style f positional names) terms)
      (Form.assemble s.slot (.style f positional names) (vs.map Value.translated)) := by
  obtain ⟨args, places, accepts⟩ := placed_of_fits fits
  have given : ∀ v ∈ args.given, f.takes v = true :=
    fun v member => taken v (mem_of_placed places member)
  have array : Form.assemble s.slot (.style f positional names) (vs.map Value.translated) =
      f.row (args.map Value.translated) := by
    rw [assemble, placed_map, places]
    rfl
  rw [array]
  refine ⟨fun scope => ?_, StyleFunction.row_isPlain given, rfl⟩
  have first := List.forall₂_take positional (each scope)
  have named := List.forall₂_drop positional (each scope)
  exact (exec_call (.style f) _ first named places).trans (StyleFunction.exec_run accepts given s)

/-! ## Interpolations, variables and records -/

theorem exec_copyOperand {v : Value} (operand : v.isOperand = true) :
    exec (copyOperand v) s = (.ok v, s) := by
  cases v with
  | expression array =>
      have plain := (Bool.and_eq_true_iff.mp operand).1
      rw [copyOperand, exec_bind_of_ok (exec_copy_of_isPlain plain s), exec_pure]
  | _ => rfl

theorem linear : Answers scope s (Form.term .linear []) (.list [.str "linear"]) :=
  (exec_call (.construct .linear) [] .nil .nil rfl).trans rfl

theorem exponential {base : Term} {v : Value} (answers : Answers scope s base v)
    (operand : v.isOperand = true) :
    Answers scope s (Form.term .exponential [base]) (.list [.str "exponential", v.asOperand]) := by
  refine (exec_call (.construct .exponential) [] (.cons answers .nil) .nil rfl).trans ?_
  change exec (Bound.values (Bound.map .value ⟨[some v], []⟩) >>= _) s = _
  rw [exec_bind_of_ok (Bound.exec_values _ s)]
  change exec (copyOperand v >>= _) s = _
  rw [exec_bind_of_ok (exec_copyOperand operand), exec_pure]
  rfl

theorem cubicBezier {x₁ y₁ x₂ y₂ : Term} {v₁ w₁ v₂ w₂ : Value}
    (each : List.Forall₂ (Answers scope s) [x₁, y₁, x₂, y₂] [v₁, w₁, v₂, w₂])
    (operands : ∀ v ∈ [v₁, w₁, v₂, w₂], v.isOperand = true) :
    Answers scope s (Form.term .cubicBezier [x₁, y₁, x₂, y₂])
      (.list (.str "cubic-bezier" :: [v₁, w₁, v₂, w₂].map Value.asOperand)) := by
  refine (exec_call (.construct .cubicBezier) [] each .nil rfl).trans ?_
  change exec (Bound.values (Bound.map .value ⟨[some v₁, some w₁, some v₂, some w₂], []⟩) >>= _) s
    = _
  rw [exec_bind_of_ok (Bound.exec_values _ s)]
  change exec (copyOperand v₁ >>= _) s = _
  rw [exec_bind_of_ok (exec_copyOperand (operands v₁ (by simp))),
    exec_bind_of_ok (exec_copyOperand (operands w₁ (by simp))),
    exec_bind_of_ok (exec_copyOperand (operands v₂ (by simp))),
    exec_bind_of_ok (exec_copyOperand (operands w₂ (by simp))), exec_pure]
  rfl

theorem var (name : String) :
    Builds s (Form.term (.var name) []) (Operator.leading .var [.str name]) where
  answers scope := by
    exact (exec_call (.construct .var) [] (.cons (constant rfl) .nil) .nil rfl).trans rfl
  plain := rfl
  led := rfl

theorem leaf {l : Leaf} (plain : l.isPlain s.slot = true) :
    Answers scope s l.term (l.value s.slot) := by
  cases l with
  | held index => exact slot index
  | written v =>
      refine constant ?_
      cases v with
      | float x =>
          cases x with
          | nan _ => cases plain
          | _ => rfl
      | _ => rfl

/-- A map written from plain keys and from values. -/
theorem mapTerm {keys : List Leaf} (plain : ArePlainKeys s.slot keys)
    (each : List.Forall₂ (Answers scope s) terms vs) :
    Answers scope s (Form.mapTerm keys terms) (.map (mapUnder s.slot keys vs)) := by
  refine map ?_ each ?_
  · rw [List.forall₂_map_left_iff, List.forall₂_map_right_iff, List.forall₂_same]
    exact fun key member => leaf (plain key member).1
  · exact List.forall_mem_map.mpr fun key member => (plain key member).2

/-! ## Cases -/

theorem pairOperands_concat (ps : List (Value × Value)) (c r : Value) :
    pairOperands (ps ++ [(c, r)]) = pairOperands ps ++ [c.asOperand, r.asOperand] := by
  rw [pairOperands, List.flatMap_append]
  rfl

/-- One condition with its result goes on with a case chain. -/
theorem caseStep {chain condition result : Term} {ps : List (Value × Value)} {c r : Value}
    (opens : Answers scope s chain (.caseChain (.pairs ps)))
    (answersCondition : Answers scope s condition c) (answersResult : Answers scope s result r) :
    Answers scope s (.method .result "then" (.method .when "when" chain [condition] []) [result] [])
      (.caseChain (.pairs (ps ++ [(c, r)]))) :=
  Answers.result (Answers.when opens answersCondition) answersResult

/-- A case chain that is gone through to its end gives the array of all conditions and results. -/
theorem caseSteps_finished {chain : Term} {ps : List (Value × Value)}
    (opens : Answers scope s chain (.caseChain (.pairs ps)))
    (each : List.Forall₂ (Answers scope s) terms vs)
    (plain : ∀ v ∈ pairOperands ps ++ vs.map Value.asOperand, v.isPlain = true) :
    Answers scope s (caseSteps true chain terms)
      (.expression (Operator.leading .caseOf (pairOperands ps ++ vs.map Value.asOperand))) := by
  fun_induction caseSteps true chain terms generalizing ps vs with
  | case1 chain condition result terms ih =>
      rcases each with _ | ⟨answersCondition, _ | ⟨answersResult, each⟩⟩
      have opensNext := caseStep opens answersCondition answersResult
      have goesOn := ih opensNext each
      rw [pairOperands_concat, List.append_assoc] at goesOn
      exact goesOn plain
  | case2 chain value =>
      rcases each with _ | ⟨answers, _ | _⟩
      exact otherwise opens answers (leading_isPlain .caseOf plain)
  | case3 chain =>
      cases each
      rw [List.map_nil, List.append_nil] at plain ⊢
      exact buildCase opens (leading_isPlain .caseOf plain)
  | case4 chain absurd => exact (absurd rfl).elim

/-- Values two by two. -/
def inPairs : List Value → List (Value × Value)
  | a :: b :: vs => (a, b) :: inPairs vs
  | _ => []

theorem pairOperands_inPairs {vs : List Value} (even : vs.length % 2 = 0) :
    pairOperands (inPairs vs) = vs.map Value.asOperand := by
  fun_induction inPairs vs with
  | case1 a b vs ih =>
      rw [List.length_cons, List.length_cons] at even
      have rest := ih (by omega)
      rw [pairOperands] at rest
      rw [pairOperands, List.flatMap_cons, rest]
      rfl
  | case2 vs short =>
      rcases vs with _ | ⟨a, _ | ⟨b, vs⟩⟩
      · rfl
      · cases even
      · exact (short a b vs rfl).elim

/-- A case chain that is left without its end holds all conditions and results. -/
theorem caseSteps_unfinished {chain : Term} {ps : List (Value × Value)}
    (opens : Answers scope s chain (.caseChain (.pairs ps)))
    (each : List.Forall₂ (Answers scope s) terms vs) (even : vs.length % 2 = 0) :
    Answers scope s (caseSteps false chain terms) (.caseChain (.pairs (ps ++ inPairs vs))) := by
  fun_induction caseSteps false chain terms generalizing ps vs with
  | case1 chain condition result terms ih =>
      rcases each with _ | ⟨answersCondition, _ | ⟨answersResult, each⟩⟩
      rw [List.length_cons, List.length_cons] at even
      have goesOn := ih (caseStep opens answersCondition answersResult) each (by omega)
      rw [List.append_assoc] at goesOn
      exact goesOn
  | case2 chain value =>
      rcases each with _ | ⟨answers, _ | _⟩
      cases even
  | case3 chain absurd => cases absurd
  | case4 chain =>
      cases each
      rw [inPairs, List.append_nil]
      · exact opens
      · rintro a b vs absurd
        cases absurd

/-- A case starts with its first condition and result, or as the chain without conditions. -/
theorem casesStart (finished : Bool) (each : ∀ scope, List.Forall₂ (Answers scope s) terms vs) :
    ∃ chain ps later ws, Form.term (.cases finished) terms = caseSteps finished chain later ∧
      (∀ scope, Answers scope s chain (.caseChain (.pairs ps))) ∧
      (∀ scope, List.Forall₂ (Answers scope s) later ws) ∧
      pairOperands ps ++ ws.map Value.asOperand = vs.map Value.asOperand ∧
      ws.length % 2 = vs.length % 2 := by
  have empty : ∀ scope, Answers scope s (.call (.construct .caseChain) [] [])
      (.caseChain (.pairs [])) := fun scope =>
    (exec_call (.construct .caseChain) [] .nil .nil rfl).trans rfl
  match terms, vs, each with
  | [], _, each => exact ⟨_, [], _, _, rfl, empty, each, rfl, rfl⟩
  | [_], _, each => exact ⟨_, [], _, _, rfl, empty, each, rfl, rfl⟩
  | condition :: outcome :: later, [], each => cases each []
  | condition :: outcome :: later, [_], each => cases each [] with | cons _ none => cases none
  | condition :: outcome :: later, c :: r :: ws, each =>
      refine ⟨_, [(c, r)], later, ws, rfl, fun scope => ?_, fun scope => ?_, rfl, ?_⟩
      · obtain _ | ⟨answersCondition, _ | ⟨answersOutcome, -⟩⟩ := each scope
        have starts : Answers scope s (.call (.construct .when) [condition] [])
            (.pendingCase (.pairs []) c) :=
          (exec_call (.construct .when) [] (.cons answersCondition .nil) .nil rfl).trans
            rfl
        exact result starts answersOutcome
      · obtain _ | ⟨-, _ | ⟨-, rest⟩⟩ := each scope
        exact rest
      · rw [List.length_cons, List.length_cons]
        omega

/-- A case gives the array of all conditions and results, and of the default if there is one. -/
theorem cases_finished (each : ∀ scope, List.Forall₂ (Answers scope s) terms vs)
    (plain : ∀ v ∈ vs.map Value.asOperand, v.isPlain = true) (scope : Entries) :
    Answers scope s (Form.term (.cases true) terms)
      (.expression (Operator.leading .caseOf (vs.map Value.asOperand))) := by
  obtain ⟨chain, ps, later, ws, same, opens, rest, parts, -⟩ := casesStart true each
  rw [same, ← parts]
  rw [← parts] at plain
  exact caseSteps_finished (opens scope) (rest scope) plain

/-- A case without its end forges to the array of all conditions and results. -/
theorem cases_unfinished (each : ∀ scope, List.Forall₂ (Answers scope s) terms vs)
    (even : vs.length % 2 = 0) :
    ∃ qs, pairOperands qs = vs.map Value.asOperand ∧ ∀ scope,
      Answers scope s (Form.term (.cases false) terms) (.caseChain (.pairs qs)) := by
  obtain ⟨chain, ps, later, ws, same, opens, rest, parts, parity⟩ := casesStart false each
  refine ⟨ps ++ inPairs ws, ?_, fun scope => ?_⟩
  · rw [pairOperands, List.flatMap_append, ← pairOperands, ← pairOperands,
      pairOperands_inPairs (parity.trans even), parts]
  · rw [same]
    exact caseSteps_unfinished (opens scope) (rest scope) (parity.trans even)

/-! ## Matches -/

theorem branchParts_eq (ps : List (Value × Value)) :
    branchParts ps = inTurn (Entries.mapValues Value.asOperand ps) := by
  rw [branchParts, inTurn, Entries.mapValues, List.flatMap_map]

/-- A match starts without branches. -/
theorem matchStart {subject : Term} {v : Value} (answers : Answers scope s subject v) :
    Answers scope s (.call (.construct .matchOn) [subject] []) (.matchChain v (.pairs [])) :=
  (exec_call (.construct .matchOn) [] (.cons answers .nil) .nil rfl).trans rfl

/-- A match that is called with a map takes only its end. -/
theorem matchFromTable {subject table : Term} {v : Value} {es : Entries}
    (answers : Answers scope s subject v) (answersTable : Answers scope s table (.map es)) :
    Answers scope s (.call (.construct .matchOn) [subject, table] [])
      (.matchEnding v (.pairs (normalized es))) :=
  (exec_call (.construct .matchOn) [] (.cons answers (.cons answersTable .nil)) .nil
    rfl).trans rfl

/-- A match that has come to its end makes the expression of its array. -/
theorem exec_ofProgress_finished (v : Value) (es : Entries) (w : Value) (s : Session) :
    exec (ofProgress (Style.matchOn v (some es) (some w))) s =
      exec (do return .expression (← finishedArray (matchParts v (normalized es) []) w)) s := by
  change exec (matchArray ⟨v, normalized es⟩ >>= fun array => followedBy array w) s = _
  rw [matchArray_eq]
  simp only [followedBy_eq, finishedArray, bind_assoc]

/-- A match that is called with everything is determined by the branches that it has of the
table. -/
theorem exec_matchAtOnce {subject table last : Term} {v w : Value} {es : Entries}
    (answers : Answers scope s subject v) (answersTable : AnswersTable scope s table es)
    (answersLast : Answers scope s last w) :
    exec (eval scope (.call (.construct .matchOn) [subject, table, last] [])) s =
      exec (do return .expression (← finishedArray (matchParts v (normalized es) []) w)) s := by
  obtain ⟨t, answersTable, holds⟩ := answersTable
  refine (exec_call (.construct .matchOn) []
    (.cons answers (.cons answersTable (.cons answersLast .nil))) .nil rfl).trans ?_
  change exec (Act.optionalEntries t >>= _) s = _
  rw [exec_bind_of_ok (exec_optionalEntries holds)]
  exact exec_ofProgress_finished v es w s

/-- A match that is called with everything is an expression. -/
theorem matchAtOnce {subject table last : Term} {v w : Value} {es : Entries}
    (answers : Answers scope s subject v) (answersTable : Answers scope s table (.map es))
    (answersLast : Answers scope s last w)
    (plain : (MatchChain.fallback ⟨v, normalized es⟩ w).forged.isPlain = true) :
    Answers scope s (.call (.construct .matchOn) [subject, table, last] [])
      (MatchChain.fallback ⟨v, normalized es⟩ w).toValue :=
  (exec_matchAtOnce answers ⟨_, answersTable, rfl⟩ answersLast).trans
    (exec_finishedMatch (Value.isStructural_of_isPlain plain))

/-- The branches of a match are added one after the other. -/
theorem matchSteps {chain : Term} {subject : Value} {ps : List (Value × Value)} {keys : List Leaf}
    (opens : Answers scope s chain (.matchChain subject (.pairs ps)))
    (plain : ∀ key ∈ keys, key.isPlain s.slot = true)
    (each : List.Forall₂ (Answers scope s) terms vs) :
    Answers scope s (Form.matchSteps chain keys terms) (.matchChain subject
      (.pairs (ps ++ normalized ((keys.map (Leaf.value s.slot)).zip vs)))) := by
  induction keys generalizing chain ps terms vs with
  | nil =>
      rw [List.map_nil, List.zip_nil_left, normalized, List.map_nil, List.append_nil,
        Form.matchSteps]
      · exact opens
      · rintro key keys result terms absurd
        cases absurd
  | cons key keys ih =>
      cases each with
      | nil =>
          rw [List.zip_nil_right, normalized, List.map_nil, List.append_nil, Form.matchSteps]
          · exact opens
          · rintro key keys result terms - absurd
            cases absurd
      | cons answers each =>
          have goesOn := ih (branch opens (leaf (plain key List.mem_cons_self)) answers)
            (fun k member => plain k (List.mem_cons_of_mem key member)) each
          rw [List.append_assoc] at goesOn
          exact goesOn

/-- The array of a match. -/
def matchArray (subject : Value) (ps : List (Value × Value)) (last : List Value) : Value :=
  Operator.leading .matchOn (subject.asOperand :: (branchParts ps ++ last.map Value.asOperand))

/-- A match that takes branches can be ended with a fallback, or without. -/
theorem matchEnd_open {chain : Term} {subject : Value} {ps : List (Value × Value)}
    (opens : Answers scope s chain (.matchChain subject (.pairs ps)))
    (each : List.Forall₂ (Answers scope s) terms vs) (atMost : vs.length ≤ 1)
    (plain : (matchArray subject ps vs).isPlain = true) :
    Answers scope s (matchEnd chain terms) (.expression (matchArray subject ps vs)) := by
  rcases each with _ | ⟨answers, _ | _⟩
  · unfold matchArray at plain ⊢
    rw [List.map_nil, List.append_nil] at plain ⊢
    exact buildMatch opens plain
  · exact fallback opens answers plain
  · rw [List.length_cons, List.length_cons] at atMost
    omega

/-- A match that takes only a fallback is ended with one. -/
theorem matchEnd_closing {chain : Term} {subject : Value} {ps : List (Value × Value)}
    (closes : Answers scope s chain (.matchEnding subject (.pairs ps)))
    (each : List.Forall₂ (Answers scope s) terms vs) (one : vs.length = 1)
    (plain : (matchArray subject ps vs).isPlain = true) :
    Answers scope s (matchEnd chain terms) (.expression (matchArray subject ps vs)) := by
  rcases each with _ | ⟨answers, _ | _⟩
  · cases one
  · exact closingFallback closes answers plain
  · cases one

/-! ## Lets -/

theorem bindingParts_eq (es : Entries) :
    bindingParts es = inTurn (Entries.mapValues Value.asOperand es) := by
  rw [bindingParts, inTurn, Entries.mapValues, List.flatMap_map]

/-- Further bindings are wrapped for the callback of a let. -/
theorem bindVar {bindings : Term} {es : Entries} (answers : Answers scope s bindings (.map es)) :
    Answers scope s (.call (.construct .bindVar) [bindings] []) (.varBindings es) :=
  (exec_call (.construct .bindVar) [] (.cons answers .nil) .nil rfl).trans rfl

/-- A let with a callback that answers further bindings is finished at once. -/
theorem letWith {bindings body : Term} {es further : Entries}
    (answers : Answers scope s bindings (.map es))
    (answersBody : Answers es s body (.varBindings further))
    (plain : (LetChain.extend ⟨es⟩ ⟨further⟩).forged.isPlain = true) :
    Answers scope s (letCallback bindings body) (LetChain.extend ⟨es⟩ ⟨further⟩).toValue := by
  have evaluated : exec (eval scope (letCallback bindings body)) s = _ := exec_letCallback answers
  have made := evaluated.trans (exec_letWith_of_bindings rfl answersBody rfl)
  exact made.trans (exec_makeExpression plain s)

end Answers

end MapStyle.Script
