import MapStyle.Proofs.Forging.ArrayParts
import MapStyle.Proofs.Forging.Tree
import MapStyle.Proofs.Script.Tables

/-!
# Steps of chains

What each step of a case, a match and a let chain answers, when the chain that it goes on from holds
pairs of values, as every chain does that was made step by step.

* `caseParts` and `matchParts` are the parts of the arrays, and `caseArray_eq` and `matchArray_eq`
  say that the chains put their arrays together from them.
* `Answers.when` and its companions are the steps that go on with a chain.
* `Answers.exec_otherwise` and its companions say which expression the end of a chain makes; where
  the array is known by what it holds, `Answers.otherwise` and its companions say that it is the
  answer.
* `letWith` is a let with a callback, and `exec_letWith` takes it apart by what the callback comes
  to.
-/

namespace MapStyle.Script

open Act

namespace Act

variable {s : Session}

theorem exec_itemsOf_tuple (items : List Value) :
    exec (itemsOf (.tuple items)) s = (.ok items, s) := rfl

theorem exec_pairsOf_pairs (ps : List (Value × Value)) :
    exec (pairsOf (.pairs ps)) s = (.ok ps, s) := by
  have each : exec ((ps.map fun p => Value.pair p.1 p.2).mapM pairOf) s = (.ok (ps.map id), s) := by
    rw [List.mapM_map]
    exact exec_mapM fun p _ => rfl
  rw [pairsOf, Value.pairs, exec_bind_of_ok (exec_itemsOf_tuple _), each, List.map_id]

theorem exec_withPair (ps : List (Value × Value)) (a b : Value) :
    exec (Method.withPair (.pairs ps) a b) s = (.ok (.pairs (ps ++ [(a, b)])), s) := by
  rw [Method.withPair, Value.pairs, exec_bind_of_ok (exec_itemsOf_tuple _), exec_pure, Value.pairs,
    List.map_append]
  rfl

theorem exec_caseChainOf (ps : List (Value × Value)) :
    exec (caseChainOf (.pairs ps)) s = (.ok ⟨ps⟩, s) := by
  rw [caseChainOf, exec_bind_of_ok (exec_pairsOf_pairs ps), exec_pure]

theorem exec_matchChainOf (subject : Value) (ps : List (Value × Value)) :
    exec (matchChainOf subject (.pairs ps)) s = (.ok ⟨subject, ps⟩, s) := by
  rw [matchChainOf, exec_bind_of_ok (exec_pairsOf_pairs ps), exec_pure]

end Act

/-! ## Arrays of chains -/

/-- The parts of a case: its conditions, results and default in turn are operands. -/
def caseParts (operands : List Value) : List ArrayPart :=
  .kept (.str "case") :: operands.map .operand

/-- The parts of a match: the keys of its branches are no operands. -/
def matchParts (subject : Value) (branches : List (Value × Value)) (last : List Value) :
    List ArrayPart :=
  .kept (.str "match") :: .operand subject ::
    (branches.flatMap (fun branch => [.kept branch.1, .operand branch.2]) ++ last.map .operand)

theorem matchParts_concat (subject : Value) (branches : List (Value × Value)) (last : Value) :
    matchParts subject branches [] ++ [.operand last] = matchParts subject branches [last] := by
  rw [matchParts, List.map_nil, List.append_nil, List.cons_append, List.cons_append]
  rfl

/-- With two items for each pair there are twice as many. -/
theorem length_flatMap_pair {α β : Type} (f g : α → β) (items : List α) :
    (items.flatMap fun a => [f a, g a]).length = 2 * items.length := by
  induction items with
  | nil => rfl
  | cons a items ih =>
      rw [List.flatMap_cons, List.length_append, ih, List.length_cons, List.length_singleton,
        List.length_cons]
      omega

theorem length_matchParts (subject : Value) (branches : List (Value × Value)) (last : List Value) :
    (matchParts subject branches last).length = 2 * branches.length + 2 + last.length := by
  rw [matchParts, List.length_cons, List.length_cons, List.length_append, length_flatMap_pair,
    List.length_map]
  omega

/-- What holds of the operator and of all operands and keys holds of all parts. -/
theorem forall_caseParts {motive : Value → Prop} {vs : List Value} (tag : motive (.str "case"))
    (each : ∀ v ∈ vs, motive v) : ∀ p ∈ caseParts vs, motive p.value :=
  List.forall_mem_cons.mpr ⟨tag, List.forall_mem_map.mpr each⟩

theorem forall_matchParts {motive : Value → Prop} {subject : Value} {branches : List (Value × Value)}
    {last : List Value} (tag : motive (.str "match")) (isSubject : motive subject)
    (each : ∀ b ∈ branches, motive b.1 ∧ motive b.2) (isLast : ∀ v ∈ last, motive v) :
    ∀ p ∈ matchParts subject branches last, motive p.value := by
  refine List.forall_mem_cons.mpr ⟨tag, List.forall_mem_cons.mpr ⟨isSubject,
    List.forall_mem_append.mpr ⟨fun p member => ?_, List.forall_mem_map.mpr isLast⟩⟩⟩
  obtain ⟨b, among, part⟩ := List.mem_flatMap.mp member
  rcases List.mem_pair.mp part with rfl | rfl
  · exact (each b among).1
  · exact (each b among).2

/-- The parts that pairs contribute are copied pair by pair. -/
theorem mapM_copied_flatMap {parts : Value × Value → List ArrayPart}
    (copyPair : Value × Value → Act (Value × Value))
    (each : ∀ p, (parts p).mapM ArrayPart.copied = do return parts (← copyPair p))
    (ps : List (Value × Value)) :
    (ps.flatMap parts).mapM ArrayPart.copied = do return (← ps.mapM copyPair).flatMap parts := by
  induction ps with
  | nil => rfl
  | cons p ps ih =>
      rw [List.flatMap_cons, List.mapM_append, each, ih, List.mapM_cons]
      simp only [bind_assoc, pure_bind, List.flatMap_cons]

theorem caseArray_eq (ps : List (Value × Value)) :
    caseArray ⟨ps⟩ = arrayOf (caseParts (Form.inTurn ps)) := by
  have operands : (Form.inTurn ps).map ArrayPart.operand =
      ps.flatMap fun p => [.operand p.1, .operand p.2] := List.map_flatMap
  let copyPair (pair : Value × Value) : Act (Value × Value) := do
    let condition ← copyOperand pair.1
    return (condition, ← copyOperand pair.2)
  rw [arrayOf, caseParts, operands, List.mapM_cons, mapM_copied_flatMap copyPair fun p => by
    simp only [copyPair, List.mapM_cons, List.mapM_nil, ArrayPart.copied, bind_assoc, pure_bind]]
  simp only [ArrayPart.copied, bind_assoc, pure_bind]
  unfold caseArray
  congr 1
  funext qs
  rw [CaseChain.build, pairOperands, List.map_cons, List.map_flatMap]
  rfl

theorem matchArray_eq (subject : Value) (ps : List (Value × Value)) :
    matchArray ⟨subject, ps⟩ = arrayOf (matchParts subject ps []) := by
  let copyBranch (branch : Value × Value) : Act (Value × Value) := do
    return (branch.1, ← copyOperand branch.2)
  rw [arrayOf, matchParts, List.mapM_cons, List.mapM_cons, List.map_nil, List.append_nil,
    mapM_copied_flatMap copyBranch fun p => by
      simp only [copyBranch, List.mapM_cons, List.mapM_nil, ArrayPart.copied, bind_assoc, pure_bind]]
  simp only [ArrayPart.copied, bind_assoc, pure_bind]
  unfold matchArray
  congr 1
  funext subject'
  congr 1
  funext qs
  rw [MatchChain.build, branchParts, List.map_cons, List.map_cons, List.map_flatMap]
  rfl

theorem forged_buildCase (ps : List (Value × Value)) :
    (CaseChain.build ⟨ps⟩).forged =
      .list ((caseParts (Form.inTurn ps)).map ArrayPart.written) := by
  rw [CaseChain.build, pairOperands, caseParts, Form.inTurn, List.map_cons, List.map_flatMap,
    List.map_flatMap]
  rfl

theorem forged_buildMatch (subject : Value) (ps : List (Value × Value)) :
    (MatchChain.build ⟨subject, ps⟩).forged =
      .list ((matchParts subject ps []).map ArrayPart.written) := by
  rw [MatchChain.build, branchParts, matchParts, List.map_nil, List.append_nil, List.map_cons,
    List.map_cons, List.map_flatMap]
  rfl

theorem forged_fallback (subject : Value) (ps : List (Value × Value)) (v : Value) :
    (MatchChain.fallback ⟨subject, ps⟩ v).forged =
      .list ((matchParts subject ps []).map ArrayPart.written ++ [v.asOperand]) := by
  rw [MatchChain.fallback, Expression.followedBy, forged_buildMatch]
  rfl

/-- A chain forges to a copy of its array. -/
theorem exec_forge_caseChain (ps : List (Value × Value)) (s : Session) :
    exec (Act.forge (.caseChain (.pairs ps))) s =
      exec (arrayOf (caseParts (Form.inTurn ps)) >>= copy) s := by
  rw [Act.forge, exec_bind_of_ok (exec_caseChainOf ps), caseArray_eq]

theorem exec_forge_matchChain (subject : Value) (ps : List (Value × Value)) (s : Session) :
    exec (Act.forge (.matchChain subject (.pairs ps))) s =
      exec (arrayOf (matchParts subject ps []) >>= copy) s := by
  rw [Act.forge, exec_bind_of_ok (exec_matchChainOf subject ps), matchArray_eq]

/-- A value at the end of a chain makes an expression of the array with it behind. -/
theorem followedBy_eq (array last : Value) :
    followedBy array last = do return .expression (← joinedTo array last) := by
  simp only [followedBy, joinedTo, makeExpression, bind_assoc]

namespace Answers

variable {scope : Entries} {s : Session} {chain condition key value table bindings body : Term}
variable {ps : List (Value × Value)} {subject c r k t v : Value} {es : Entries}

/-! ## Case chains -/

theorem when (opens : Answers scope s chain (.caseChain (.pairs ps)))
    (answers : Answers scope s condition c) :
    Answers scope s (.method .when "when" chain [condition] [])
      (.pendingCase (.pairs ps) c) := by
  refine (exec_method opens (.cons answers .nil) (by decide) rfl rfl).trans ?_
  rfl

theorem result (waits : Answers scope s chain (.pendingCase (.pairs ps) c))
    (answers : Answers scope s value v) :
    Answers scope s (.method .result "then" chain [value] [])
      (.caseChain (.pairs (ps ++ [(c, v)]))) := by
  refine (exec_method waits (.cons answers .nil) (by decide) rfl rfl).trans ?_
  change exec (Method.withPair (.pairs ps) c v >>= _) s = _
  rw [exec_bind_of_ok (exec_withPair ps c v), exec_pure]

theorem exec_otherwise (opens : Answers scope s chain (.caseChain (.pairs ps)))
    (answers : Answers scope s value v) :
    exec (eval scope (.method .otherwise "else_" chain [value] [])) s =
      exec (do return .expression (← finishedArray (caseParts (Form.inTurn ps)) v)) s := by
  refine (exec_method opens (.cons answers .nil) (by decide) rfl rfl).trans ?_
  change exec (caseChainOf (.pairs ps) >>= _) s = _
  rw [exec_bind_of_ok (exec_caseChainOf ps), caseArray_eq]
  simp only [followedBy_eq, finishedArray, bind_assoc]

theorem otherwise (opens : Answers scope s chain (.caseChain (.pairs ps)))
    (answers : Answers scope s value v)
    (plain : (CaseChain.otherwise ⟨ps⟩ v).forged.isPlain = true) :
    Answers scope s (.method .otherwise "else_" chain [value] [])
      (CaseChain.otherwise ⟨ps⟩ v).toValue := by
  have array : (CaseChain.otherwise ⟨ps⟩ v).forged = .list
      ((caseParts (Form.inTurn ps)).map ArrayPart.written ++ [v.asOperand]) := by
    rw [CaseChain.otherwise, Expression.followedBy, forged_buildCase]
    rfl
  have structural := Value.isStructural_of_isPlain plain
  rw [array] at structural
  refine (exec_otherwise opens answers).trans ?_
  rw [exec_bind_of_ok (exec_finishedArray_of_isStructural structural s), Expression.toValue, array]
  rfl

theorem exec_buildCase (opens : Answers scope s chain (.caseChain (.pairs ps))) :
    exec (eval scope (.method .build "build" chain [] [])) s =
      exec (do return .expression (← arrayOf (caseParts (Form.inTurn ps)))) s := by
  refine (exec_method opens .nil (by decide) rfl rfl).trans ?_
  change exec (caseChainOf (.pairs ps) >>= _) s = _
  rw [exec_bind_of_ok (exec_caseChainOf ps), caseArray_eq]

theorem buildCase (opens : Answers scope s chain (.caseChain (.pairs ps)))
    (plain : (CaseChain.build ⟨ps⟩).forged.isPlain = true) :
    Answers scope s (.method .build "build" chain [] []) (CaseChain.build ⟨ps⟩).toValue := by
  have structural := Value.isStructural_of_isPlain plain
  rw [forged_buildCase] at structural
  refine (exec_buildCase opens).trans ?_
  rw [exec_bind_of_ok (exec_arrayOf_of_isStructural structural s), Expression.toValue,
    forged_buildCase]
  rfl

/-! ## Match chains -/

theorem branch (opens : Answers scope s chain (.matchChain subject (.pairs ps)))
    (answersKey : Answers scope s key k) (answers : Answers scope s value v) :
    Answers scope s (.method .branch "branch" chain [key, value] [])
      (.matchChain subject (.pairs (ps ++ [(MatchKey.normalize k, v)]))) := by
  refine (exec_method opens (.cons answersKey (.cons answers .nil)) (by decide) rfl rfl).trans ?_
  change exec (Method.withPair (.pairs ps) (MatchKey.normalize k) v >>= _) s = _
  rw [exec_bind_of_ok (exec_withPair ps _ v), exec_pure]

/-- All branches of a table go behind those that are there. -/
theorem branches (opens : Answers scope s chain (.matchChain subject (.pairs ps)))
    (answers : AnswersTable scope s table es) :
    Answers scope s (.method .branches "branches" chain [table] [])
      (.matchEnding subject (.pairs (ps ++ Form.normalized es))) := by
  obtain ⟨t, answers, holds⟩ := answers
  refine (exec_method opens (.cons answers .nil) (by decide) rfl rfl).trans ?_
  change exec (Act.entriesOf t >>= _) s = _
  rw [exec_bind_of_ok (exec_entriesOf holds)]
  change exec (Act.itemsOf (.pairs ps) >>= _) s = _
  rw [Value.pairs, exec_bind_of_ok (exec_itemsOf_tuple _), exec_pure, Value.pairs, List.map_append,
    Form.normalized, List.map_map]
  rfl

/-- An expression of a match that is known by what it holds is made as it is. -/
theorem exec_finishedMatch
    (structural : (MatchChain.fallback ⟨subject, ps⟩ v).forged.isStructural = true) :
    exec (do return .expression (← finishedArray (matchParts subject ps []) v)) s =
      (.ok (MatchChain.fallback ⟨subject, ps⟩ v).toValue, s) := by
  rw [forged_fallback] at structural
  rw [exec_bind_of_ok (exec_finishedArray_of_isStructural structural s), Expression.toValue,
    forged_fallback]
  rfl

theorem exec_fallback (opens : Answers scope s chain (.matchChain subject (.pairs ps)))
    (answers : Answers scope s value v) :
    exec (eval scope (.method .fallback "fallback" chain [value] [])) s =
      exec (do return .expression (← finishedArray (matchParts subject ps []) v)) s := by
  refine (exec_method opens (.cons answers .nil) (by decide) rfl rfl).trans ?_
  change exec (matchChainOf subject (.pairs ps) >>= _) s = _
  rw [exec_bind_of_ok (exec_matchChainOf subject ps), matchArray_eq]
  simp only [followedBy_eq, finishedArray, bind_assoc]

theorem fallback (opens : Answers scope s chain (.matchChain subject (.pairs ps)))
    (answers : Answers scope s value v)
    (plain : (MatchChain.fallback ⟨subject, ps⟩ v).forged.isPlain = true) :
    Answers scope s (.method .fallback "fallback" chain [value] [])
      (MatchChain.fallback ⟨subject, ps⟩ v).toValue :=
  (exec_fallback opens answers).trans (exec_finishedMatch (Value.isStructural_of_isPlain plain))

/-- After a table, only the fallback is missing. -/
theorem exec_closingFallback (closes : Answers scope s chain (.matchEnding subject (.pairs ps)))
    (answers : Answers scope s value v) :
    exec (eval scope (.method .fallback "fallback" chain [value] [])) s =
      exec (do return .expression (← finishedArray (matchParts subject ps []) v)) s := by
  refine (exec_method closes (.cons answers .nil) (by decide) rfl rfl).trans ?_
  change exec (matchChainOf subject (.pairs ps) >>= _) s = _
  rw [exec_bind_of_ok (exec_matchChainOf subject ps), matchArray_eq]
  simp only [followedBy_eq, finishedArray, bind_assoc]

theorem closingFallback (closes : Answers scope s chain (.matchEnding subject (.pairs ps)))
    (answers : Answers scope s value v)
    (plain : (MatchChain.fallback ⟨subject, ps⟩ v).forged.isPlain = true) :
    Answers scope s (.method .fallback "fallback" chain [value] [])
      (MatchChain.fallback ⟨subject, ps⟩ v).toValue :=
  (exec_closingFallback closes answers).trans (exec_finishedMatch (Value.isStructural_of_isPlain plain))

theorem exec_buildMatch (opens : Answers scope s chain (.matchChain subject (.pairs ps))) :
    exec (eval scope (.method .build "build" chain [] [])) s =
      exec (do return .expression (← arrayOf (matchParts subject ps []))) s := by
  refine (exec_method opens .nil (by decide) rfl rfl).trans ?_
  change exec (matchChainOf subject (.pairs ps) >>= _) s = _
  rw [exec_bind_of_ok (exec_matchChainOf subject ps), matchArray_eq]

theorem buildMatch (opens : Answers scope s chain (.matchChain subject (.pairs ps)))
    (plain : (MatchChain.build ⟨subject, ps⟩).forged.isPlain = true) :
    Answers scope s (.method .build "build" chain [] [])
      (MatchChain.build ⟨subject, ps⟩).toValue := by
  have structural := Value.isStructural_of_isPlain plain
  rw [forged_buildMatch] at structural
  refine (exec_buildMatch opens).trans ?_
  rw [exec_bind_of_ok (exec_arrayOf_of_isStructural structural s), Expression.toValue,
    forged_buildMatch]
  rfl

/-! ## Let chains -/

/-- A let starts with its bindings. -/
theorem letStart (answers : Answers scope s bindings t) :
    Answers scope s (.call .letIn [bindings] []) (.letChain t) :=
  (exec_call .letIn [] (.cons answers .nil) .nil rfl).trans rfl

theorem exec_inside (opens : Answers scope s chain (.letChain t))
    (holds : (s.layers.view t).entries? = some es) (answers : Answers scope s body v) :
    exec (eval scope (.method .inside "in_" chain [body] [])) s =
      exec (makeExpression (LetChain.body ⟨es⟩ v)) s := by
  refine (exec_method opens (.cons answers .nil) (by decide) rfl rfl).trans ?_
  change exec (Act.entriesOf t >>= _) s = _
  rw [exec_bind_of_ok (exec_entriesOf holds)]

theorem inside (opens : Answers scope s chain (.letChain (.map es)))
    (answers : Answers scope s body v)
    (plain : (LetChain.body ⟨es⟩ v).forged.isPlain = true) :
    Answers scope s (.method .inside "in_" chain [body] []) (LetChain.body ⟨es⟩ v).toValue :=
  (exec_inside opens rfl answers).trans (exec_makeExpression plain s)

/-! ## Forging -/

/-- A term that answers what has a `forge` is forged. -/
theorem exec_forge {term : Term} (answers : Answers scope s term v)
    (has : Method.arity? .forge v = some (.exactly 0)) :
    exec (eval scope (CallTree.forgeTerm term)) s = exec (Act.forge v) s := by
  refine (exec_method answers .nil (by decide) has rfl).trans ?_
  unfold Method.run
  rfl

theorem forged {term : Term} (answers : Answers scope s term v)
    (has : Method.arity? .forge v = some (.exactly 0)) (array : Value)
    (forges : exec (Act.forge v) s = (.ok array, s)) :
    Answers scope s (CallTree.forgeTerm term) array :=
  (exec_forge answers has).trans forges

/-- Of a forged term, making an object that has a `forge` and forging it are left. -/
theorem exec_forgeTerm {term : Term} {act : Act Value}
    (makes : exec (eval scope term) s = exec act s)
    (has : ∀ v s', exec act s = (.ok v, s') → Method.arity? .forge v = some (.exactly 0)) :
    exec (eval scope (CallTree.forgeTerm term)) s = exec (act >>= Act.forge) s := by
  rw [CallTree.forgeTerm, eval, exec_bind, makes, exec_bind]
  cases made : exec act s with
  | mk answer s' =>
      cases answer with
      | error fault => rfl
      | ok v =>
          dsimp only
          rw [has v s' made]
          dsimp only
          rw [exec_bind_of_ok (exec_evalArguments_nil scope s'),
            exec_bind_of_ok (exec_evalNamed_nil scope s')]
          exact (exec_runMethod (by decide) v ⟨[], []⟩).trans rfl

end Answers

/-! ## Lets with a callback -/

/-- A let with a callback, whatever the callback does in the scope that it is given. -/
def letWith (v : Value) (run : Entries → Act Value) : Act Value :=
  Function.run .letIn ⟨[some (.value v), some (.callback run)], []⟩

/-- The term of a let with a callback. -/
def letCallback (bindings body : Term) : Term := .call .letIn [bindings, .callback body] []

section Callbacks

variable {scope : Entries} {s s' : Session} {v : Value} {es : Entries} {run : Entries → Act Value}

/-- The callback is run once, in the scope of the bindings.  What it ends in is passed on, what is
no further bindings is refused, and with further bindings the let is made from the bindings as they
are then. -/
theorem exec_letWith (holds : (s.layers.view v).entries? = some es) :
    exec (letWith v run) s =
      match exec (run es) s with
      | (.error fault, s') => (.error fault, s')
      | (.ok (.varBindings further), s') =>
        exec (do makeExpression (LetChain.extend ⟨← entriesOf v⟩ ⟨further⟩)) s'
      | (.ok other, s') => (.error (.notBindings other.kindName), s') := by
  change exec (mapOf v >>= _) s = _
  rw [exec_bind_of_ok (exec_mapOf holds)]
  change exec (run es >>= _) s = _
  rw [exec_bind]
  rcases exec (run es) s with ⟨fault | a, s'⟩
  · rfl
  · cases a <;> rfl

/-- With further bindings, the let is made of the bindings that are there after the callback. -/
theorem exec_letWith_of_bindings {es' further : Entries}
    (holds : (s.layers.view v).entries? = some es)
    (answers : exec (run es) s = (.ok (.varBindings further), s'))
    (holds' : (s'.layers.view v).entries? = some es') :
    exec (letWith v run) s = exec (makeExpression (LetChain.extend ⟨es'⟩ ⟨further⟩)) s' := by
  rw [exec_letWith holds, answers]
  change exec (entriesOf v >>= _) s' = _
  rw [exec_bind_of_ok (exec_entriesOf holds')]

/-- If a let with a callback answers, it answers an expression. -/
theorem exists_expression_of_letWith (holds : (s.layers.view v).entries? = some es) {a : Value}
    (answers : exec (letWith v run) s = (.ok a, s')) : ∃ array, a = .expression array := by
  rw [exec_letWith holds] at answers
  split at answers
  · cases answers
  · next further s₁ _ =>
      obtain ⟨_, _, -, made⟩ := bind_eq_ok.mp answers
      obtain ⟨array, _, -, rest⟩ := bind_eq_ok.mp made
      cases rest
      exact ⟨array, rfl⟩
  · cases answers

/-- The term of a let with a callback evaluates its body as the callback. -/
theorem exec_letCallback {bindings body : Term} (answers : Answers scope s bindings v) :
    exec (eval scope (letCallback bindings body)) s =
      exec (letWith v fun inner => eval inner body) s := by
  have args : exec (evalArguments scope [bindings, .callback body]) s =
      (.ok [.value v, .callback fun inner => eval inner body], s) := by
    rw [evalArguments, exec_bind_of_ok answers]
    · rfl
    · rintro body rfl
      exact Answers.not_callback answers
  rw [letCallback, eval, exec_bind_of_ok args, exec_bind_of_ok (exec_evalNamed_nil scope s)]
  rfl

end Callbacks

end MapStyle.Script
