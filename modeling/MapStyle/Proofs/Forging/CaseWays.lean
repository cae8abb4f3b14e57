import MapStyle.Proofs.Forging.MatchWays
import MapStyle.Proofs.Forging.StaticForms
import MapStyle.Proofs.Script.Shown

/-!
# Ways to write a case

A case is written as a chain of conditions with their results, or as one call with all of them in
turn. A chain that is left open can be extended in many ways; it is a value like any other, so none
of them knows of the others.

* `CaseEnd` is how a chain ends, and `Extension` what is added to it before that.
* `CaseEnd.answersShown` says what a chain with an end shows, by the values of its operands alone.
* `forall₂_reports` takes that to any number of extensions of one chain in a program.
* `SameCase` compares a chain and a call, and `case_chain_eq_case` is the comparison.
-/

namespace MapStyle

namespace Script

open Act

/-! ## Arrays of cases -/

theorem Form.length_inTurn (es : List (Value × Value)) : (inTurn es).length = 2 * es.length :=
  length_flatMap_pair Prod.fst Prod.snd es

theorem isStructural_caseOf {vs : List Value} (each : ∀ v ∈ vs, v.isStructural = true) :
    (Style.caseOf vs).forged.isStructural = true :=
  ExpressionMethod.isStructural_ofOperator each

/-- The array of a case shows the array of what its operands show. -/
theorem shows_caseOf {store : LayerStore} {vs : List Value}
    (each : ∀ v ∈ vs, store.Shows v (store.resolve v)) :
    store.Shows (Style.caseOf vs).forged (Style.caseOf (vs.map store.resolve)).forged := by
  have tag : store.Shows (.str "case") (.str "case") := .of_isStructural store rfl
  have operands : ∀ p ∈ Value.str "case" :: vs.map Value.asOperand,
      store.Shows p (store.resolve p) :=
    List.forall_mem_cons.mpr ⟨tag.self,
      List.forall_mem_map.mpr fun v member => (each v member).asOperand.self⟩
  have shown := LayerStore.Shows.list operands
  have parts : (vs.map Value.asOperand).map store.resolve =
      (vs.map store.resolve).map Value.asOperand := by
    rw [List.map_map, List.map_map]
    exact List.map_congr_left fun v member => (each v member).asOperand.resolves
  rw [List.map_cons, tag.resolves, parts] at shown
  exact shown

/-- What is written for the parts of a case is the array of the direct form. -/
theorem written_caseParts (vs : List Value) :
    .list ((caseParts vs).map ArrayPart.written) = (Style.caseOf vs).forged := by
  rw [caseParts, List.map_cons, List.map_map]
  rfl

/-- What the parts of a case show is the array of what the operands show. -/
theorem shown_caseParts (store : LayerStore) (vs : List Value) :
    .list ((caseParts vs).map (ArrayPart.shown store)) =
      (Style.caseOf (vs.map store.resolve)).forged := by
  have tag : store.resolve (.str "case") = .str "case" :=
    (LayerStore.Shows.of_isStructural store rfl).resolves
  have operand : ArrayPart.shown store ∘ .operand = Value.asOperand ∘ store.resolve := by
    funext v
    rw [Function.comp_apply, ArrayPart.shown, Function.comp_apply]
    cases store.resolve v <;> rfl
  rw [caseParts, List.map_cons, List.map_map, operand, Style.caseOf, Expression.ofOperator,
    List.map_map, ArrayPart.shown, tag]
  rfl

theorem caseParts_concat (vs : List Value) (d : Value) :
    caseParts vs ++ [.operand d] = caseParts (vs ++ [d]) := by
  rw [caseParts, caseParts, List.map_append, List.cons_append]
  rfl

/-! ## Writing a case -/

/-- How a chain ends: it stays open, it is built or forged without a default, or it is given one. -/
inductive CaseEnd (α : Type) where
  | unfinished | built | forged
  | otherwise (last : α)

/-- The ends of two chains are of one kind, and a default is related to a default. -/
inductive CaseEnd.Rel {α β : Type} (R : α → β → Prop) : CaseEnd α → CaseEnd β → Prop
  | unfinished : Rel R .unfinished .unfinished
  | built : Rel R .built .built
  | forged : Rel R .forged .forged
  | otherwise {a : α} {b : β} (related : R a b) : Rel R (.otherwise a) (.otherwise b)

theorem CaseEnd.Rel.imp {α β : Type} {R S : α → β → Prop} {ending : CaseEnd α} {last : CaseEnd β}
    (ends : Rel R ending last) (weaker : ∀ a b, R a b → S a b) : Rel S ending last := by
  cases ends with
  | unfinished => exact .unfinished
  | built => exact .built
  | forged => exact .forged
  | otherwise related => exact .otherwise (weaker _ _ related)

/-- A chain with an end. -/
def CaseEnd.term (chain : Term) : CaseEnd Term → Term
  | .unfinished => chain
  | .built => .method .build "build" chain [] []
  | .forged => CallTree.forgeTerm chain
  | .otherwise last => .method .otherwise "else_" chain [last] []

/-- What a chain with an end comes to, before anything is copied. -/
def CaseEnd.value (ps : List (Value × Value)) : CaseEnd Value → Value
  | .unfinished => .caseChain (.pairs ps)
  | .built => (Style.caseOf (Form.inTurn ps)).toValue
  | .forged => (Style.caseOf (Form.inTurn ps)).forged
  | .otherwise d => (Style.caseOf (Form.inTurn ps ++ [d])).toValue

/-- The default that an end gives, if it gives one. -/
def CaseEnd.operands {α : Type} : CaseEnd α → List α
  | .unfinished | .built | .forged => []
  | .otherwise last => [last]

/-- Conditions with their results, added to a chain. -/
def caseLinks (chain : Term) (pairs : List (Term × Term)) : Term :=
  pairs.foldl (fun chain pair =>
    .method .result "then" (.method .when "when" chain [pair.1] []) [pair.2] []) chain

/-- The chain of conditions with their results: it is started by the first of them, or it is the one
without any. -/
def caseChain : List (Term × Term) → Term
  | [] => .call (.construct .caseChain) [] []
  | pair :: pairs => caseLinks
    (.method .result "then" (.call (.construct .when) [pair.1] []) [pair.2] []) pairs

/-- The call with conditions and results in turn. -/
def caseCall (operands : List Term) : Term := .call (.style .caseOf) operands []

/-- The terms of conditions and results in turn. -/
def caseTerms (pairs : List (Term × Term)) : List Term := pairs.flatMap fun pair => [pair.1, pair.2]

section Steps

variable {scope : Entries} {s : Session} {chain last : Term} {pairs : List (Term × Term)}
  {ps es : List (Value × Value)} {d : Value}

theorem AnswersEntries.inTurn (each : AnswersEntries scope s pairs es) :
    List.Forall₂ (Answers scope s) (caseTerms pairs) (Form.inTurn es) := by
  induction each with
  | nil => exact .nil
  | cons both _ ih => exact .cons both.1 (.cons both.2 ih)

/-- Each condition with its result goes behind those that are there. -/
theorem answers_caseLinks (opens : Answers scope s chain (.caseChain (.pairs ps)))
    (each : AnswersEntries scope s pairs es) :
    Answers scope s (caseLinks chain pairs) (.caseChain (.pairs (ps ++ es))) := by
  induction each generalizing chain ps with
  | nil =>
      rw [List.append_nil]
      exact opens
  | cons both _ ih =>
      rw [List.append_cons]
      exact ih (Answers.caseStep opens both.1 both.2)

theorem answers_caseChain (each : AnswersEntries scope s pairs es) :
    Answers scope s (caseChain pairs) (.caseChain (.pairs es)) := by
  cases each with
  | nil => exact (Answers.exec_call (.construct .caseChain) [] .nil .nil rfl).trans rfl
  | @cons pair e pairs es both each =>
      have starts : Answers scope s (.call (.construct .when) [pair.1] [])
          (.pendingCase (.pairs []) e.1) :=
        (Answers.exec_call (.construct .when) [] (.cons both.1 .nil) .nil rfl).trans rfl
      exact answers_caseLinks (Answers.result starts both.2) each

/-- The call takes the present records of its operands. -/
theorem exec_caseCall {terms : List Term} {vs : List Value}
    (each : List.Forall₂ (Answers scope s) terms vs) :
    exec (eval scope (caseCall terms)) s =
      exec (makeExpression (Style.caseOf (vs.map s.layers.view))) s := by
  have binds : StyleFunction.caseOf.arity.bind vs [] = some ⟨[], vs⟩ := rfl
  refine (Answers.exec_call (.style .caseOf) [] each .nil binds).trans ?_
  rw [exec_run_style]
  rfl

end Steps

/-! ## What is shown -/

/-- A chain that is left open shows what its conditions and results show. -/
theorem shows_pairs {store : LayerStore} {ps : List (Value × Value)}
    (each : ∀ v ∈ Form.inTurn ps, store.Shows v (store.resolve v)) :
    store.Shows (.caseChain (.pairs ps)) (store.resolve (.caseChain (.pairs ps))) := by
  refine .of_children rfl rfl (List.forall_mem_singleton.mpr (.of_children rfl rfl ?_))
  refine List.forall_mem_map.mpr fun p member => .of_children rfl rfl fun v part => each v ?_
  exact List.mem_flatMap.mpr ⟨p, member, part⟩

/-- What a chain with an end comes to shows what its own conditions, results and default show. -/
theorem CaseEnd.shows_value {store : LayerStore} {ps : List (Value × Value)} {last : CaseEnd Value}
    (each : ∀ v ∈ Form.inTurn ps ++ last.operands, store.Shows v (store.resolve v)) :
    store.Shows (last.value ps) (store.resolve (last.value ps)) := by
  cases last with
  | unfinished =>
      rw [CaseEnd.operands, List.append_nil] at each
      exact shows_pairs each
  | built =>
      rw [CaseEnd.operands, List.append_nil] at each
      exact (shows_caseOf each).expression.self
  | forged =>
      rw [CaseEnd.operands, List.append_nil] at each
      exact (shows_caseOf each).self
  | otherwise d => exact (shows_caseOf each).expression.self

/-- The array of a case shows the case of what the operands show. -/
theorem Assembles.exists_case {s : Session} {vs : List Value}
    {outcome : Except Fault Value × Session} (assembles : Assembles s (caseParts vs) outcome)
    (each : ∀ v ∈ vs, s.layers.Shows v (s.layers.resolve v)) :
    ∃ array s', outcome = (.ok array, s') ∧
      s'.layers.Shows array (Style.caseOf (vs.map s.layers.resolve)).forged ∧ s.Extends s' := by
  have tag : s.layers.Shows (.str "case") (s.layers.resolve (.str "case")) :=
    (LayerStore.Shows.of_isStructural _ rfl).self
  have shown := assembles.shown (forall_caseParts tag each)
  rwa [shown_caseParts] at shown

/-- So does an expression with this array. -/
theorem AnswersShown.of_case {scope : Entries} {s : Session} {term : Term} {vs : List Value}
    {act : Act Value} (makes : exec (eval scope term) s = exec (do return .expression (← act)) s)
    (assembles : Assembles s (caseParts vs) (exec act s))
    (each : ∀ v ∈ vs, s.layers.Shows v (s.layers.resolve v)) :
    AnswersShown scope s term (Style.caseOf (vs.map s.layers.resolve)).toValue := by
  obtain ⟨array, s', answers, shown, later⟩ := assembles.exists_case each
  refine ⟨.expression array, s', makes.trans ?_, shown.expression, later⟩
  rw [exec_bind_of_ok answers, exec_pure]

section Chained

variable {scope : Entries} {s : Session} {chain last : Term} {ps : List (Value × Value)} {d : Value}

theorem assembles_otherwise (s : Session) (ps : List (Value × Value)) (d : Value) :
    Assembles s (caseParts (Form.inTurn ps ++ [d]))
      (exec (finishedArray (caseParts (Form.inTurn ps)) d) s) := by
  rw [← caseParts_concat]
  exact .finished s _ d

/-- A chain forges to the array of its operands. -/
theorem assembles_forged (opens : Answers scope s chain (.caseChain (.pairs ps))) :
    Assembles s (caseParts (Form.inTurn ps)) (exec (eval scope (CaseEnd.term chain .forged)) s) := by
  rw [CaseEnd.term, Answers.exec_forge opens rfl, exec_forge_caseChain]
  exact (Assembles.of_parts s _).copied

end Chained

/-- A chain with an end has a value that shows the same. -/
theorem CaseEnd.answersShown {scope : Entries} {s : Session} {chain : Term}
    {ps : List (Value × Value)} {ending : CaseEnd Term} {last : CaseEnd Value}
    (opens : Answers scope s chain (.caseChain (.pairs ps)))
    (ends : CaseEnd.Rel (Answers scope s) ending last)
    (each : ∀ v ∈ Form.inTurn ps ++ last.operands, s.layers.Shows v (s.layers.resolve v)) :
    AnswersShown scope s (ending.term chain) (s.layers.resolve (last.value ps)) := by
  cases ends with
  | unfinished => exact ⟨_, s, opens, CaseEnd.shows_value each, .refl s⟩
  | built =>
      rw [CaseEnd.operands, List.append_nil] at each
      rw [CaseEnd.value, Expression.toValue, (shows_caseOf each).expression.resolves]
      exact .of_case (Answers.exec_buildCase opens) (.of_parts s _) each
  | forged =>
      rw [CaseEnd.operands, List.append_nil] at each
      rw [CaseEnd.value, (shows_caseOf each).resolves]
      exact (assembles_forged opens).exists_case each
  | otherwise answers =>
      rw [CaseEnd.operands] at each
      rw [CaseEnd.value, Expression.toValue, (shows_caseOf each).expression.resolves]
      exact .of_case (Answers.exec_otherwise opens answers) (assembles_otherwise s ps _) each

/-! ## Extensions of one chain -/

/-- What is added to a chain: conditions with their results, and an end. -/
structure Extension (α : Type) where
  pairs : List (α × α)
  ending : CaseEnd α

/-- The step of a program that extends the chain in a slot. -/
def Extension.step (slot : Nat) (e : Extension Term) : Step :=
  .compute (e.ending.term (caseLinks (.slot slot) e.pairs))

/-- What a chain that is extended comes to. -/
def Extension.value (ps : List (Value × Value)) (o : Extension Value) : Value :=
  o.ending.value (ps ++ o.pairs)

/-- The terms of an extension have these values, and of each of them something is shown. -/
structure Extension.IsSettled (s : Session) (e : Extension Term) (o : Extension Value) : Prop where
  pairs : List.Forall₂ (fun term pair => Settled s term.1 pair.1 ∧ Settled s term.2 pair.2)
    e.pairs o.pairs
  ending : CaseEnd.Rel (Settled s) e.ending o.ending
  shown : ∀ v ∈ Form.inTurn o.pairs ++ o.ending.operands, s.layers.Shows v (s.layers.resolve v)

section Extensions

variable {s s' : Session} {slot : Nat} {ps : List (Value × Value)}

/-- A step that extends the chain in a slot reports what its own extension comes to, and leaves all
that was there before as it was. -/
theorem Extension.IsSettled.exists_report {e : Extension Term} {o : Extension Value}
    (later : s.Extends s') (holds : s.slots[slot]? = some (.caseChain (.pairs ps)))
    (shownPartial : ∀ v ∈ Form.inTurn ps, s.layers.Shows v (s.layers.resolve v))
    (settled : e.IsSettled s o) :
    (∃ v, ((e.step slot).run s').1.result = .ok v ∧
      ((e.step slot).run s').1.layers.Shows v (s.layers.resolve (o.value ps))) ∧
    s.Extends ((e.step slot).run s').2 := by
  have before : s.Extends s'.beforeStep := ⟨later.slots, later.layers⟩
  have opens : Answers [] s'.beforeStep (.slot slot) (.caseChain (.pairs ps)) :=
    before.slot holds ▸ Answers.slot slot
  have each : AnswersEntries [] s'.beforeStep e.pairs o.pairs :=
    settled.pairs.imp fun _ _ both => ⟨both.1 _ before, both.2 _ before⟩
  have shown : ∀ v ∈ Form.inTurn (ps ++ o.pairs) ++ o.ending.operands,
      s.layers.Shows v (s.layers.resolve v) := by
    rw [Form.inTurn, List.flatMap_append, List.append_assoc]
    exact List.forall_mem_append.mpr ⟨shownPartial, settled.shown⟩
  have ends : CaseEnd.Rel (Answers [] s'.beforeStep) e.ending o.ending :=
    settled.ending.imp fun _ _ settles => settles _ before
  obtain ⟨v, s'', answers, shows, grows⟩ := CaseEnd.answersShown (answers_caseLinks opens each) ends
    fun v member => (before.shows (shown v member)).self
  rw [(before.shows (CaseEnd.shows_value shown)).resolves] at shows
  rw [Extension.step, run_compute answers]
  exact ⟨⟨v, rfl, shows⟩, (before.trans grows).trans ⟨List.prefix_append _ _, List.prefix_refl _⟩⟩

/-- However often one chain is extended in a program, each extension reports what it comes to by its
own conditions, results and default behind those of the chain, whatever the others are. -/
theorem forall₂_reports {extensions : List (Extension Term)} {operands : List (Extension Value)}
    (later : s.Extends s') (holds : s.slots[slot]? = some (.caseChain (.pairs ps)))
    (shownPartial : ∀ v ∈ Form.inTurn ps, s.layers.Shows v (s.layers.resolve v))
    (settled : List.Forall₂ (Extension.IsSettled s) extensions operands) :
    List.Forall₂ (fun report o => ∃ v, StepReport.result report = .ok v ∧
        report.layers.Shows v (s.layers.resolve (Extension.value ps o)))
      (Program.run (extensions.map (Extension.step slot)) s') operands := by
  induction settled generalizing s' with
  | nil => exact .nil
  | cons first _ ih =>
      obtain ⟨reports, grows⟩ := first.exists_report later holds shownPartial
      exact .cons reports (ih grows)

end Extensions

/-! ## Both ways -/

/-- A chain with an end and a call come to one case of some operands. -/
structure SameCase (scope : Entries) (s : Session) (chained called : Term) (vs : List Value) : Prop
    where
  /-- The chain makes an expression in the array of which the operands stand, forged if they are
  expressions. -/
  assembles : ∃ array : Act Value,
    exec (eval scope chained) s = exec (do return .expression (← array)) s ∧
      Assembles s (caseParts vs) (exec array s)
  /-- If the operands are known by what they hold, the chain and the call have one value and are
  equal. -/
  alike : (∀ v ∈ vs, v.isStructural = true) → Alike scope s chained called (Style.caseOf vs).toValue
  /-- Whatever the operands show, both show the case of that. -/
  shown : (∀ v ∈ vs, s.layers.Shows v (s.layers.resolve v)) →
    ∀ term ∈ [chained, called],
      AnswersShown scope s term (Style.caseOf (vs.map s.layers.resolve)).toValue
  length : ∀ term ∈ [chained, called], ∀ v s', exec (eval scope term) s = (.ok v, s') →
    ∃ items, v = .expression (.list items) ∧ items.length = vs.length + 1

theorem length_caseParts (vs : List Value) : (caseParts vs).length = vs.length + 1 := by
  rw [caseParts, List.length_cons, List.length_map]

/-- The call makes an expression of the array of what its operands are seen as. -/
theorem exists_items_of_caseCall {s s' : Session} {vs : List Value} {v : Value}
    (makes : exec (makeExpression (Style.caseOf vs)) s = (.ok v, s')) :
    ∃ items, v = .expression (.list items) ∧ items.length = vs.length + 1 := by
  obtain ⟨c, s₁, copies, wraps⟩ := bind_eq_ok.mp makes
  cases wraps
  rw [← written_caseParts] at copies
  obtain ⟨items, rfl, copied⟩ := (isCopyOf_of_copy copies).items
  refine ⟨items, rfl, ?_⟩
  rw [← copied.length_eq, List.length_map, length_caseParts]

/-- The chain puts its array together from its operands, the call from what they are seen as. -/
theorem SameCase.of_exec {scope : Entries} {s : Session} {chained called : Term} {vs : List Value}
    {array : Act Value}
    (makes : exec (eval scope chained) s = exec (do return .expression (← array)) s)
    (assembles : Assembles s (caseParts vs) (exec array s))
    (calls : exec (eval scope called) s =
      exec (makeExpression (Style.caseOf (vs.map s.layers.view))) s) :
    SameCase scope s chained called vs := by
  refine ⟨⟨array, makes, assembles⟩, fun structural => ?_, fun shows => ?_, ?_⟩
  · have unseen : vs.map s.layers.view = vs := (List.map_congr_left fun v member =>
      s.layers.view_of_isStructural (structural v member)).trans (List.map_id' vs)
    have answersCall : Answers scope s called (Style.caseOf vs).toValue := by
      rw [unseen] at calls
      exact calls.trans (exec_makeExpression_of_isStructural (isStructural_caseOf structural) s)
    have answersChain : Answers scope s chained (Style.caseOf vs).toValue := by
      have answered := assembles.outcome_eq
        (forall_caseParts (motive := fun v => v.isStructural = true) rfl structural)
      rw [written_caseParts] at answered
      refine makes.trans ?_
      rw [exec_bind_of_ok answered, exec_pure]
      rfl
    exact ⟨answersChain, answersCall, exec_equal answersChain answersCall rfl⟩
  · have viewed : ∀ v ∈ vs.map s.layers.view, s.layers.Shows v (s.layers.resolve v) :=
      List.forall_mem_map.mpr fun v member => (shows v member).view.self
    have resolved : (vs.map s.layers.view).map s.layers.resolve = vs.map s.layers.resolve := by
      rw [List.map_map]
      exact List.map_congr_left fun v member => (shows v member).view.resolves
    have call := AnswersShown.of_makeExpression calls (shows_caseOf viewed).expression
    rw [resolved] at call
    exact List.forall_mem_cons.mpr ⟨.of_case makes assembles shows,
      List.forall_mem_singleton.mpr call⟩
  · refine List.forall_mem_cons.mpr ⟨fun v s' answers => ?_,
      List.forall_mem_singleton.mpr fun v s' answers => ?_⟩
    · obtain ⟨c, s₁, answered, wraps⟩ := bind_eq_ok.mp (makes.symm.trans answers)
      cases wraps
      obtain ⟨items, rfl, stand⟩ := assembles.items answered
      exact ⟨items, rfl, stand.length_eq.symm.trans (length_caseParts vs)⟩
    · have found := exists_items_of_caseCall (calls.symm.trans answers)
      rwa [List.length_map] at found

/-- A case is the same as a chain and as a call, with a default and without, although the chain is
built and forged before a default is put behind it.  The array has one item more than there are
operands, of which a condition and its result are two.  A chain forges to the array without a
default.  And a chain that is left open in a slot can be extended again and again: each step reports
what comes of the conditions and results of the chain with those that it adds itself, and with its
own default. -/
theorem case_chain_eq_case {scope : Entries} {s : Session} {pairs : List (Term × Term)}
    {es : List (Value × Value)} (each : AnswersEntries scope s pairs es) {last : Term} {d : Value}
    (answers : Answers scope s last d) :
    let chain := caseChain pairs
    let operands := Form.inTurn es
    operands.length = 2 * pairs.length ∧
    SameCase scope s (CaseEnd.term chain (.otherwise last)) (caseCall (caseTerms pairs ++ [last]))
      (operands ++ [d]) ∧
    SameCase scope s (CaseEnd.term chain .built) (caseCall (caseTerms pairs)) operands ∧
    Assembles s (caseParts operands) (exec (eval scope (CallTree.forgeTerm chain)) s) ∧
    ((∀ v ∈ operands, v.isStructural = true) →
      Answers scope s (CallTree.forgeTerm chain) (Style.caseOf operands).forged) ∧
    ((∀ v ∈ operands, s.layers.Shows v (s.layers.resolve v)) →
      AnswersShown scope s (CallTree.forgeTerm chain)
        (Style.caseOf (operands.map s.layers.resolve)).forged) ∧
    ∀ {slot : Nat} {extensions : List (Extension Term)} {added : List (Extension Value)},
      s.slots[slot]? = some (.caseChain (.pairs es)) →
      (∀ v ∈ operands, s.layers.Shows v (s.layers.resolve v)) →
      List.Forall₂ (Extension.IsSettled s) extensions added →
      List.Forall₂ (fun report o => ∃ v, StepReport.result report = .ok v ∧
          report.layers.Shows v (s.layers.resolve (Extension.value es o)))
        (Program.run (extensions.map (Extension.step slot)) s) added := by
  intro chain operands
  have opens : Answers scope s chain (.caseChain (.pairs es)) := answers_caseChain each
  have terms := each.inTurn
  have length : operands.length = 2 * pairs.length :=
    (Form.length_inTurn es).trans (congrArg (2 * ·) each.length_eq.symm)
  have forged := assembles_forged opens
  refine ⟨length, ?_, ?_, forged, fun structural => ?_, fun shows => ?_,
    fun holds shows settled => ?_⟩
  · exact .of_exec (Answers.exec_otherwise opens answers) (assembles_otherwise s es d)
      (exec_caseCall (List.rel_append terms (.cons answers .nil)))
  · exact .of_exec (Answers.exec_buildCase opens) (.of_parts s _) (exec_caseCall terms)
  · refine (forged.outcome_eq
      (forall_caseParts (motive := fun v => v.isStructural = true) rfl structural)).trans ?_
    rw [written_caseParts]
  · exact forged.exists_case shows
  · exact forall₂_reports (.refl s) holds shows settled

/-- A chain with one condition, and two extensions of it: a default, and another condition with its
result and a default. -/
theorem case_chain_eq_case_extended :
    let hasA := (Style.has (.str "a")).toValue
    let hasB := (Style.has (.str "b")).toValue
    let start := Session.start ⟨"/", fun _ => .ok .empty, 80⟩
    let session := { start with slots := [.caseChain (.pairs [(hasA, .int 1)])] }
    let pairs : List (Term × Term) := [(.constant hasA, .constant (.int 1))]
    let last : CaseEnd Term := .otherwise (.constant (.int 0))
    let extensions : List (Extension Term) := [⟨[], last⟩,
      ⟨[(.constant hasB, .constant (.int 2))], last⟩]
    let first := [.str "case", .list [.str "has", .str "a"], .int 1]
    Answers [] session (.equal (last.term (caseChain pairs))
      (caseCall (caseTerms pairs ++ [.constant (.int 0)]))) (.bool true) ∧
    Answers [] session (CallTree.forgeTerm (caseChain pairs)) (.list first) ∧
    List.Forall₂ (fun report array => ∃ v, StepReport.result report = .ok v ∧
        report.layers.resolve v = .expression (.list array))
      (Program.run (extensions.map (Extension.step 0)) session)
      [first ++ [.int 0], first ++ [.list [.str "has", .str "b"], .int 2, .int 0]] := by
  intro hasA hasB start session pairs last extensions first
  have each : AnswersEntries [] session pairs [(hasA, .int 1)] :=
    .cons ⟨Answers.constant rfl, Answers.constant rfl⟩ .nil
  have structural : ∀ v ∈ Form.inTurn [(hasA, Value.int 1)], v.isStructural = true := by decide
  have shows : ∀ v : Value, v.isStructural = true →
      session.layers.Shows v (session.layers.resolve v) :=
    fun v structural => (LayerStore.Shows.of_isStructural _ structural).self
  let added : List (Extension Value) := [⟨[], .otherwise (.int 0)⟩,
    ⟨[(hasB, .int 2)], .otherwise (.int 0)⟩]
  have settled : List.Forall₂ (Extension.IsSettled session) extensions added := by
    have constant : ∀ {v : Value}, Act.written v = pure v → Settled session (.constant v) v :=
      fun written _ _ => Answers.constant written
    refine .cons ⟨.nil, .otherwise (constant rfl), fun v member => shows v ?_⟩ (.cons
      ⟨.cons ⟨constant rfl, constant rfl⟩ .nil, .otherwise (constant rfl),
        fun v member => shows v ?_⟩ .nil)
    · revert v member
      decide
    · revert v member
      decide
  obtain ⟨-, finished, -, -, forges, -, reports⟩ :=
    case_chain_eq_case each (Answers.constant (v := .int 0) rfl)
  refine ⟨(finished.alike (by decide)).equal, forges structural, ?_⟩
  have opened : session.slots[0]? = some (.caseChain (.pairs [(hasA, .int 1)])) := rfl
  have found := reports opened (fun v member => shows v (structural v member)) settled
  generalize Program.run (extensions.map (Extension.step 0)) session = results at found ⊢
  change List.Forall₂ _ results [_, _] at found
  obtain _ | ⟨⟨v, answers, shown⟩, _ | ⟨⟨v', answers', shown'⟩, _ | _⟩⟩ := found
  exact .cons ⟨v, answers, shown.resolves⟩ (.cons ⟨v', answers', shown'.resolves⟩ .nil)

end Script

end MapStyle
