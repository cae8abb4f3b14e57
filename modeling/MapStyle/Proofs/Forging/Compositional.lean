import MapStyle.Proofs.Forging.Forms

/-!
# Forging is compositional

`CallTree.forge_eq` is the main statement: whatever calls a tree is made of, and whichever of its
nodes are forged where they stand, forging it gives the array that the plain recursion over the bare
tree puts together, and leaves the session as it is.

The induction is on the tree.  `Stands` is what it carries: how the value that a tree answers stands
to the array of the tree, for each kind of tree.
-/

namespace MapStyle.Script

open Act Form

/-- How the value of a tree stands to its array. -/
def Stands (s : Session) (kind : Kind) (v array : Value) : Prop :=
  match kind with
  | .data => v = array ∧ array.isPlain = true
  | .expression => v = .expression array ∧ array.isPlain = true ∧ array.isLed = true
  | .record => v.isSection = true ∧ v.translated = array
  | .chain => Method.arity? .forge v = some (.exactly 0) ∧ exec (Act.forge v) s = (.ok array, s) ∧
      array.isPlain = true

/-- The values that a form takes as operands. -/
def Form.takes (form : Form) (v : Value) : Bool :=
  match form with
  | .style f _ _ => f.takes v
  | _ => v.isOperand

variable {s : Session} {terms : List Term} {vs : List Value}

/-! ## Operands -/

theorem Stands.isOperand {kind : Kind} {v array : Value} (stands : Stands s kind v array)
    (operand : kind = .data ∨ kind = .expression) : v.isOperand = true ∧ v.translated = array := by
  rcases operand with rfl | rfl
  · obtain ⟨rfl, plain⟩ := stands
    exact ⟨Value.isOperand_of_isPlain plain, Value.translated_of_isPlain plain⟩
  · obtain ⟨rfl, plain, led⟩ := stands
    exact ⟨Bool.and_eq_true_iff.mpr ⟨plain, led⟩, rfl⟩

/-- A tree of a kind that a form takes has a value that the form takes, and its array stands for
it. -/
theorem Stands.taken {form : Form} {kind : Kind} {v array : Value} (stands : Stands s kind v array)
    (takes : form.takesKind kind = true) : form.takes v = true ∧ v.translated = array := by
  cases form with
  | style f positional names =>
      simp only [Form.takesKind, Bool.or_eq_true, Bool.and_eq_true] at takes
      rcases takes with (data | ⟨expression, operands⟩) | ⟨record, format⟩
      · obtain ⟨rfl, plain⟩ : v = array ∧ array.isPlain = true := by
          rw [beq_iff_eq.mp data] at stands
          exact stands
        exact ⟨StyleFunction.takes_of_isPlain plain, Value.translated_of_isPlain plain⟩
      · obtain ⟨operand, same⟩ := stands.isOperand (Or.inr (beq_iff_eq.mp expression))
        exact ⟨StyleFunction.takes_of_isOperand ((Bool.not_eq_true' _).mp operands) operand, same⟩
      · rw [beq_iff_eq.mp record] at stands
        obtain rfl := beq_iff_eq.mp format
        exact stands
  | _ =>
      simp only [Form.takesKind, Bool.or_eq_true, beq_iff_eq] at takes
      exact stands.isOperand takes

/-! ## Forms -/

/-- Operands of every form but a function of the vocabulary stand in the array as the position of an
operand puts them. -/
theorem translated_eq (operands : ∀ v ∈ vs, v.isOperand = true) :
    vs.map Value.translated = vs.map Value.asOperand :=
  List.map_congr_left fun v member => Value.translated_of_isOperand (operands v member)

theorem asOperand_isPlain (operands : ∀ v ∈ vs, v.isOperand = true) :
    ∀ v ∈ vs.map Value.asOperand, v.isPlain = true :=
  List.forall_mem_map.mpr fun v member => Value.asOperand_isPlain (operands v member)

theorem assemble_matchOn (held : Nat → Value) (way : MatchWay) (keys table : List Leaf)
    (subject : Value) (ws : List Value) :
    (Form.matchOn way keys table).assemble held ((subject :: ws).map Value.asOperand) =
      Answers.matchArray subject
        (normalized ((keys.map (Leaf.value held)).zip ws) ++
          normalized (mapUnder held table (ws.drop keys.length)))
        (ws.drop (keys.length + table.length)) := by
  have branches : (keys.map (Leaf.value held)).zip (ws.map Value.asOperand) =
      Entries.mapValues Value.asOperand ((keys.map (Leaf.value held)).zip ws) := by
    rw [Entries.mapValues, List.zip_map_right]
    rfl
  rw [List.map_cons, assemble, Answers.matchArray, branches, normalized_mapValues,
    ← List.map_drop, mapUnder_map, normalized_mapValues, ← Answers.branchParts_eq,
    ← Answers.branchParts_eq, ← List.map_drop, branchParts, branchParts, branchParts,
    List.flatMap_append]

/-- A match without its end forges to the array of its subject and its branches. -/
theorem forge_matchChain {subject : Value} {ps : List (Value × Value)}
    (plain : (Answers.matchArray subject ps []).isPlain = true) :
    exec (Act.forge (.matchChain subject (.pairs ps))) s =
      (.ok (Answers.matchArray subject ps []), s) := by
  have array : Answers.matchArray subject ps [] =
      .list ((matchParts subject ps []).map ArrayPart.written) := by
    rw [← forged_buildMatch, Answers.matchArray, List.map_nil, List.append_nil]
    rfl
  have structural := Value.isStructural_of_isPlain plain
  rw [array] at structural ⊢
  rw [exec_forge_matchChain, exec_bind_of_ok (exec_arrayOf_of_isStructural structural s)]
  exact exec_copy_of_isStructural structural s

/-- A case without its end forges to the array of its conditions and results. -/
theorem forge_caseChain {ps : List (Value × Value)}
    (plain : (Operator.leading .caseOf (pairOperands ps)).isPlain = true) :
    exec (Act.forge (.caseChain (.pairs ps))) s =
      (.ok (Operator.leading .caseOf (pairOperands ps)), s) := by
  have array : Operator.leading .caseOf (pairOperands ps) =
      .list ((caseParts (Form.inTurn ps)).map ArrayPart.written) := forged_buildCase ps
  have structural := Value.isStructural_of_isPlain plain
  rw [array] at structural ⊢
  rw [exec_forge_caseChain, exec_bind_of_ok (exec_arrayOf_of_isStructural structural s)]
  exact exec_copy_of_isStructural structural s

theorem stands_matchOn {way : MatchWay} {keys table : List Leaf}
    (fits : (Form.matchOn way keys table).Fits s.slot vs.length)
    (each : ∀ scope, List.Forall₂ (Answers scope s) terms vs)
    (operands : ∀ v ∈ vs, v.isOperand = true) :
    ∃ v, (∀ scope, Answers scope s (Form.term (.matchOn way keys table) terms) v) ∧
      Stands s (Form.matchOn way keys table).kind v
        ((Form.matchOn way keys table).assemble s.slot (vs.map Value.asOperand)) := by
  have plain := assemble_isPlain (.matchOn way keys table)
    (vs.map Value.asOperand) (by rwa [List.length_map]) (asOperand_isPlain operands)
  obtain ⟨areKeys, areTable, size⟩ := fits
  match terms, vs, each with
  | [], [], each =>
      exfalso
      cases way <;> dsimp only [List.length_nil] at size <;> omega
  | [], _ :: _, each => cases each []
  | _ :: _, [], each => cases each []
  | subject :: ts, v :: ws, each =>
      have answers : ∀ scope, Answers scope s subject v :=
        fun scope => (List.forall₂_cons.mp (each scope)).1
      have rest : ∀ scope, List.Forall₂ (Answers scope s) ts ws :=
        fun scope => (List.forall₂_cons.mp (each scope)).2
      have opens : ∀ scope, _ := fun scope =>
        Answers.matchSteps (Answers.matchStart (answers scope)) areKeys (rest scope)
      have answersTable : ∀ scope, _ := fun scope =>
        Answers.mapTerm areTable (List.forall₂_drop keys.length (rest scope))
      have last : ∀ scope, _ := fun scope =>
        List.forall₂_drop (keys.length + table.length) (rest scope)
      rw [List.length_cons] at size
      rw [assemble_matchOn] at plain ⊢
      cases way with
      | byBranch =>
          obtain ⟨rfl, size⟩ := size
          have none : normalized (mapUnder s.slot [] (ws.drop keys.length)) = [] := rfl
          rw [none, List.append_nil] at plain ⊢
          refine ⟨_, fun scope => Answers.matchEnd_open (opens scope) (last scope) ?_ plain, rfl,
            plain, rfl⟩
          rw [List.length_drop, List.length_nil]
          omega
      | unfinished =>
          obtain ⟨rfl, size⟩ := size
          have none : normalized (mapUnder s.slot [] (ws.drop keys.length)) = [] := rfl
          have ended : ws.drop (keys.length + List.length (α := Leaf) []) = [] :=
            List.drop_eq_nil_of_le (by rw [List.length_nil]; omega)
          rw [none, List.append_nil, ended] at plain ⊢
          exact ⟨_, opens, rfl, forge_matchChain plain, plain⟩
      | withTable =>
          refine ⟨_, fun scope => Answers.matchEnd_closing
            (Answers.branches (opens scope) ⟨_, answersTable scope, rfl⟩) (last scope) ?_ plain,
            rfl, plain, rfl⟩
          rw [List.length_drop]
          omega
      | fromTable =>
          obtain ⟨rfl, size⟩ := size
          refine ⟨_, fun scope => Answers.matchEnd_closing
            (Answers.matchFromTable (answers scope) (answersTable scope)) (last scope) ?_ plain,
            rfl, plain, rfl⟩
          rw [List.length_drop, List.length_nil]
          omega
      | atOnce =>
          obtain ⟨rfl, size⟩ := size
          obtain ⟨w, oneValue⟩ : ∃ w, ws.drop (List.length (α := Leaf) [] + table.length) = [w] :=
            List.length_eq_one_iff.mp (by rw [List.length_drop, List.length_nil]; omega)
          obtain ⟨t, oneTerm⟩ : ∃ t, ts.drop (List.length (α := Leaf) [] + table.length) = [t] :=
            List.length_eq_one_iff.mp (by rw [(last []).length_eq, oneValue]; rfl)
          rw [oneValue] at plain ⊢
          have answersLast : ∀ scope, Answers scope s t w := fun scope => by
            have both := last scope
            rw [oneValue, oneTerm] at both
            exact (List.forall₂_cons.mp both).1
          refine ⟨_, fun scope => ?_, rfl, plain, rfl⟩
          rw [Form.term, oneTerm]
          exact Answers.matchAtOnce (answers scope) (answersTable scope) (answersLast scope) plain

theorem stands_letIn {names : List Leaf} (fits : (Form.letIn names).Fits s.slot vs.length)
    (each : ∀ scope, List.Forall₂ (Answers scope s) terms vs)
    (operands : ∀ v ∈ vs, v.isOperand = true) :
    ∃ v, (∀ scope, Answers scope s (Form.term (.letIn names) terms) v) ∧
      Stands s .expression v ((Form.letIn names).assemble s.slot (vs.map Value.asOperand)) := by
  have plain := assemble_isPlain (.letIn names)
    (vs.map Value.asOperand) (by rwa [List.length_map]) (asOperand_isPlain operands)
  obtain ⟨size, areNames⟩ := fits
  obtain ⟨w, oneValue⟩ : ∃ w, vs.drop names.length = [w] :=
    List.length_eq_one_iff.mp (by rw [List.length_drop]; omega)
  obtain ⟨t, oneTerm⟩ : ∃ t, terms.drop names.length = [t] :=
    List.length_eq_one_iff.mp (by rw [List.length_drop, (each []).length_eq]; omega)
  have answersBody : ∀ scope, Answers scope s t w := fun scope => by
    have both := List.forall₂_drop names.length (each scope)
    rw [oneValue, oneTerm] at both
    exact (List.forall₂_cons.mp both).1
  have array : (Form.letIn names).assemble s.slot (vs.map Value.asOperand) =
      (LetChain.body ⟨mapUnder s.slot names vs⟩ w).forged := by
    rw [assemble, mapUnder_map, ← Answers.bindingParts_eq, ← List.map_drop, oneValue]
    rfl
  rw [array] at plain ⊢
  refine ⟨_, fun scope => ?_, rfl, plain, rfl⟩
  rw [Form.term, oneTerm]
  exact Answers.inside (Answers.letStart (Answers.mapTerm areNames (each scope)))
    (answersBody scope) plain

theorem stands_letWith {names further : List Leaf}
    (fits : (Form.letWith names further).Fits s.slot vs.length)
    (each : ∀ scope, List.Forall₂ (Answers scope s) terms vs)
    (operands : ∀ v ∈ vs, v.isOperand = true) :
    ∃ v, (∀ scope, Answers scope s (Form.term (.letWith names further) terms) v) ∧
      Stands s .expression v
        ((Form.letWith names further).assemble s.slot (vs.map Value.asOperand)) := by
  have plain := assemble_isPlain (.letWith names further)
    (vs.map Value.asOperand) (by rwa [List.length_map]) (asOperand_isPlain operands)
  obtain ⟨size, areNames⟩ := fits
  have first : ∀ scope, _ := fun scope => Answers.mapTerm
    (fun key member => areNames key (List.mem_append_left further member)) (each scope)
  have others : ∀ scope, _ := fun scope => Answers.bindVar (Answers.mapTerm
    (fun key member => areNames key (List.mem_append_right names member))
    (List.forall₂_drop names.length (each scope)))
  have array : (Form.letWith names further).assemble s.slot (vs.map Value.asOperand) =
      (LetChain.extend ⟨mapUnder s.slot names vs⟩
        ⟨mapUnder s.slot further (vs.drop names.length)⟩).forged := by
    rw [assemble, ← List.map_drop, mapUnder_map, mapUnder_map, ← Answers.bindingParts_eq,
      ← Answers.bindingParts_eq, ← apply_ite (Entries.mapValues Value.asOperand),
      Entries.isEmpty_mapValues, Entries.keys_mapValues]
    rfl
  rw [array] at plain ⊢
  exact ⟨_, fun scope => Answers.letWith (first scope) (others _) plain, rfl, plain, rfl⟩

theorem stands_cases {finished : Bool} (fits : (Form.cases finished).Fits s.slot vs.length)
    (each : ∀ scope, List.Forall₂ (Answers scope s) terms vs)
    (operands : ∀ v ∈ vs, v.isOperand = true) :
    ∃ v, (∀ scope, Answers scope s (Form.term (.cases finished) terms) v) ∧
      Stands s (Form.cases finished).kind v
        ((Form.cases finished).assemble s.slot (vs.map Value.asOperand)) := by
  have plain := Form.leading_isPlain .caseOf (asOperand_isPlain operands)
  cases finished with
  | true => exact ⟨_, Answers.cases_finished each (asOperand_isPlain operands), rfl, plain, rfl⟩
  | false =>
      obtain ⟨qs, same, answers⟩ := Answers.cases_unfinished each (fits.resolve_left nofun)
      refine ⟨_, answers, rfl, ?_, plain⟩
      rw [← same] at plain ⊢
      exact forge_caseChain plain

theorem stands_record {keys : List Leaf} (fits : (Form.record keys).Fits s.slot vs.length)
    (each : ∀ scope, List.Forall₂ (Answers scope s) terms vs)
    (operands : ∀ v ∈ vs, v.isOperand = true) :
    ∃ v, (∀ scope, Answers scope s (Form.term (.record keys) terms) v) ∧
      Stands s .record v ((Form.record keys).assemble s.slot (vs.map Value.asOperand)) := by
  refine ⟨_, fun scope => Answers.mapTerm fits.2 (each scope), ?_, ?_⟩
  · refine List.all_eq_true.mpr fun e member => Bool.and_eq_true_iff.mpr ?_
    exact Entries.of_mem_ofWrites (·.isPlain = true) (·.isOperand = true)
      (fun pair inside => by
        obtain ⟨key, isKey, same⟩ := List.mem_map.mp (List.of_mem_zip inside).1
        exact ⟨same ▸ leaf_isPlain (fits.2 key isKey).1,
          operands pair.2 (List.of_mem_zip inside).2⟩) member
  · rw [assemble, mapUnder_map]
    rfl

theorem stands_interpolation {form : Form} (bare : form.kind = .data)
    (fits : form.Fits s.slot vs.length)
    (each : ∀ scope, List.Forall₂ (Answers scope s) terms vs)
    (operands : ∀ v ∈ vs, v.isOperand = true) :
    ∃ v, (∀ scope, Answers scope s (form.term terms) v) ∧
      Stands s .data v (form.assemble s.slot (vs.map Value.asOperand)) := by
  have plain := assemble_isPlain form (vs.map Value.asOperand)
    (by rwa [List.length_map]) (asOperand_isPlain operands)
  have size : terms.length = vs.length := (each []).length_eq
  refine ⟨_, fun scope => ?_, rfl, plain⟩
  cases form with
  | linear =>
      obtain rfl : vs = [] := List.length_eq_zero_iff.mp fits
      obtain rfl : terms = [] := List.length_eq_zero_iff.mp size
      exact Answers.linear
  | exponential =>
      obtain ⟨v, rfl⟩ := List.length_eq_one_iff.mp fits
      obtain ⟨t, rfl⟩ := List.length_eq_one_iff.mp size
      exact Answers.exponential (List.forall₂_cons.mp (each scope)).1
        (operands v List.mem_cons_self)
  | cubicBezier =>
      obtain ⟨v₁, vs, rfl⟩ := List.exists_cons_of_length_eq_add_one fits
      obtain ⟨w₁, v₂, w₂, rfl⟩ := List.length_eq_three.mp (Nat.succ.inj fits)
      obtain ⟨t₁, terms, rfl⟩ := List.exists_cons_of_length_eq_add_one size
      obtain ⟨u₁, t₂, u₂, rfl⟩ := List.length_eq_three.mp (Nat.succ.inj size)
      exact Answers.cubicBezier (each scope) operands
  | style | var | record | letIn | letWith => cases bare
  | cases finished => cases finished <;> cases bare
  | matchOn way => cases way <;> cases bare

/-- Every form answers what stands to the array that it puts together, if its operands do. -/
theorem Form.stands {form : Form} (fits : form.Fits s.slot vs.length)
    (each : ∀ scope, List.Forall₂ (Answers scope s) terms vs)
    (taken : ∀ v ∈ vs, form.takes v = true) :
    ∃ v, (∀ scope, Answers scope s (form.term terms) v) ∧
      Stands s form.kind v (form.assemble s.slot (vs.map Value.translated)) := by
  cases form with
  | style f positional names =>
      have builds := Answers.style fits each taken
      exact ⟨_, builds.answers, rfl, builds.plain, builds.led⟩
  | var name =>
      obtain rfl : vs = [] := List.length_eq_zero_iff.mp fits
      obtain rfl : terms = [] := List.length_eq_zero_iff.mp (each []).length_eq
      have builds := Answers.var (s := s) name
      exact ⟨_, builds.answers, rfl, builds.plain, builds.led⟩
  | linear => rw [translated_eq taken]; exact stands_interpolation rfl fits each taken
  | exponential => rw [translated_eq taken]; exact stands_interpolation rfl fits each taken
  | cubicBezier => rw [translated_eq taken]; exact stands_interpolation rfl fits each taken
  | record keys => rw [translated_eq taken]; exact stands_record fits each taken
  | cases finished => rw [translated_eq taken]; exact stands_cases fits each taken
  | matchOn way keys table => rw [translated_eq taken]; exact stands_matchOn fits each taken
  | letIn names => rw [translated_eq taken]; exact stands_letIn fits each taken
  | letWith names further => rw [translated_eq taken]; exact stands_letWith fits each taken

/-! ## Trees -/

namespace CallTree

/-- The values of some trees, if each tree has one. -/
theorem exists_values (form : Form) (trees : List CallTree)
    (each : ∀ tree ∈ trees, ∃ v, (∀ scope, Answers scope s tree.term v) ∧
      form.takes v = true ∧ v.translated = tree.array s.slot) :
    ∃ vs, (∀ scope, List.Forall₂ (Answers scope s) (CallTree.terms trees) vs) ∧
      (∀ v ∈ vs, form.takes v = true) ∧ vs.map Value.translated = arrays s.slot trees := by
  induction trees with
  | nil => exact ⟨[], fun _ => .nil, nofun, rfl⟩
  | cons tree trees ih =>
      obtain ⟨vs, answersAll, takenAll, same⟩ :=
        ih fun tree' member => each tree' (List.mem_cons_of_mem tree member)
      obtain ⟨v, answers, taken, sameHere⟩ := each tree List.mem_cons_self
      refine ⟨v :: vs, fun scope => .cons (answers scope) (answersAll scope), ?_, ?_⟩
      · exact List.forall_mem_cons.mpr ⟨taken, takenAll⟩
      · rw [List.map_cons, sameHere, same, arrays]

/-- What has a `forge` forges to the array that it stands to. -/
theorem answers_forge {scope : Entries} {tree : CallTree} {v array : Value}
    (forgeable : tree.isForgeable = true) (answers : Answers scope s tree.term v)
    (stands : Stands s tree.kind v array) :
    Answers scope s (forgeTerm tree.term) array ∧ array.isPlain = true := by
  unfold isForgeable at forgeable
  rw [Bool.or_eq_true, beq_iff_eq, beq_iff_eq] at forgeable
  rcases forgeable with expression | chain
  · rw [expression] at stands
    obtain ⟨rfl, plain, -⟩ := stands
    exact ⟨Answers.forged answers rfl array (exec_copy_of_isPlain plain s), plain⟩
  · rw [chain] at stands
    obtain ⟨has, forges, plain⟩ := stands
    exact ⟨Answers.forged answers has array forges, plain⟩

/-- The value of a tree stands to its array, at every node. -/
theorem WellFormed.stands {tree : CallTree} (wellFormed : tree.WellFormed s.slot) :
    ∃ v, (∀ scope, Answers scope s tree.term v) ∧ Stands s tree.kind v (tree.array s.slot) := by
  induction wellFormed with
  | leaf plain => exact ⟨_, fun _ => Answers.leaf plain, rfl, leaf_isPlain plain⟩
  | @node form operands fits takesKinds _ ih =>
      obtain ⟨vs, each, taken, same⟩ := exists_values (s := s) form operands
        fun tree member => by
          obtain ⟨v, answers, stands⟩ := ih tree member
          exact ⟨v, answers, stands.taken (takesKinds tree member)⟩
      have size : vs.length = operands.length := by
        rw [← (each []).length_eq, terms_eq, List.length_map]
      obtain ⟨v, answers, stands⟩ := Form.stands (size ▸ fits) each taken
      rw [same] at stands
      exact ⟨v, answers, stands⟩
  | @forged tree forgeable _ ih =>
      obtain ⟨v, answers, stands⟩ := ih
      exact ⟨tree.array s.slot, fun scope => (answers_forge forgeable (answers scope) stands).1, rfl,
        (answers_forge forgeable (answers []) stands).2⟩

mutual

/-- Forging nodes where they stand changes nothing in the array. -/
theorem array_bare (held : Nat → Value) (tree : CallTree) :
    tree.bare.array held = tree.array held := by
  match tree with
  | .leaf l => rfl
  | .node form operands => rw [bare, array, array, arrays_bares held operands]
  | .forged tree => rw [bare, array, array_bare held tree]

theorem arrays_bares (held : Nat → Value) (trees : List CallTree) :
    arrays held (bares trees) = arrays held trees := by
  match trees with
  | [] => rfl
  | tree :: trees => rw [bares, arrays, arrays, array_bare held tree, arrays_bares held trees]

end

/-- Forging a tree of calls gives the array that the plain recursion puts together, whichever nodes
are forged where they stand, and nothing in the session changes. -/
theorem forge_eq (s : Session) (scope : Entries) (tree : CallTree)
    (wellFormed : tree.WellFormed s.slot) (forgeable : tree.isForgeable = true) :
    exec (eval scope (forgeTerm tree.term)) s = (.ok (tree.bare.array s.slot), s) := by
  obtain ⟨v, answers, stands⟩ := wellFormed.stands
  rw [array_bare]
  exact (answers_forge forgeable (answers scope) stands).1

/-- A let with a case, whose condition is forged where it stands, around a match. -/
theorem forge_eq_let :
    let field : CallTree := .node (.style .get 1 []) [.leaf (.written (.str "x"))]
    let condition : CallTree := .node (.style .has 1 []) [.leaf (.written (.str "x"))]
    let number : CallTree := .node (.style .numberFormat 1 [2, 1])
      [field, .leaf (.written (.str "EUR")), .leaf (.written .null)]
    let choice : CallTree :=
      .node (.cases true) [.forged condition, number, .leaf (.written .null)]
    let body : CallTree :=
      .node (.matchOn .byBranch [.written (.int 1)] []) [.node (.var "a") [], field]
    let tree : CallTree := .node (.letIn [.written (.str "a")]) [choice, body]
    let session := Session.start ⟨"/", fun _ => .ok .empty, 80⟩
    tree.WellFormed session.slot ∧
      exec (eval [] (forgeTerm tree.term)) session =
        (.ok (.list [.str "let", .str "a",
          .list [.str "case", .list [.str "has", .str "x"],
            .list [.str "number-format", .list [.str "get", .str "x"],
              .map [(.str "currency", .str "EUR")]], .null],
          .list [.str "match", .list [.str "var", .str "a"], .int 1,
            .list [.str "get", .str "x"]]]), session) := by
  intro field condition number choice body tree session
  have fieldFits : field.WellFormed session.slot :=
    .node ⟨rfl, _, rfl, rfl, by decide, fun _ => rfl⟩ (by decide)
      (List.forall_mem_singleton.mpr (.leaf rfl))
  have conditionFits : condition.WellFormed session.slot :=
    .node ⟨rfl, _, rfl, rfl, by decide, fun _ => rfl⟩ (by decide)
      (List.forall_mem_singleton.mpr (.leaf rfl))
  have numberFits : number.WellFormed session.slot :=
    .node ⟨rfl, _, rfl, rfl, by decide, fun _ => rfl⟩ (by decide)
      (List.forall_mem_cons.mpr ⟨fieldFits,
        List.forall_mem_cons.mpr ⟨.leaf rfl, List.forall_mem_singleton.mpr (.leaf rfl)⟩⟩)
  have choiceFits : choice.WellFormed session.slot :=
    .node (Or.inl rfl) (by decide)
      (List.forall_mem_cons.mpr ⟨.forged rfl conditionFits,
        List.forall_mem_cons.mpr ⟨numberFits, List.forall_mem_singleton.mpr (.leaf rfl)⟩⟩)
  have bodyFits : body.WellFormed session.slot :=
    .node ⟨List.forall_mem_singleton.mpr rfl, nofun, rfl, Or.inl rfl⟩ (by decide)
      (List.forall_mem_cons.mpr ⟨.node rfl nofun nofun, List.forall_mem_singleton.mpr fieldFits⟩)
  have treeFits : tree.WellFormed session.slot :=
    .node ⟨rfl, List.forall_mem_singleton.mpr ⟨rfl, rfl⟩⟩ (by decide)
      (List.forall_mem_cons.mpr ⟨choiceFits, List.forall_mem_singleton.mpr bodyFits⟩)
  exact ⟨treeFits, forge_eq session [] tree treeFits rfl⟩

end CallTree

end MapStyle.Script
