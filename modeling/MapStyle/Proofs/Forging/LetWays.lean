import MapStyle.Proofs.Forging.Forms
import MapStyle.Proofs.Forging.StaticForms
import MapStyle.Proofs.Script.Shown
import MapStyle.Proofs.Script.Tables
import MapStyle.Proofs.Value.Names

/-!
# Ways to write a let

A let is given its body, or a callback that answers further bindings.  In the second form the
callback sees the first bindings as they were given, and the body refers to the last name of all.

* `letArray` is the array of a let that refers to a name, and `letOn` the expression of it, however
  the let is written.
* `LetMade` is what comes of further bindings; `LetTogether` compares that with a let in which all
  bindings are given at once.
* `let_callback_eq_let` says what each outcome of a callback leads to, and what a callback sees.
-/

namespace MapStyle

namespace Entries

variable {es fs : Entries}

/-- No two keys are the same, as in every map. -/
def Distinct (es : Entries) : Prop := es.keys.Pairwise fun k key => k.same key = false

/-- No key of one map is the same as a key of another one. -/
def Disjoint (es fs : Entries) : Prop := ∀ k ∈ es.keys, ∀ key ∈ fs.keys, k.same key = false

/-- The keys and the values are known by what they hold. -/
def AreStructural (es : Entries) : Prop :=
  ∀ e ∈ es, e.1.isStructural = true ∧ e.2.isStructural = true

/-- The keys and the values show something. -/
def AreShown (store : LayerStore) (es : Entries) : Prop :=
  ∀ e ∈ es, store.Shows e.1 (store.resolve e.1) ∧ store.Shows e.2 (store.resolve e.2)

/-- The name at the end of some bindings and further ones. -/
def lastName? (es further : Entries) : Option Value := further.keys.getLast?.or es.keys.getLast?

theorem Distinct.append (left : es.Distinct) (right : fs.Distinct) (apart : es.Disjoint fs) :
    (es ++ fs).Distinct := by
  unfold Distinct keys
  rw [List.map_append]
  exact List.pairwise_append.mpr ⟨left, right, apart⟩

theorem Distinct.nodup (distinct : es.Distinct) : es.keys.Nodup := by
  refine List.Pairwise.imp ?_ distinct
  rintro k _ different rfl
  rw [Value.same_self] at different
  cases different

/-- It is the last name of all bindings in a row. -/
theorem lastName?_eq : lastName? es fs = (es ++ fs).keys.getLast? := by
  rw [lastName?, ← List.getLast?_append, keys, keys, keys, List.map_append]

/-- There is such a name if there are bindings at all. -/
theorem isSome_lastName? : (lastName? es fs).isSome = true ↔ es ≠ [] ∨ fs ≠ [] := by
  simp [lastName?, keys, or_comm]

end Entries

/-- The name that the form with a callback refers to is the last one. -/
theorem LetChain.resultName_eq (es further : Entries) :
    resultName ⟨es⟩ ⟨further⟩ = (Entries.lastName? es further).getD .null := by
  rw [resultName, Entries.lastName?, Entries.keys, Entries.keys]
  cases further with
  | nil => rfl
  | cons e further =>
      have last : (((e :: further).map Prod.fst).getLast?).isSome = true := by simp
      obtain ⟨name, found⟩ := Option.isSome_iff_exists.mp last
      rw [List.isEmpty_cons, if_neg Bool.false_ne_true, found, Option.some_or]

namespace Script

open Act

/-- The array of a let that refers to a name: names and values in turn, and the reference. -/
def letArray (names values : List Value) (last : Value) : Value :=
  .list (.str "let" :: (Form.inTurn (names.zip values) ++ [.list [.str "var", last]]))

/-- The expression of a let that refers to a name: each name stands in it as it is, each value as an
operand. -/
def letOn (es : Entries) (last : Value) : Expression :=
  ⟨letArray es.keys (es.map fun e => (ArrayPart.operand e.2).written) last⟩

theorem letOn_forged (es : Entries) (last : Value) :
    (letOn es last).forged = .list (.str "let" :: (bindingParts es ++ [.list [.str "var", last]])) := by
  rw [letOn, letArray, Entries.keys, List.zip_map', Form.inTurn, List.flatMap_map]
  rfl

/-- What a callback with further bindings adds stands behind the first bindings, and with no name at
all the reference is to null. -/
theorem extend_eq_letOn (es further : Entries) : LetChain.extend ⟨es⟩ ⟨further⟩ =
    letOn (es ++ further) ((Entries.lastName? es further).getD .null) := by
  have forged : (LetChain.extend ⟨es⟩ ⟨further⟩).forged =
      (letOn (es ++ further) ((Entries.lastName? es further).getD .null)).forged := by
    rw [letOn_forged, LetChain.extend, LetChain.resultName_eq, bindingParts, bindingParts,
      bindingParts, List.flatMap_append]
    rfl
  exact congrArg Expression.mk forged

theorem extend_eq {es further : Entries} {last : Value}
    (refers : Entries.lastName? es further = some last) :
    LetChain.extend ⟨es⟩ ⟨further⟩ = letOn (es ++ further) last := by
  rw [extend_eq_letOn, refers, Option.getD_some]

/-! ## All bindings at once -/

/-- The term of a let in which all bindings are given at once, and one of the names is referred
to. -/
def letReferring (bindings : Term) (name : String) : Term :=
  .method .inside "in_" (.call .letIn [bindings] []) [Form.term (.var name) []] []

/-- All bindings at once make the same expression. -/
theorem exec_letReferring {scope : Entries} {s : Session} {bindings : Term} {es : Entries}
    (name : String) (answers : AnswersTable scope s bindings es) :
    exec (eval scope (letReferring bindings name)) s =
      exec (makeExpression (letOn es (.str name))) s := by
  obtain ⟨t, answers, holds⟩ := answers
  have refers := (Answers.var (s := s) name).answers scope
  have forged : (LetChain.body ⟨es⟩ (.expression (Operator.leading .var [.str name]))).forged =
      (letOn es (.str name)).forged := (letOn_forged es _).symm
  have body : LetChain.body ⟨es⟩ (.expression (Operator.leading .var [.str name])) =
      letOn es (.str name) := congrArg Expression.mk forged
  exact body ▸ Answers.exec_inside (Answers.letStart answers) holds refers

/-! ## What a callback leads to -/

section Parts

variable {es : Entries} {last : Value}

/-- What holds of the names and of the values as operands holds of all that stands in a let. -/
theorem forall_mem_bindingParts {P : Value → Prop} (each : ∀ e ∈ es, P e.1 ∧ P e.2.asOperand) :
    ∀ p ∈ bindingParts es, P p := by
  rw [bindingParts]
  intro p member
  obtain ⟨e, among, part⟩ := List.mem_flatMap.mp member
  rcases List.mem_cons.mp part with rfl | part
  · exact (each e among).1
  · exact List.mem_singleton.mp part ▸ (each e among).2

theorem mem_keys_of_lastName? {further : Entries} (refers : Entries.lastName? es further = some last) :
    last ∈ (es ++ further).keys := by
  rw [Entries.lastName?_eq] at refers
  exact List.mem_of_getLast? refers

theorem isStructural_letOn (isName : last ∈ es.keys) (each : es.AreStructural) :
    (letOn es last).forged.isStructural = true := by
  obtain ⟨e, member, rfl⟩ := List.mem_map.mp isName
  have bound : ∀ p ∈ bindingParts es, p.isStructural = true := forall_mem_bindingParts
    fun e member => ⟨(each e member).1, ExpressionMethod.isStructural_asOperand (each e member).2⟩
  have refers : (Value.list [.str "var", e.1]).isStructural = true := Value.isStructural_list
    (List.forall_mem_cons.mpr ⟨rfl, List.forall_mem_singleton.mpr (each e member).1⟩)
  rw [letOn_forged]
  exact Value.isStructural_list (List.forall_mem_cons.mpr ⟨rfl,
    List.forall_mem_append.mpr ⟨bound, List.forall_mem_singleton.mpr refers⟩⟩)

/-- A let shows what its names and values show. -/
theorem shows_letOn {store : LayerStore} (isName : last ∈ es.keys) (each : es.AreShown store) :
    store.Shows (letOn es last).toValue (store.resolve (letOn es last).toValue) := by
  have text : ∀ s : String, store.Shows (.str s) (store.resolve (.str s)) := fun s =>
    (LayerStore.Shows.of_isStructural store rfl).self
  obtain ⟨e, member, rfl⟩ := List.mem_map.mp isName
  rw [Expression.toValue, letOn_forged]
  refine .of_children rfl rfl (List.forall_mem_singleton.mpr (.of_children rfl rfl
    (List.forall_mem_cons.mpr ⟨text "let", List.forall_mem_append.mpr
      ⟨forall_mem_bindingParts fun e member => ⟨(each e member).1, (each e member).2.asOperand.self⟩,
        List.forall_mem_singleton.mpr (.of_children rfl rfl ?_)⟩⟩)))
  exact List.forall_mem_cons.mpr ⟨text "var", List.forall_mem_singleton.mpr (each e member).1⟩

end Parts

/-- A let of all bindings in one map has the same outcome.  Where the bindings show something and
the map stays what it is, the two are equal in a script. -/
structure LetTogether (s : Session) (outcome : Except Fault Value × Session) (all : Entries)
    (name : String) : Prop where
  outcome_eq : ∀ {scope bindings}, AnswersTable scope s bindings (Entries.ofWrites all) →
    exec (eval scope (letReferring bindings name)) s = outcome
  equal : ∀ {scope s₀ term bindings}, exec (eval scope term) s₀ = outcome → all.AreShown s.layers →
    (∀ s', s.Extends s' → AnswersTable scope s' bindings (Entries.ofWrites all)) →
    ∃ s', exec (eval scope (.equal term (letReferring bindings name))) s₀ = (.ok (.bool true), s')

/-- A let is made of first bindings and further ones, and refers to the last name of all. -/
structure LetMade (s : Session) (outcome : Except Fault Value × Session) (es further : Entries)
    (last : Value) : Prop where
  /-- Whatever is bound, a copy of the array is made. -/
  makes : outcome = exec (makeExpression (letOn (es ++ further) last)) s
  /-- Where all that is bound is known by what it holds, this is the array. -/
  kept : (es ++ further).AreStructural → outcome = (.ok (letOn (es ++ further) last).toValue, s)
  /-- Then the names stand in it as they are, and the values that are expressions forged. -/
  forged : (es ++ further).AreStructural → ∃ values,
    List.Forall₂ (fun e w => exec (ArrayPart.operand e.2).stands s = (.ok w, s)) (es ++ further)
      values ∧
    outcome = (.ok (.expression (letArray (es ++ further).keys values last)), s)
  /-- Where all that is bound shows something, it shows the array of that. -/
  shown : (es ++ further).AreShown s.layers → ∃ v s', outcome = (.ok v, s') ∧ s.Extends s' ∧
    s'.layers.Shows v (s.layers.resolve (letOn (es ++ further) last).toValue)
  /-- With no name in both, a let of all bindings in one map is the same. -/
  together : es.Distinct → further.Distinct → es.Disjoint further → ∀ {name}, last = .str name →
    LetTogether s outcome (es ++ further) name

section Made

variable {s : Session} {outcome : Except Fault Value × Session} {es further : Entries} {last : Value}

/-- With no key twice, all bindings are one map as they are. -/
theorem LetTogether.of_exec {all : Entries} {name : String}
    (makes : outcome = exec (makeExpression (letOn all (.str name))) s) (distinct : all.Distinct)
    (isName : .str name ∈ all.keys) : LetTogether s outcome all name := by
  refine ⟨fun answers => ?_, fun answers shows tables => ?_⟩
  · rw [Entries.ofWrites_eq_self distinct] at answers
    exact (exec_letReferring name answers).trans makes.symm
  · obtain ⟨v, s₁, made, shown, later⟩ := exists_makeExpression_shown (shows_letOn isName shows)
    have table := tables s₁ later
    rw [Entries.ofWrites_eq_self distinct] at table
    obtain ⟨v', s₂, again, shown', further⟩ :=
      exists_makeExpression_shown (later.shows (shows_letOn isName shows))
    exact ⟨s₂, exec_equal_of_shown (answers.trans (makes.trans made)) shown
      ((exec_letReferring name table).trans again) shown' further (isLeaf_resolve _ rfl)⟩

theorem LetMade.of_exec (makes : outcome = exec (makeExpression (letOn (es ++ further) last)) s)
    (refers : Entries.lastName? es further = some last) : LetMade s outcome es further last := by
  have isName := mem_keys_of_lastName? refers
  have kept : (es ++ further).AreStructural →
      outcome = (.ok (letOn (es ++ further) last).toValue, s) := fun structural =>
    makes.trans (exec_makeExpression_of_isStructural (isStructural_letOn isName structural) s)
  refine ⟨makes, kept, fun structural => ⟨_, ?_, kept structural⟩, fun shows => ?_,
    fun left right apart name isText => ?_⟩
  · refine List.forall₂_map_right_iff.mpr (List.forall₂_same.mpr fun e member => ?_)
    have isKnown : (ArrayPart.operand e.2).value.isStructural = true := (structural e member).2
    exact ArrayPart.exec_stands_of_isStructural (ArrayPart.isStructural_written isKnown) s
  · obtain ⟨v, s', made, shown, later⟩ := exists_makeExpression_shown (shows_letOn isName shows)
    exact ⟨v, s', makes.trans made, later, shown⟩
  · exact .of_exec (isText ▸ makes) (left.append right apart) (isText ▸ isName)

end Made

/-- What a let with a callback leads to, by what the callback ends in. -/
structure LetOutcome (s : Session) (v : Value) (es : Entries) (run : Entries → Act Value) : Prop
    where
  /-- A fault of the callback is passed on. -/
  raises : ∀ {fault s'}, exec (run es) s = (.error fault, s') →
    exec (letWith v run) s = (.error fault, s')
  /-- What is no further bindings is refused, by the name of its kind. -/
  refuses : ∀ {a s'}, exec (run es) s = (.ok a, s') → (∀ further, a ≠ .varBindings further) →
    exec (letWith v run) s = (.error (.notBindings a.kindName), s')
  /-- Further bindings go behind the first ones as they are then, which are those that the callback
  has seen unless they are a live record. -/
  adds : ∀ {further s'}, exec (run es) s = (.ok (.varBindings further), s') →
    ∃ es', (s'.layers.view v).entries? = some es' ∧ ((∀ id, v ≠ .record id) → es' = es) ∧
      (es' ≠ [] ∨ further ≠ [] → ∃ last, Entries.lastName? es' further = some last ∧
        LetMade s' (exec (letWith v run) s) es' further last)

/-- What holds entries holds some later on, too, and the same ones unless it is a live record. -/
theorem exists_entries_after {s : Session} {v : Value} {es : Entries}
    (holds : (s.layers.view v).entries? = some es) (s' : Session) :
    ∃ es', (s'.layers.view v).entries? = some es' ∧ ((∀ id, v ≠ .record id) → es' = es) := by
  cases v with
  | record id => exact ⟨_, rfl, fun live => (live id rfl).elim⟩
  | _ => exact ⟨es, holds, fun _ => rfl⟩

theorem LetOutcome.of_holds {s : Session} {v : Value} {es : Entries}
    (holds : (s.layers.view v).entries? = some es) (run : Entries → Act Value) :
    LetOutcome s v es run := by
  have taken : exec (letWith v run) s = _ := exec_letWith holds
  refine ⟨fun raises => ?_, @fun a s' answers other => ?_, @fun further s' answers => ?_⟩
  · rw [taken, raises]
  · rw [taken, answers]
    cases a <;> first | rfl | exact (other _ rfl).elim
  · obtain ⟨es', holds', same⟩ := exists_entries_after holds s'
    refine ⟨es', holds', same, fun some => ?_⟩
    obtain ⟨last, refers⟩ := Option.isSome_iff_exists.mp (Entries.isSome_lastName?.mpr some)
    refine ⟨last, refers, .of_exec ?_ refers⟩
    rw [exec_letWith_of_bindings holds answers holds', extend_eq refers]

/-- A name stands for the value that is bound to it. -/
theorem answers_scoped {es : Entries} {s : Session} {name : String} {w : Value} :
    Answers es s (.scoped name) w ↔ Entries.lookupName es name = some w := by
  rw [Answers, eval, scopedValue]
  cases Entries.lookupName es name with
  | none =>
      constructor
      · intro answers
        cases answers
      · intro found
        cases found
  | some u =>
      constructor
      · intro answers
        cases answers
        rfl
      · rintro ⟨⟩
        rfl

theorem exec_scoped_of_new {es : Entries} {s : Session} {name : String}
    (absent : .str name ∉ es.keys) :
    exec (eval es (.scoped name)) s = (.error (.missingKey name), s) := by
  rw [eval, scopedValue]
  cases found : Entries.lookupName es name with
  | none => rfl
  | some w =>
      exact (absent (List.mem_map_of_mem (Entries.mem_of_lookupName found))).elim

/-- A let with a callback ends as the callback does: a fault is passed on, and what is no further
bindings is refused.  With further bindings it is made of the first ones and of these, all of them
in turn, and refers to the last name.  Whatever is bound, it has the outcome of a let in which all
bindings are given at once, if no name is in both.

In a script the callback is a term.  It is evaluated in the scope of the first bindings as they are
given: the names are theirs, and each stands for the value itself. -/
theorem let_callback_eq_let {s : Session} {v : Value} {es : Entries}
    (holds : (s.layers.view v).entries? = some es) :
    (∀ run, LetOutcome s v es run) ∧
    (∀ {scope bindings body}, Answers scope s bindings v →
      exec (eval scope (letCallback bindings body)) s =
        exec (letWith v fun inner => eval inner body) s) ∧
    ∀ s', Answers es s' .scope (.scope es) ∧ (es.Distinct → ∀ name,
      (∀ w, Answers es s' (.scoped name) w ↔ (.str name, w) ∈ es) ∧
      (.str name ∉ es.keys →
        exec (eval es (.scoped name)) s' = (.error (.missingKey name), s'))) := by
  refine ⟨LetOutcome.of_holds holds, fun answers => exec_letCallback answers,
    fun s' => ⟨?_, fun distinct name => ⟨fun w => ?_, fun absent => ?_⟩⟩⟩
  · rw [Answers, eval, exec_pure]
  · rw [← Entries.lookupName_eq_some_iff distinct.nodup]
    exact answers_scoped
  · exact exec_scoped_of_new absent

/-- A callback that doubles what is bound, one that answers a plain map, and one that asks for a
name that is not bound. -/
theorem let_callback_eq_let_doubled :
    let s := Session.start ⟨"/", fun _ => .ok .empty, 80⟩
    let first : Entries := [(.str "a", (Style.get (.str "x")).toValue)]
    let double : Term :=
      .method (.expression .multiply) "multiply" (.scoped "a") [.constant (.int 2)] []
    let doubled : Value := .list [.str "*", .list [.str "get", .str "x"], .int 2]
    let all : Entries := first ++ [(.str "b", .expression doubled)]
    let wrapped : Term := .call (.construct .bindVar) [.map [(.constant (.str "b"), double)]] []
    let finished (body : Term) : Term := letCallback (.constant (.map first)) body
    exec (eval [] (finished wrapped)) s = (.ok (.expression (.list [.str "let",
      .str "a", .list [.str "get", .str "x"], .str "b", doubled, .list [.str "var", .str "b"]])), s) ∧
    (∃ s', exec (eval [] (.equal (finished wrapped) (letReferring (.constant (.map all)) "b"))) s =
      (.ok (.bool true), s')) ∧
    exec (eval [] (finished (.map [(.constant (.str "b"), .constant (.int 2))]))) s =
      (.error (.notBindings "dict"), s) ∧
    exec (eval [] (finished (.scoped "b"))) s = (.error (.missingKey "b"), s) := by
  intro s first double doubled all wrapped finished
  have holds : (s.layers.view (.map first)).entries? = some first := rfl
  obtain ⟨outcome, evaluated, inScope⟩ := let_callback_eq_let holds
  have evaluated : ∀ body, exec (eval [] (finished body)) s = _ := fun body =>
    evaluated (Answers.constant rfl)
  have distinct : first.Distinct := List.pairwise_singleton _ _
  have answers : exec (eval first wrapped) s =
      (.ok (.varBindings [(.str "b", .expression doubled)]), s) := by rfl
  obtain ⟨es, again, same, added⟩ := (outcome fun inner => eval inner wrapped).adds answers
  obtain rfl := same nofun
  obtain ⟨last, refers, made⟩ := added (Or.inl (List.cons_ne_nil _ _))
  cases refers
  have structural : ∀ e ∈ all, e.1.isStructural = true ∧ e.2.isStructural = true := by decide
  have shown : all.AreShown s.layers := fun e member =>
    ⟨(LayerStore.Shows.of_isStructural _ (structural e member).1).self,
      (LayerStore.Shows.of_isStructural _ (structural e member).2).self⟩
  have apart : first.Disjoint [(.str "b", .expression doubled)] :=
    List.forall_mem_singleton.mpr (List.forall_mem_singleton.mpr rfl)
  obtain ⟨-, equal⟩ := made.together distinct (List.pairwise_singleton _ _) apart rfl
  have plain : exec (eval first (.map [(.constant (.str "b"), .constant (.int 2))])) s =
      (.ok (.map [(.str "b", .int 2)]), s) := rfl
  have refused := (outcome fun inner => eval inner _).refuses plain fun _ same => nomatch same
  have absent : .str "b" ∉ first.keys := by simp [first, Entries.keys]
  have raised := (outcome fun inner => eval inner (.scoped "b")).raises
    (((inScope s).2 distinct "b").2 absent)
  exact ⟨(evaluated wrapped).trans (made.kept structural),
    equal (evaluated wrapped) shown fun _ _ => ⟨.map all, Answers.constant rfl, rfl⟩,
    (evaluated _).trans refused, (evaluated _).trans raised⟩

end Script

end MapStyle
