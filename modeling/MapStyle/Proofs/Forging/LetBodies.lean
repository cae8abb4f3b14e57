import MapStyle.Proofs.Forging.LetWays
import MapStyle.Proofs.Script.Copies

/-!
# What a let refers to

A let with a callback has no body of its own: behind its bindings it refers to a name.  The name is
looked for in the further bindings, and in the first ones only if there are no further ones, while
the pairs of the array are put together from both.

* `letParts?` reads an array of a let again, and `ClosedLet` says that its body is a reference to
  the name that is bound last in it.
* `LetBinds` says what a let of some bindings forges to.
* `let_callback_closed`: this is what a let with a callback forges to, whatever the first bindings
  are and whatever the callback adds.
-/

namespace MapStyle

/-! ## Reading an array of a let -/

/-- Pairs in turn with one value behind them, taken apart. -/
def pairsThenLast? : List Value → Option (Entries × Value)
  | [] => none
  | [last] => some ([], last)
  | k :: v :: rest => (pairsThenLast? rest).map fun parts => ((k, v) :: parts.1, parts.2)

/-- What an array of a let binds, name by name in order, and its body. -/
def letParts? : Value → Option (Entries × Value)
  | .list (.str "let" :: items) => pairsThenLast? items
  | _ => none

/-- A let is closed: its body is a reference to a name that it binds, the one that is bound last. -/
def ClosedLet (array : Value) : Prop :=
  ∃ bound name, letParts? array = some (bound, .list [.str "var", name]) ∧
    bound.keys.getLast? = some name

theorem pairsThenLast?_inTurn (es : Entries) (last : Value) :
    pairsThenLast? (Script.Form.inTurn es ++ [last]) = some (es, last) := by
  induction es with
  | nil => rfl
  | cons e es ih =>
      change (pairsThenLast? (Script.Form.inTurn es ++ [last])).map _ = _
      rw [ih]
      rfl

namespace Script

open Act

section Arrays

variable {all : Entries} {last : Value}

/-- A let that is copied is read as what it was made of, with copies. -/
theorem letParts?_copied {f : Value → Value}
    (keeps : ∀ p : Value, p.isStructural = true → p.mapLeaves f = p) (all : Entries) (last : Value) :
    letParts? ((letOn all last).forged.mapLeaves f) =
      some (all.map fun e => (e.1.mapLeaves f, e.2.asOperand.mapLeaves f),
        .list [.str "var", last.mapLeaves f]) := by
  have pairs : (bindingParts all).map (Value.mapLeaves f) =
      Form.inTurn (all.map fun e => (e.1.mapLeaves f, e.2.asOperand.mapLeaves f)) := by
    rw [bindingParts, Form.inTurn, List.map_flatMap, List.flatMap_map]
    rfl
  have copied : (letOn all last).forged.mapLeaves f = .list (.str "let" ::
      ((bindingParts all).map (Value.mapLeaves f) ++ [.list [.str "var", last.mapLeaves f]])) := by
    rw [letOn_forged, Value.mapLeaves_list, List.map_cons, List.map_append, List.map_singleton,
      keeps (.str "let") rfl, Value.mapLeaves_list, List.map_cons, keeps (.str "var") rfl]
    rfl
  rw [copied, pairs]
  exact pairsThenLast?_inTurn _ _

theorem closedLet_copied {f : Value → Value} {name : Value}
    (keeps : ∀ p : Value, p.isStructural = true → p.mapLeaves f = p)
    (last : all.keys.getLast? = some name) : ClosedLet ((letOn all name).forged.mapLeaves f) := by
  have names : Entries.keys (all.map fun e => (e.1.mapLeaves f, e.2.asOperand.mapLeaves f)) =
      all.keys.map (Value.mapLeaves f) := by
    rw [Entries.keys, Entries.keys, List.map_map, List.map_map]
    rfl
  refine ⟨_, name.mapLeaves f, letParts?_copied keeps all name, ?_⟩
  rw [names, List.getLast?_map, last, Option.map_some]

theorem copyable_letOn {store : LayerStore} (name : store.Copyable last)
    (each : ∀ e ∈ all, store.Copyable e.1 ∧ store.Copyable e.2) :
    store.Copyable (letOn all last).forged := by
  have text : ∀ s : String, store.Copyable (.str s) := fun s => .of_isStructural store rfl
  have bound : ∀ p ∈ bindingParts all, store.Copyable p := forall_mem_bindingParts
    fun e member => ⟨(each e member).1, (each e member).2.asOperand⟩
  rw [letOn_forged]
  refine .list (List.forall_mem_cons.mpr ⟨text "let", List.forall_mem_append.mpr ⟨bound, ?_⟩⟩)
  exact List.forall_mem_singleton.mpr
    (.list (List.forall_mem_cons.mpr ⟨text "var", List.forall_mem_singleton.mpr name⟩))

end Arrays

/-! ## What is forged -/

/-- What a let of some bindings forges to. -/
structure LetBinds (s : Session) (outcome : Except Fault Value × Session) (all : Entries) : Prop where
  /-- There is an array unless something that is bound cannot be copied. -/
  forges : (∀ e ∈ all, s.layers.Copyable e.1 ∧ s.layers.Copyable e.2) →
    ∃ array s', outcome = (.ok array, s')
  /-- The array binds all that is to be bound, each name to its value as an operand, except for what
  a copy exchanges. -/
  binds : ∀ {array s'}, outcome = (.ok array, s') → ∃ (each : Value → Value) (body : Value),
    (∀ p : Value, p.isStructural = true → each p = p) ∧
      letParts? array = some (all.map fun e => (each e.1, each e.2.asOperand), body)
  /-- If anything is bound, the body refers to the name that is bound last. -/
  closed : all ≠ [] → ∀ {array s'}, outcome = (.ok array, s') → ClosedLet array
  /-- With nothing bound, the body refers to null. -/
  unbound : all = [] → outcome = (.ok (.list [.str "let", .list [.str "var", .null]]), s)

theorem LetBinds.of_copies {s : Session} {outcome : Except Fault Value × Session} {all : Entries}
    (copies : outcome = exec (copy (letOn all (all.keys.getLast?.getD .null)).forged >>= copy) s) :
    LetBinds s outcome all where
  forges each := by
    have name : s.layers.Copyable (all.keys.getLast?.getD .null) := by
      cases found : all.keys.getLast? with
      | none => exact .of_isStructural _ rfl
      | some name =>
          obtain ⟨e, member, rfl⟩ := List.mem_map.mp (List.mem_of_getLast? found)
          exact (each e member).1
    exact copies ▸ exists_copies (copyable_letOn name each)
  binds answered := by
    obtain ⟨f, -, keeps, rfl⟩ := isCopyOf_of_copies (copies.symm.trans answered)
    exact ⟨Value.mapLeaves f, _, keeps, letParts?_copied keeps all _⟩
  closed bound _ _ answered := by
    obtain ⟨f, -, keeps, rfl⟩ := isCopyOf_of_copies (copies.symm.trans answered)
    have named : all.keys ≠ [] := fun none => bound (List.map_eq_nil_iff.mp none)
    have last := List.getLast?_eq_some_getLast named
    rw [last, Option.getD_some]
    exact closedLet_copied keeps last
  unbound nothing := by
    subst nothing
    have structural : (letOn [] .null).forged.isStructural = true := rfl
    have copied := exec_copy_of_isStructural structural s
    exact copies.trans ((exec_bind_of_ok copied copy).trans copied)

/-- What a let with a callback forges to is always closed, but where nothing is bound at all.  The
array binds the first bindings, as they are after the callback, and then the further ones, and its
body refers to the name that is bound last, be the further bindings empty or not and be there names
in both.  With no bindings at all there is no such name, and the body refers to null.

In a script the callback is a term that is evaluated in the scope of the first bindings. -/
theorem let_callback_closed {s : Session} {v : Value} {es : Entries}
    (holds : (s.layers.view v).entries? = some es) :
    (∀ run {further s'}, exec (run es) s = (.ok (.varBindings further), s') →
      ∃ es', (s'.layers.view v).entries? = some es' ∧ ((∀ id, v ≠ .record id) → es' = es) ∧
        LetBinds s' (exec (letWith v run >>= Act.forge) s) (es' ++ further)) ∧
    ∀ {scope bindings body}, Answers scope s bindings v →
      exec (eval scope (CallTree.forgeTerm (letCallback bindings body))) s =
        exec (letWith v (fun inner => eval inner body) >>= Act.forge) s := by
  refine ⟨fun run further s' answers => ?_, fun answers => ?_⟩
  · obtain ⟨es', holds', same⟩ := exists_entries_after holds s'
    refine ⟨es', holds', same, .of_copies ?_⟩
    rw [exec_bind, exec_letWith_of_bindings holds answers holds', ← exec_bind, exec_forge_made,
      extend_eq_letOn, Entries.lastName?_eq]
  · refine Answers.exec_forgeTerm (exec_letCallback answers) fun a s' made => ?_
    obtain ⟨array, rfl⟩ := exists_expression_of_letWith holds made
    rfl

/-- Further bindings with a name that is bound already, and none at all. -/
theorem let_callback_closed_again :
    let s := Session.start ⟨"/", fun _ => .ok .empty, 80⟩
    let first : Entries := [(.str "a", .int 1), (.str "b", .int 2)]
    let answering (es : Entries) : Term := .call (.construct .bindVar) [.constant (.map es)] []
    let forged (es : Entries) : Term :=
      CallTree.forgeTerm (letCallback (.constant (.map first)) (answering es))
    ∀ es ∈ [[(.str "a", .int 3)], []], ∃ array s', exec (eval [] (forged es)) s = (.ok array, s') ∧
      ClosedLet array ∧ ∃ (each : Value → Value) (body : Value), letParts? array =
        some ((first ++ es).map fun e => (each e.1, each e.2.asOperand), body) := by
  intro s first answering forged es among
  have holds : (s.layers.view (.map first)).entries? = some first := rfl
  obtain ⟨after, evaluated⟩ := let_callback_closed holds
  have answers : exec (eval first (answering es)) s = (.ok (.varBindings es), s) := by
    rcases List.mem_pair.mp among with rfl | rfl <;> rfl
  obtain ⟨es', -, same, binds⟩ := after (fun inner => eval inner (answering es)) answers
  obtain rfl := same nofun
  have plain : ∀ e ∈ first ++ es, e.1.isStructural = true ∧ e.2.isStructural = true := by
    rcases List.mem_pair.mp among with rfl | rfl <;> decide
  obtain ⟨array, s', forges⟩ := binds.forges fun e member =>
    ⟨.of_isStructural _ (plain e member).1, .of_isStructural _ (plain e member).2⟩
  obtain ⟨each, body, -, read⟩ := binds.binds forges
  refine ⟨array, s', (evaluated (Answers.constant rfl)).trans forges, ?_, each, body, read⟩
  exact binds.closed (List.cons_ne_nil _ _) forges

/-- With no bindings at all a let with a callback is not closed. -/
theorem let_callback_unbound :
    let s := Session.start ⟨"/", fun _ => .ok .empty, 80⟩
    let nothing : Term := .call (.construct .bindVar) [.constant (.map [])] []
    ∃ array, exec (eval [] (CallTree.forgeTerm (letCallback (.constant (.map [])) nothing))) s =
      (.ok array, s) ∧ ¬ ClosedLet array := by
  refine ⟨.list [.str "let", .list [.str "var", .null]], rfl, ?_⟩
  rintro ⟨bound, name, read, last⟩
  cases read
  cases last

end Script

end MapStyle
