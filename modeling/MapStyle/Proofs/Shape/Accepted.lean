import MapStyle.Proofs.Layer.Setters
import MapStyle.Proofs.Shape.Tools

/-!
# What is forged passes the checks

An expression that a function or a method makes is led by an operator of the grammar, and what is
led by one passes the checks, also as a copy.  Functions that hand back what they are given make
nothing, so that what they answer passes the checks if what they are given does.

* `LedThroughout` says that every expression in a value is led by an operator.
* `Accepted` says that whatever an expression forges to passes the checks.
* `forged_passes_checks` is the statement for all functions, methods and layers.
-/

namespace MapStyle.Script

open Act

/-- Every expression in a value is led by an operator. -/
def LedThroughout (v : Value) : Prop :=
  ∀ w, Value.expression w ∈ v.parts → Shape.isExpression w = true

/-- Whatever an expression forges to passes the checks. -/
def Accepted (v : Value) : Prop :=
  ∀ s array s', exec (Act.forge v) s = (.ok array, s') → PassesChecks array

/-- An expression that is led by an operator is accepted. -/
theorem accepted_of_led {w : Value} (led : Shape.isExpression w = true) :
    Accepted (.expression w) := fun _ _ _ forges =>
  passesChecks_of_isExpression (isExpression_copied forges led)

/-! ## Expressions in changed values -/

namespace LedThroughout

/-- An expression is among its own parts. -/
theorem led {w : Value} (ledThroughout : LedThroughout (.expression w)) :
    Shape.isExpression w = true := ledThroughout w (Value.self_mem_parts _)

/-- What holds of a value holds of its parts. -/
theorem of_mem_parts {v p : Value} (ledThroughout : LedThroughout v) (part : p ∈ v.parts) :
    LedThroughout p := fun w inner => ledThroughout w (Value.parts_trans inner part)

/-- A change to leaves that keeps texts and brings in no expressions. -/
theorem mapLeaves {f : Value → Value} (texts : ∀ t, f (.str t) = .str t)
    (leaves : ∀ q w, q.isLeaf = true → Value.expression w ∉ (f q).parts) {v : Value}
    (ledThroughout : LedThroughout v) : LedThroughout (v.mapLeaves f) := by
  intro w part
  obtain ⟨q, among, ⟨leaf, inside⟩ | ⟨inner, same⟩⟩ := Value.mem_parts_mapLeaves part
  · exact (leaves q w leaf inside).elim
  · cases q <;> first | (cases inner; done) | cases same
    exact Shape.isExpression_mapLeaves texts (ledThroughout _ among)

/-- The expressions in a copy are copies of those in the value. -/
theorem copy {v w : Value} {s s' : Session} (copies : exec (Act.copy v) s = (.ok w, s'))
    (ledThroughout : LedThroughout v) : LedThroughout w := by
  rw [exec_copy] at copies
  cases copied : s.layers.copy s.nextMark v with
  | error fault =>
      rw [copied] at copies
      cases copies
  | ok c =>
      rw [copied] at copies
      cases copies
      rw [(LayerStore.copy_eq_ok copied).1]
      refine ledThroughout.mapLeaves (fun _ => rfl) fun q w leaf inside => ?_
      cases q <;> first | (cases leaf; done) | exact nomatch List.mem_singleton.mp inside

end LedThroughout

/-! ## Handing back -/

section HandingBack

variable {bound : Bound Argument} {args : Arguments} {s s' : Session} {v w : Value}

theorem ledThroughout_of_copyProperty (copies : exec (Act.copyProperty v) s = (.ok w, s'))
    (ledThroughout : LedThroughout v) : LedThroughout w.asPropertyValue := by
  have ofInner : ∀ {inner : Value} {wrap : Value → Value}, LedThroughout inner →
      (∀ u, (wrap u).asPropertyValue = u) →
      exec (do return wrap (← Act.copy inner)) s = (.ok w, s') → LedThroughout w.asPropertyValue := by
    intro inner wrap led held copies
    obtain ⟨u, s₁, copiesInner, same⟩ := bind_eq_ok.mp copies
    cases same
    rw [held]
    exact LedThroughout.copy copiesInner led
  have inner : ∀ {u : Value}, u ∈ v.children → LedThroughout u := fun child =>
    ledThroughout.of_mem_parts (Value.mem_parts_iff.mpr (Or.inr ⟨_, child, Value.self_mem_parts _⟩))
  cases v with
  | expression u => exact ofInner (inner List.mem_cons_self) (fun _ => rfl) copies
  | property u => exact ofInner (inner List.mem_cons_self) (fun _ => rfl) copies
  | constant u => exact ofInner (inner List.mem_cons_self) (fun _ => rfl) copies
  | _ =>
      cases copies
      exact ledThroughout

theorem ledThroughout_of_copyOperand (copies : exec (Act.copyOperand v) s = (.ok w, s'))
    (ledThroughout : LedThroughout v) : LedThroughout w.asOperand := by
  cases v with
  | expression u =>
      obtain ⟨copy, s₁, copiesInner, same⟩ := bind_eq_ok.mp copies
      cases same
      exact LedThroughout.copy copiesInner (ledThroughout.of_mem_parts
        (Value.mem_parts_iff.mpr (Or.inr ⟨u, List.mem_cons_self, Value.self_mem_parts u⟩)))
  | _ =>
      cases copies
      exact ledThroughout

theorem led_of_normalize {key w : Value} (led : LedThroughout key)
    (same : MatchKey.normalize key = .expression w) : Shape.isExpression w = true := by
  rcases MatchKey.normalize_cases key with kept | ⟨k, number⟩ | ⟨x, number⟩
  · obtain rfl := kept.symm.trans same
    exact led.led
  · cases number.symm.trans same
  · cases number.symm.trans same

/-- A construction that hands back an argument answers no expression that is not led by an
operator. -/
theorem Construction.led_of_handsBack {f : Construction}
    (handsBack : (Function.construct f).handsBack = true)
    (led : ∀ v ∈ args.given, LedThroughout v)
    (answers : exec (f.run args) s = (.ok (.expression w), s')) : Shape.isExpression w = true := by
  have given : ∀ v, args.fixed = [some v] → LedThroughout v := fun v same =>
    led v (List.mem_append_left _ (by rw [same]; exact List.mem_cons_self))
  unfold Construction.run at answers
  split at answers <;> try (cases handsBack; done)
  case h_1 fixed | h_2 fixed =>
    obtain ⟨u, s₁, copies, same⟩ := bind_eq_ok.mp answers
    have ledCopy := ledThroughout_of_copyOperand copies (given _ fixed)
    rw [show u.asOperand = .expression w from Except.ok.inj (congrArg Prod.fst same)] at ledCopy
    exact ledCopy.led
  case h_5 fixed => exact led_of_normalize (given _ fixed) (Except.ok.inj (congrArg Prod.fst answers))
  case h_6 fixed =>
    obtain ⟨u, s₁, copies, same⟩ := bind_eq_ok.mp answers
    have ledCopy := ledThroughout_of_copyProperty copies (given _ fixed)
    rw [show u.asPropertyValue = .expression w from Except.ok.inj (congrArg Prod.fst same)]
      at ledCopy
    exact ledCopy.led
  case h_21 => cases answers

theorem led_of_colorizeValue {text style : Value} {enabled : Bool} (led : LedThroughout text)
    (answers : colorizeValue text style enabled = .ok (.expression w)) :
    Shape.isExpression w = true := by
  unfold colorizeValue at answers
  split at answers
  · obtain ⟨_, -, same⟩ := except_bind_eq_ok.mp answers
    cases same
  · cases answers
    exact led.led

/-- The name of a config file is a text, or one of the arguments. -/
theorem mem_of_configFileOf {arguments : List Value}
    (answers : configFileOf arguments = .ok (.expression w)) : .expression w ∈ arguments := by
  have others : ∀ vs : List Value, ∀ v ∈ (leadingTexts vs).2, v ∈ vs := by
    intro vs
    induction vs with
    | nil => exact fun v member => member
    | cons first rest ih =>
        cases first
        case str t => exact fun v member => List.mem_cons_of_mem _ (ih v member)
        all_goals exact fun v member => member
  unfold configFileOf at answers
  dsimp only at answers
  split at answers
  · cases answers
  · cases answers
  · next rest _ same =>
      split at answers <;> cases answers
      exact others arguments _ (by rw [same]; exact List.mem_cons_self)

theorem led_of_configArgument (led : LedThroughout v)
    (answers : ToolFunction.answer .configArgument [some (s.layers.resolve v)] =
      .ok (.expression w)) : Shape.isExpression w = true := by
  obtain ⟨shown, shows, resolves⟩ := s.layers.exists_showsRecords s.layers.length []
  obtain ⟨arguments, isProgram, file⟩ := except_bind_eq_ok.mp answers
  have member := mem_of_configFileOf file
  have ofItems : ∀ items : List Value, Value.expression w ∈ (items.map (Value.mapLeaves shown)).drop 1 →
      (∀ item ∈ items, LedThroughout item) → Shape.isExpression w = true := by
    intro items among led
    obtain ⟨item, isItem, same⟩ := List.mem_map.mp (List.mem_of_mem_drop among)
    obtain ⟨u, rfl, rfl⟩ := shows.of_mapLeaves_eq_expression same
    exact Shape.isExpression_mapLeaves shows.str (led _ isItem).led
  have inner : ∀ item ∈ v.children, LedThroughout item := fun item child =>
    led.of_mem_parts (Value.mem_parts_iff.mpr (Or.inr ⟨item, child, Value.self_mem_parts item⟩))
  rw [LayerStore.resolve, resolves] at isProgram
  cases leaf : v.isLeaf with
  | true =>
      rcases shows.of_isLeaf leaf with kept | ⟨entries, isMap⟩
      · rw [kept] at isProgram
        cases v <;> first | (cases leaf; done) | cases isProgram
        obtain ⟨c, -, same⟩ := List.mem_map.mp (List.mem_of_mem_drop member)
        cases same
      · rw [isMap] at isProgram
        cases isProgram
  | false =>
      cases v <;> first | (cases leaf; done) | cases isProgram
      all_goals
        rw [Value.mapLeaves, Value.mapLeavesOfItems_eq] at member
        exact ofItems _ member inner

theorem ToolFunction.led_of_answer {f : ToolFunction}
    (handsBack : (Function.tool f).handsBack = true)
    (led : ∀ v rest, args.fixed = some v :: rest → LedThroughout v)
    (answers : f.answer (args.map s.layers.resolve).fixed = .ok (.expression w)) :
    Shape.isExpression w = true := by
  unfold ToolFunction.answer at answers
  split at answers <;> try (cases handsBack; done)
  · next resolved =>
      obtain ⟨first, rest, fixed, isFirst, isRest⟩ := List.map_eq_cons_iff.mp resolved
      obtain ⟨v, rfl, rfl⟩ := Option.map_eq_some_iff.mp isFirst
      exact led_of_configArgument (led _ _ fixed) answers
  · cases answers

/-- A function of the tool that hands back an argument answers no expression that is not led by an
operator. -/
theorem ToolFunction.led_of_handsBack {f : ToolFunction}
    (handsBack : (Function.tool f).handsBack = true)
    (led : ∀ v ∈ args.given, LedThroughout v)
    (answers : exec (f.run args) s = (.ok (.expression w), s')) : Shape.isExpression w = true := by
  have given : ∀ v rest, args.fixed = some v :: rest → LedThroughout v := fun v rest same =>
    led v (List.mem_append_left _ (by rw [same]; exact List.mem_cons_self))
  have ofColorize : ∀ {act : Act Value} {text style : Value} {enabled : Bool},
      LedThroughout text → act = Act.ofExcept (colorizeValue text style enabled) →
      ∀ s, exec act s = (.ok (.expression w), s') → Shape.isExpression w = true := by
    rintro _ text style enabled led rfl s answers
    rw [exec_ofExcept] at answers
    exact led_of_colorizeValue led (congrArg Prod.fst answers)
  have looks : f.look = Act.resolve := by
    cases f <;> first | rfl | cases handsBack
  unfold ToolFunction.run at answers
  split at answers <;> try (cases handsBack; done)
  case h_11 => cases answers
  case h_12 fixed =>
    cases answers
    exact (given _ _ fixed).led
  case h_13 fixed =>
    obtain ⟨_, _, -, answers⟩ := bind_eq_ok.mp answers
    obtain ⟨_, _, -, answers⟩ := bind_eq_ok.mp answers
    exact ofColorize (given _ _ fixed) rfl _ answers
  case h_14 fixed | h_15 fixed =>
    obtain ⟨_, _, -, answers⟩ := bind_eq_ok.mp answers
    exact ofColorize (given _ _ fixed) rfl _ answers
  case h_22 =>
    rw [looks, exec_bind_of_ok (Arguments.exec_mapM args fun v _ => exec_resolve v s), exec_ofExcept]
      at answers
    exact ToolFunction.led_of_answer handsBack given (congrArg Prod.fst answers)

/-- What a function hands back is led by an operator if all that it is given is. -/
theorem Function.led_of_handsBack {f : Function} (handsBack : f.handsBack = true)
    (led : ∀ v, Argument.value v ∈ bound.given → LedThroughout v)
    (answers : exec (f.run bound) s = (.ok (.expression w), s')) :
    Shape.isExpression w = true := by
  have values : ∀ {next : Arguments → Act Value},
      exec (bound.values >>= next) s = (.ok (.expression w), s') →
      ∃ args : Arguments, (∀ v ∈ args.given, LedThroughout v) ∧
        exec (next args) s = (.ok (.expression w), s') := by
    intro next answers
    rcases Bound.values_cases bound s with ⟨args, rfl⟩ | fails
    · rw [exec_bind_of_ok (Bound.exec_values args s)] at answers
      exact ⟨args, fun v given => led v (Bound.mem_given_map_of_mem _ given), answers⟩
    · rw [exec_bind, fails] at answers
      cases answers
  cases f with
  | construct f =>
      obtain ⟨args, ledArgs, answers⟩ := values answers
      exact Construction.led_of_handsBack handsBack ledArgs answers
  | tool f =>
      obtain ⟨args, ledArgs, answers⟩ := values answers
      exact ToolFunction.led_of_handsBack handsBack ledArgs answers
  | _ => cases handsBack

end HandingBack

/-! ## Forging objects -/

/-- A chain that has been started forges to an array with its operator. -/
theorem isExpression_of_forge_caseChain {conditions array : Value} {s s' : Session}
    (forges : exec (Act.forge (.caseChain conditions)) s = (.ok array, s')) :
    Shape.isExpression array = true := by
  obtain ⟨_, _, -, builds⟩ := bind_eq_ok.mp forges
  obtain ⟨_, _, makes, copies⟩ := bind_eq_ok.mp builds
  obtain ⟨_, _, -, first⟩ := bind_eq_ok.mp makes
  exact isExpression_copied copies (isExpression_copied first (Shape.isExpression_ofParts _ _))

theorem isExpression_of_forge_matchChain {subject conditions array : Value} {s s' : Session}
    (forges : exec (Act.forge (.matchChain subject conditions)) s = (.ok array, s')) :
    Shape.isExpression array = true := by
  obtain ⟨_, _, -, builds⟩ := bind_eq_ok.mp forges
  obtain ⟨_, _, makes, copies⟩ := bind_eq_ok.mp builds
  obtain ⟨_, _, -, branches⟩ := bind_eq_ok.mp makes
  obtain ⟨_, _, -, first⟩ := bind_eq_ok.mp branches
  exact isExpression_copied copies (isExpression_copied first (Shape.isExpression_ofParts _ _))

/-- What an object forges to is an expression only if it holds one. -/
theorem led_of_forge {receiver w : Value} {s s' : Session} (led : LedThroughout receiver)
    (forges : exec (Act.forge receiver) s = (.ok (.expression w), s')) :
    Shape.isExpression w = true := by
  have inner : ∀ {u : Value}, u ∈ receiver.children → LedThroughout u := fun child =>
    led.of_mem_parts (Value.mem_parts_iff.mpr (Or.inr ⟨_, child, Value.self_mem_parts _⟩))
  cases receiver
  case expression u | property u | constant u =>
    exact (LedThroughout.copy forges (inner List.mem_cons_self)).led
  case caseChain conditions => exact nomatch isExpression_of_forge_caseChain forges
  case matchChain subject conditions => exact nomatch isExpression_of_forge_matchChain forges
  all_goals cases forges

/-! ## The catalog -/

theorem yields_exampleValue {e : Example} (holds : holdsNoExpression e = true) :
    Yields (exampleValue e) fun v _ => LedThroughout v := by
  have alone : ∀ {v : Value}, (∀ w, Value.expression w ∉ v.parts) → LedThroughout v :=
    fun none w part => (none w part).elim
  cases e with
  | expression x =>
      have both := Bool.and_eq_true_iff.mp holds
      refine .pure fun _ w part => ?_
      rcases List.mem_cons.mp part with same | inner
      · cases same
        exact both.1
      · exact (noExpression_of_parts both.2 inner).elim
  | property p =>
      refine .pure fun _ => alone fun w part => ?_
      rcases List.mem_cons.mp part with same | inner
      · cases same
      · exact noExpression_of_parts holds inner
  | constant c =>
      refine .pure fun _ => alone fun w part => ?_
      rcases List.mem_cons.mp part with same | inner
      · cases same
      · exact noExpression_of_parts holds inner
  | layer l =>
      refine .bind fun _ => .bind fun _ => .pure fun _ => alone fun w part => ?_
      exact nomatch List.mem_singleton.mp part

/-- A map under names of values all whose expressions are led by operators. -/
theorem yields_named {α : Type} {items : List (String × α)} {f : α → Act Value}
    (each : ∀ item ∈ items, Yields (f item.2) fun v _ => LedThroughout v) :
    Yields (do
      let entries ← items.mapM fun item => do
        let value ← f item.2
        return (Value.str item.1, value)
      return Value.map entries) fun v _ => LedThroughout v := by
  have entry : ∀ item ∈ items, Yields (do
      let value ← f item.2
      return (Value.str item.1, value)) fun entry _ =>
        LedThroughout entry.1 ∧ LedThroughout entry.2 := fun item member =>
    .bind_of (each item member) fun v led => .pure fun _ =>
      ⟨fun w part => (nomatch List.mem_singleton.mp part), led⟩
  refine .bind_of (.mapM entry) fun entries led => .pure fun _ w part => ?_
  rcases Value.mem_parts_iff.mp part with same | ⟨u, child, inside⟩
  · cases same
  · obtain ⟨entry, isEntry, isSide⟩ := List.mem_flatMap.mp child
    rcases List.mem_pair.mp isSide with rfl | rfl
    · exact (led entry isEntry).1 w inside
    · exact (led entry isEntry).2 w inside

/-- The examples that are built hold no expression that is not led by an operator. -/
theorem yields_buildExamples (args : Arguments) :
    Yields (ToolFunction.buildExamples.run args) fun v _ => LedThroughout v := by
  have ofGroups : ∀ {groups : List (String × ExampleGroup)},
      (∀ group ∈ groups, group ∈ Catalog.groups) →
      Yields (groupsValue groups) fun v _ => LedThroughout v := fun known =>
    yields_named fun group isGroup => yields_named fun entry isEntry =>
      yields_exampleValue (holdsNoExpression_of_mem (known group isGroup) isEntry)
  have known : ∀ {group : Value} {groups : List (String × ExampleGroup)},
      groupsOf group = .ok groups → ∀ g ∈ groups, g ∈ Catalog.groups := by
    intro group groups found
    unfold groupsOf at found
    split at found
    · cases found
      exact fun _ => id
    · split at found <;> cases found
      next selects => exact Catalog.mem_groups_of_select? selects
    · obtain ⟨_, -, fault⟩ := except_bind_eq_ok.mp found
      cases fault
  have found : ∀ group, Yields (Act.ofExcept (groupsOf group))
      fun groups _ => ∀ g ∈ groups, g ∈ Catalog.groups := fun group =>
    .ofExcept fun groups found _ => known found
  generalize isBuild : ToolFunction.buildExamples = f
  unfold ToolFunction.run
  split <;> cases isBuild
  · exact .bind_of (found _) fun groups => ofGroups
  · exact .bind fun _ => .ofExcept fun v answers => nomatch answers

/-! ## All that is forged -/

/-- What the library forges passes the checks.  An expression that a function or a method makes is
accepted, and it can be forged where it is made; one that is handed back is accepted if all that was
given is.  A chain that has been started forges to what passes, and so does every expression among
the examples.  A layer that is made of texts forges to a record that passes after any calls of its
setters. -/
theorem forged_passes_checks :
    (∀ (f : Function) (bound : Bound Argument) (s s' : Session) (w : Value), f.isRaw = false →
      (f.handsBack = true → ∀ v, Argument.value v ∈ bound.given → LedThroughout v) →
      exec (f.run bound) s = (.ok (.expression w), s') →
      Accepted (.expression w) ∧ (f.handsBack = false →
        ∃ array s'', exec (Act.forge (.expression w)) s' = (.ok array, s''))) ∧
    (∀ (method : Method) (receiver : Value) (bound : Bound Argument) (s s' : Session) (w : Value),
      (method = .forge → LedThroughout receiver) →
      exec (runMethod method receiver bound) s = (.ok (.expression w), s') →
      Accepted (.expression w) ∧ (method ≠ .forge →
        ∃ array s'', exec (Act.forge (.expression w)) s' = (.ok array, s''))) ∧
    (∀ (conditions array : Value) (s s' : Session),
      exec (Act.forge (.caseChain conditions)) s = (.ok array, s') → PassesChecks array) ∧
    (∀ (subject conditions array : Value) (s s' : Session),
      exec (Act.forge (.matchChain subject conditions)) s = (.ok array, s') →
      PassesChecks array) ∧
    (∀ (args : Arguments) (s s' : Session) (v w : Value),
      exec (ToolFunction.buildExamples.run args) s = (.ok v, s') →
      Value.expression w ∈ v.parts → Accepted (.expression w)) ∧
    (∀ (kind name source : String) (sourceLayer : Option Value) (s : Session),
      (∀ v, sourceLayer = some v → v = .null ∨ v.isText = true) →
      ∃ s', exec ((Function.construct .layer).run (Bound.map .value
          ⟨[some (.str kind), some (.str name), some (.str source), sourceLayer], []⟩)) s =
            (.ok (.layer s.layers.length), s') ∧
        ∀ t, Relation.ReflTransGen (SetterStep s.layers.length) s' t →
          exec (Act.forge (.layer s.layers.length)) t = (.ok (.record s.layers.length), t) ∧
            PassesLayerChecks (.record s.layers.length) t) := by
  refine ⟨?functions, ?methods, ?caseChains, ?matchChains, ?examples, ?layers⟩
  case functions =>
    intro f bound s s' w notRaw given answers
    cases handsBack : f.handsBack with
    | false =>
        obtain ⟨led, forges⟩ := Function.yields_made notRaw handsBack bound answers w rfl
        exact ⟨accepted_of_led led, fun _ => forges⟩
    | true =>
        exact ⟨accepted_of_led (Function.led_of_handsBack handsBack (given handsBack) answers),
          nofun⟩
  case methods =>
    intro method receiver bound s s' w given answers
    rcases runMethod_forges_or_yields_made method receiver bound answers with
      ⟨isForge, s₁, forges⟩ | made
    · exact ⟨accepted_of_led (led_of_forge (given isForge) forges),
        fun makes => (makes isForge).elim⟩
    · obtain ⟨led, forges⟩ := made w rfl
      exact ⟨accepted_of_led led, fun _ => forges⟩
  case caseChains =>
    exact fun _ _ _ _ forges =>
      passesChecks_of_isExpression (isExpression_of_forge_caseChain forges)
  case matchChains =>
    exact fun _ _ _ _ _ forges =>
      passesChecks_of_isExpression (isExpression_of_forge_matchChain forges)
  case examples =>
    exact fun args s s' v w answers part =>
      accepted_of_led (yields_buildExamples args answers w part)
  case layers =>
    intro kind name source sourceLayer s isText
    obtain ⟨s', made, ordered⟩ := exec_layer kind name source isText s
    exact ⟨s', made, fun t steps =>
      ⟨exec_forge_layer _ t, (hasOrder_of_steps steps ordered).passesLayerChecks⟩⟩

/-- A root that is handed back by a property, a case chain and a layer with a zoom. -/
theorem forged_passes_checks_root :
    let session := Session.start ⟨"/", fun _ => .ok .empty, 80⟩
    let root : Value := .expression (.list [.str "sqrt", .int 4])
    (exec ((Function.style .sqrt).run (alone (.int 4))) session = (.ok root, session) ∧
        Accepted root) ∧
      (exec (runMethod .forge (.property root) ⟨[], []⟩) session = (.ok root, session) ∧
        Accepted root) ∧
      PassesChecks (.list [.str "case", .bool true, .int 1]) ∧
      ∃ s', PassesLayerChecks (.record 0)
        (exec (runMethod (.setter .minZoom) (.layer 0) (alone (.int 3))) s').2 := by
  intro session root
  let array : Value := .list [.str "sqrt", .int 4]
  obtain ⟨functions, methods, caseChains, -, -, layers⟩ := forged_passes_checks
  have makes : exec ((Function.style .sqrt).run (alone (.int 4))) session = (.ok root, session) :=
    exec_makeExpression_of_isStructural (e := ⟨array⟩) rfl session
  have handsBack : exec (runMethod .forge (.property root) ⟨[], []⟩) session = (.ok root, session) :=
    exec_copy_of_isStructural (v := root) rfl session
  have led : LedThroughout (.property root) := by
    intro w part
    simp only [Value.parts, Value.partsOfItems, root, List.mem_cons, reduceCtorEq,
      Value.expression.injEq, false_or, or_false, List.not_mem_nil, List.append_nil,
      List.cons_append, List.nil_append] at part
    rw [part]
    rfl
  have structural : (Value.list [.str "case", .bool true, .int 1]).isStructural = true := rfl
  have built : exec (Act.caseArray ⟨[(.bool true, .int 1)]⟩) session = _ :=
    exec_copy_of_isStructural structural session
  have chain : exec (Act.forge (.caseChain (.tuple [.pair (.bool true) (.int 1)]))) session =
      (.ok (.list [.str "case", .bool true, .int 1]), session) :=
    (exec_bind_of_ok built Act.copy).trans (exec_copy_of_isStructural structural session)
  have made := functions (.style .sqrt) (alone (.int 4)) session session array rfl
    (by rintro ⟨⟩) makes
  have forged := methods .forge (.property root) ⟨[], []⟩ session session array (fun _ => led)
    handsBack
  refine ⟨⟨makes, made.1⟩, ⟨handsBack, forged.1⟩, caseChains _ _ _ _ chain, ?_⟩
  obtain ⟨s', -, after⟩ := layers "fill" "a" "s" none session (by rintro _ ⟨⟩)
  have suits : ∀ v, Argument.value v ∈ (alone (.int 3)).given →
      LayerSetter.minZoom.Suits v := by
    intro v given
    cases List.mem_singleton.mp given
    rfl
  exact ⟨s', (after _ (.single (.call .minZoom (alone (.int 3)) suits))).2⟩

end MapStyle.Script
