import MapStyle.Script.Eval
import MapStyle.Proofs.Script.Acts

/-!
# Arguments of a call

How arguments get from the terms of a call to the parameters of a function: binding them does not
look at them, so it commutes with any change to each of them.

* `Arity.bind_map` is that statement, `Bound.exec_values` takes bound arguments that are values.
* `Arguments.exec_mapM` runs a step over all arguments that leaves the session as it is.
* `Arguments.of_leaf` and its companions say what holds of an expression that is built from bound
  arguments.
-/

namespace MapStyle.Script

variable {α β γ : Type}

/-- A change to each bound argument. -/
def Bound.map (f : α → β) (bound : Bound α) : Bound β :=
  ⟨bound.fixed.map (Option.map f), bound.rest.map f⟩

/-- Every argument that is given. -/
def Bound.given (bound : Bound α) : List α := bound.fixed.filterMap id ++ bound.rest

/-- A change that leaves each argument as it is. -/
theorem Bound.map_eq_self {f : α → α} {args : Bound α} (each : ∀ a ∈ args.given, f a = a) :
    args.map f = args := by
  have fixed : args.fixed.map (Option.map f) = args.fixed := by
    refine (List.map_congr_left fun o member => ?_).trans (List.map_id _)
    cases o with
    | none => rfl
    | some a =>
        have given : a ∈ args.fixed.filterMap id := List.mem_filterMap.mpr ⟨some a, member, rfl⟩
        exact congrArg some (each a (List.mem_append_left _ given))
  have rest : args.rest.map f = args.rest :=
    (List.map_congr_left fun a member => each a (List.mem_append_right _ member)).trans
      (List.map_id _)
  rw [Bound.map, fixed, rest]

/-- What is given after a change to each argument. -/
theorem Bound.mem_given_map {g : α → β} {args : Bound α} {b : β}
    (member : b ∈ (args.map g).given) : ∃ a ∈ args.given, g a = b := by
  unfold Bound.given Bound.map at *
  rw [List.filterMap_map] at member
  rcases List.mem_append.mp member with fixed | rest
  · obtain ⟨o, found, kept⟩ := List.mem_filterMap.mp fixed
    cases o with
    | none => cases kept
    | some a =>
        exact ⟨a, List.mem_append_left _ (List.mem_filterMap.mpr ⟨some a, found, rfl⟩),
          Option.some.inj kept⟩
  · obtain ⟨a, found, kept⟩ := List.mem_map.mp rest
    exact ⟨a, List.mem_append_right _ found, kept⟩

/-- What is given stays given after a change to each argument. -/
theorem Bound.mem_given_map_of_mem (g : α → β) {args : Bound α} {a : α} (member : a ∈ args.given) :
    g a ∈ (args.map g).given := by
  unfold Bound.given Bound.map at *
  rw [List.filterMap_map]
  rcases List.mem_append.mp member with fixed | rest
  · obtain ⟨o, found, kept⟩ := List.mem_filterMap.mp fixed
    exact List.mem_append_left _ (List.mem_filterMap.mpr
      ⟨o, found, congrArg (Option.map g) kept⟩)
  · exact List.mem_append_right _ (List.mem_map_of_mem rest)

theorem namedArgument_map (f : α → β) (named : List (Nat × α)) (parameter : Nat) :
    namedArgument (named.map fun argument => (argument.1, f argument.2)) parameter =
      (namedArgument named parameter).map f := by
  induction named with
  | nil => rfl
  | cons argument named ih =>
      simp only [namedArgument, List.map_cons, List.find?_cons] at ih ⊢
      cases argument.1 == parameter
      · exact ih
      · rfl

theorem argumentAt_map (f : α → β) (args : List α) (named : List (Nat × α)) (parameter : Nat) :
    argumentAt (args.map f) (named.map fun argument => (argument.1, f argument.2)) parameter =
      (argumentAt args named parameter).map f := by
  unfold argumentAt
  rw [List.getElem?_map, namedArgument_map]
  cases args[parameter]? <;> rfl

/-- Arguments are put under parameters without being looked at. -/
theorem Arity.bind_map (arity : Arity) (f : α → β) (args : List α) (named : List (Nat × α)) :
    arity.bind (args.map f) (named.map fun argument => (argument.1, f argument.2)) =
      (arity.bind args named).map (Bound.map f) := by
  have places : argumentAt (args.map f) (named.map fun argument => (argument.1, f argument.2)) =
      Option.map f ∘ argumentAt args named := funext (argumentAt_map f args named)
  unfold Arity.bind
  rw [List.all_map, List.length_map, places]
  simp only [Function.comp_def]
  split
  · simp [Bound.map, List.map_drop]
  · rfl

/-- What is bound was given. -/
theorem Arity.mem_of_bind {arity : Arity} {args : List α} {named : List (Nat × α)} {bound : Bound α}
    (binds : arity.bind args named = some bound) {a : α} (member : a ∈ bound.given) :
    a ∈ args ∨ a ∈ named.map Prod.snd := by
  unfold Arity.bind at binds
  split at binds
  · cases binds
    rcases List.mem_append.mp member with fixed | rest
    · obtain ⟨o, mem, rfl⟩ := List.mem_filterMap.mp fixed
      obtain ⟨parameter, -, place⟩ := List.mem_map.mp mem
      unfold argumentAt at place
      split at place
      · next found =>
          cases place
          exact Or.inl (List.mem_of_getElem? found)
      · obtain ⟨argument, found, rfl⟩ := Option.map_eq_some_iff.mp place
        exact Or.inr (List.mem_map.mpr ⟨argument, List.mem_of_find?_eq_some found, rfl⟩)
    · exact Or.inl (List.mem_of_mem_drop rest)
  · cases binds

/-! ## Bound values -/

/-- Bound arguments that are values are those values. -/
theorem Bound.exec_values (bound : Arguments) (s : Session) :
    Act.exec (Bound.values (bound.map .value)) s = (.ok bound, s) := by
  unfold Bound.values Bound.map
  dsimp only
  rw [List.mapM_map, List.mapM_map]
  have rest : Act.exec (bound.rest.mapM (Argument.toValue ∘ Argument.value)) s =
      (.ok (bound.rest.map id), s) := Act.exec_mapM fun _ _ => rfl
  rw [Act.exec_bind_of_ok (Act.exec_mapM (g := id) ?_), Act.exec_bind_of_ok rest, List.map_id,
    List.map_id]
  · rfl
  · intro argument _
    cases argument <;> rfl

/-- A step that answers on some items and fails in one way on the others, leaving the session as it
is, is run over a list. -/
theorem mapM_answers_or_fails {f : α → Act β} {fault : Fault} {g : γ → α} {s : Session}
    (each : ∀ a, (∃ c b, a = g c ∧ Act.exec (f a) s = (.ok b, s)) ∨
      Act.exec (f a) s = (.error fault, s)) (items : List α) :
    (∃ cs bs, items = List.map g cs ∧ Act.exec (items.mapM f) s = (.ok bs, s)) ∨
      Act.exec (items.mapM f) s = (.error fault, s) := by
  induction items with
  | nil => exact Or.inl ⟨[], [], rfl, rfl⟩
  | cons a items ih =>
      rw [List.mapM_cons]
      rcases each a with ⟨c, b, rfl, answers⟩ | fails
      · rcases ih with ⟨cs, bs, rfl, rest⟩ | fails
        · refine Or.inl ⟨c :: cs, b :: bs, rfl, ?_⟩
          rw [Act.exec_bind_of_ok answers, Act.exec_bind_of_ok rest]
          rfl
        · rw [Act.exec_bind_of_ok answers, Act.exec_bind, fails]
          exact Or.inr rfl
      · rw [Act.exec_bind, fails]
        exact Or.inr rfl

theorem exec_toValue (argument : Argument) (s : Session) :
    (∃ v w, argument = .value v ∧ Act.exec argument.toValue s = (.ok w, s)) ∨
      Act.exec argument.toValue s = (.error .mistyped, s) := by
  cases argument with
  | value v => exact Or.inl ⟨v, v, rfl, rfl⟩
  | callback run => exact Or.inr rfl

/-- Bound arguments are values, or there is a callback where a value must be. -/
theorem Bound.values_cases (bound : Bound Argument) (s : Session) :
    (∃ args : Arguments, bound = args.map .value) ∨
      Act.exec bound.values s = (.error .mistyped, s) := by
  have followed : ∀ {α β : Type} {act : Act α} {next : α → Act β} {first whole : Prop},
      (first ∨ Act.exec act s = (.error .mistyped, s)) →
      (first → whole ∨ Act.exec (act >>= next) s = (.error .mistyped, s)) →
      whole ∨ Act.exec (act >>= next) s = (.error .mistyped, s) := by
    rintro α β act next first whole (holds | fails) after
    · exact after holds
    · rw [Act.exec_bind, fails]
      exact Or.inr rfl
  unfold Bound.values
  refine followed (mapM_answers_or_fails (g := Option.map Argument.value) ?_ bound.fixed) ?_
  · rintro (_ | argument)
    · exact Or.inl ⟨none, none, rfl, rfl⟩
    · rcases exec_toValue argument s with ⟨v, w, rfl, answers⟩ | fails
      · exact Or.inl ⟨some v, some w, rfl, by rw [Act.exec_bind_of_ok answers, Act.exec_pure]⟩
      · exact Or.inr (by rw [Act.exec_bind, fails])
  · rintro ⟨fixed, values, sameFixed, answersFixed⟩
    rw [Act.exec_bind_of_ok answersFixed]
    refine followed (mapM_answers_or_fails (fun argument => exec_toValue argument s) bound.rest) ?_
    rintro ⟨rest, -, sameRest, -⟩
    refine Or.inl ⟨⟨fixed, rest⟩, ?_⟩
    rw [Bound.map, ← sameFixed, ← sameRest]

/-- A change to every argument that leaves the session as it is. -/
theorem Arguments.exec_mapM {f : Value → Act Value} {g : Value → Value} {s : Session}
    (args : Arguments) (each : ∀ v ∈ args.given, Act.exec (f v) s = (.ok (g v), s)) :
    Act.exec (args.mapM f) s = (.ok (args.map g), s) := by
  have rest : Act.exec (args.rest.mapM f) s = (.ok (args.rest.map g), s) :=
    Act.exec_mapM fun v member => each v (List.mem_append_right _ member)
  unfold Arguments.mapM
  rw [Act.exec_bind_of_ok (Act.exec_mapM (g := Option.map g) ?_), Act.exec_bind_of_ok rest]
  · rfl
  · intro argument member
    cases argument with
    | none => rfl
    | some v =>
        have given : v ∈ args.given :=
          List.mem_append_left _ (List.mem_filterMap.mpr ⟨some v, member, rfl⟩)
        rw [Option.map_some]
        dsimp only
        rw [Act.exec_bind_of_ok (each v given)]
        rfl

/-- Arguments that are known by what they hold are seen as they are. -/
theorem Arguments.exec_resolve_of_isStructural {args : Arguments} {s : Session}
    (structural : ∀ v ∈ args.given, v.isStructural = true) :
    Act.exec (args.mapM Act.resolve) s = (.ok args, s) := by
  have seen : ∀ v ∈ args.given, Act.exec (Act.resolve v) s = (.ok (id v), s) := by
    intro v member
    rw [Act.exec_resolve, LayerStore.resolve,
      LayerStore.resolveWithin_of_isStructural _ _ _ (structural v member)]
    rfl
  rw [Arguments.exec_mapM args seen, Bound.map_eq_self (f := id) fun _ _ => rfl]

/-- The JSON text that is asked for is that of what the value is at that moment, with the present
records in it. -/
theorem Act.exec_jsonText (v : Value) (indent : Int) (s : Session) :
    Act.exec ((Function.tool .jsonText).run (Bound.map .value ⟨[some v, some (.int indent)], []⟩)) s =
      ((Json.writeText (s.layers.resolve v) indent).map .str, s) := by
  let args : Arguments := ⟨[some v, some (.int indent)], []⟩
  have number : s.layers.resolve (.int indent) = .int indent :=
    LayerStore.resolveWithin_of_isStructural _ _ _ rfl
  have seen : args.map s.layers.resolve = ⟨[some (s.layers.resolve v), some (.int indent)], []⟩ :=
    congrArg (fun n => (⟨[some (s.layers.resolve v), some n], []⟩ : Arguments)) number
  have resolves : Act.exec (args.mapM Act.resolve) s = (.ok (args.map s.layers.resolve), s) :=
    Arguments.exec_mapM args fun _ _ => rfl
  rw [Function.run, Act.exec_bind_of_ok (Bound.exec_values _ s)]
  change Act.exec (do
    let args ← args.mapM Act.resolve
    Act.ofExcept (ToolFunction.jsonText.answer args.fixed)) s = _
  rw [Act.exec_bind_of_ok resolves, seen, Act.exec_ofExcept]
  change (do return Value.str (← Json.writeText (s.layers.resolve v) indent), s) = _
  cases Json.writeText (s.layers.resolve v) indent <;> rfl

/-! ## Forms -/

namespace Arguments

variable {P : Expression → Prop} {args : Arguments} {e : Expression}

/-- A bound argument is given. -/
theorem mem_given_of_fixed {v : Value} (member : some v ∈ args.fixed) : v ∈ args.given :=
  List.mem_append_left _ (List.mem_filterMap.mpr ⟨some v, member, rfl⟩)

theorem of_leaf {g : Expression} (form : P g) (runs : args.leaf g = .ok e) : P e := by
  unfold leaf at runs
  split at runs <;> cases runs
  exact form

theorem of_unary {g : Value → Expression} (form : ∀ a ∈ args.given, P (g a))
    (runs : args.unary g = .ok e) : P e := by
  unfold unary at runs
  split at runs <;> cases runs
  next a fixed => exact form a (mem_given_of_fixed (by simp [fixed]))

theorem of_binary {g : Value → Value → Expression}
    (form : ∀ a ∈ args.given, ∀ b ∈ args.given, P (g a b)) (runs : args.binary g = .ok e) :
    P e := by
  unfold binary at runs
  split at runs <;> cases runs
  next a b fixed =>
    exact form a (mem_given_of_fixed (by simp [fixed])) b (mem_given_of_fixed (by simp [fixed]))

theorem of_many {g : List Value → Expression} (form : ∀ vs, (∀ v ∈ vs, v ∈ args.given) → P (g vs))
    (runs : args.many g = .ok e) : P e := by
  unfold many at runs
  split at runs <;> cases runs
  exact form _ fun _ member => List.mem_append_right _ member

theorem of_oneAndMany {g : Value → List Value → Expression}
    (form : ∀ a ∈ args.given, ∀ vs, (∀ v ∈ vs, v ∈ args.given) → P (g a vs))
    (runs : args.oneAndMany g = .ok e) : P e := by
  unfold oneAndMany at runs
  split at runs <;> cases runs
  next a fixed =>
    exact form a (mem_given_of_fixed (by simp [fixed])) _ fun _ member =>
      List.mem_append_right _ member

theorem of_twoAndMany {g : Value → Value → List Value → Expression}
    (form : ∀ a ∈ args.given, ∀ b ∈ args.given, ∀ vs, (∀ v ∈ vs, v ∈ args.given) → P (g a b vs))
    (runs : args.twoAndMany g = .ok e) : P e := by
  unfold twoAndMany at runs
  split at runs <;> cases runs
  next a b fixed =>
    exact form a (mem_given_of_fixed (by simp [fixed])) b (mem_given_of_fixed (by simp [fixed])) _
      fun _ member => List.mem_append_right _ member

end Arguments

end MapStyle.Script
