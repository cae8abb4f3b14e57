import Mathlib.Data.List.Basic
import MapStyle.Proofs.Script.Evaluation

/-!
# What a call gives

A call gives arguments by position and under parameters.  Where two calls differ only in that one of
them gives one argument more, the arguments of the other get new places: `Given.insert` is that
change before arguments are put under parameters, `Bound.insert` is the change after it.

* `Given.bind_insert_first`, `Given.bind_insert_rest` and `Given.bind_insert_second` say that the
  two agree.
* `Given.exec_call` and `Given.exec_method` leave of a call only what the function or the method
  does with the bound values.
-/

namespace MapStyle.Script

open Act

variable {α β : Type}

/-- The place of an argument among the others: before all, after the first, or none. -/
inductive Seat where
  | first | second | nowhere
deriving DecidableEq, Repr

/-- What a call gives: arguments by position, and arguments under parameters. -/
structure Given (α : Type) where
  positional : List α
  named : List (Nat × α)

namespace Given

/-- The arguments put under the parameters of a function. -/
def bind (arity : Arity) (args : Given α) : Option (Bound α) :=
  arity.bind args.positional args.named

/-- Every argument has a place among the parameters of a function, and no two have the same. -/
def Fits (arity : Arity) (args : Given α) : Prop :=
  (∀ argument ∈ args.named, max arity.positional args.positional.length ≤ argument.1 ∧
      argument.1 < arity.parameters) ∧
    (arity.takesRest = true ∨ args.positional.length ≤ arity.parameters)

/-- The arguments in their places. -/
def bound (arity : Arity) (args : Given α) : Bound α :=
  ⟨(List.range arity.parameters).map (argumentAt args.positional args.named),
    args.positional.drop arity.parameters⟩

theorem bind_of_fits {arity : Arity} {args : Given α} (fits : args.Fits arity) :
    args.bind arity = some (args.bound arity) := by
  unfold bind Arity.bind
  rw [if_pos]
  · rfl
  · simpa [Fits] using fits

theorem bind_of_not_fits {arity : Arity} {args : Given α} (lacks : ¬ args.Fits arity) :
    args.bind arity = none := by
  unfold bind Arity.bind
  rw [if_neg]
  simpa [Fits] using lacks

/-- Bound arguments all had places. -/
theorem fits_of_bind {arity : Arity} {args : Given α} {bound : Bound α}
    (binds : args.bind arity = some bound) : args.Fits arity ∧ bound = args.bound arity := by
  by_cases fits : args.Fits arity
  · rw [bind_of_fits fits] at binds
    cases binds
    exact ⟨fits, rfl⟩
  · rw [bind_of_not_fits fits] at binds
    cases binds

end Given

namespace Seat

/-- The parameter that an argument goes under when one argument more stands in the seat. -/
def shift : Seat → Nat → Nat
  | .first, parameter => parameter + 1
  | .second, 0 => 0
  | .second, parameter + 1 => parameter + 2
  | .nowhere, parameter => parameter

theorem shift_injective (seat : Seat) : Function.Injective seat.shift := by
  intro i j same
  cases seat with
  | first => exact Nat.succ.inj same
  | second =>
      cases i <;> cases j <;> simp only [shift] at same <;> omega
  | nowhere => exact same

/-- An argument under the parameter that it goes to. -/
def move (seat : Seat) (argument : Nat × α) : Nat × α := (seat.shift argument.1, argument.2)

end Seat

/-- As many places as there are parameters. -/
theorem Given.length_of_bind {arity : Arity} {args : Given α} {bound : Bound α}
    (binds : args.bind arity = some bound) : bound.fixed.length = arity.parameters := by
  obtain ⟨-, rfl⟩ := Given.fits_of_bind binds
  simp [Given.bound]

/-- The same arguments with one more in a seat.  What stands second, with nothing by position before
it, is given under its parameter. -/
def Given.insert (seat : Seat) (more : α) (args : Given α) : Given α :=
  let named := args.named.map seat.move
  match seat, args.positional with
  | .first, positional => ⟨more :: positional, named⟩
  | .second, [] => ⟨[], (1, more) :: named⟩
  | .second, first :: others => ⟨first :: more :: others, named⟩
  | .nowhere, positional => ⟨positional, named⟩

/-- The same bound arguments with one more in a seat; the first one is a further argument if the
function has no parameters. -/
def Bound.insert (seat : Seat) (parameters : Nat) (more : α) (bound : Bound α) : Bound α :=
  match seat, parameters with
  | .first, 0 => ⟨bound.fixed, more :: bound.rest⟩
  | .first, _ + 1 => ⟨some more :: bound.fixed, bound.rest⟩
  | .second, _ => ⟨bound.fixed.take 1 ++ some more :: bound.fixed.drop 1, bound.rest⟩
  | .nowhere, _ => bound

/-- One argument more, and a change to each argument. -/
theorem Bound.map_insert (f : α → β) (seat : Seat) (parameters : Nat) (more : α) (bound : Bound α) :
    (bound.insert seat parameters more).map f =
      (bound.map f).insert seat parameters (f more) := by
  unfold Bound.insert Bound.map
  cases seat with
  | first => cases parameters <;> rfl
  | second => simp [List.map_take]
  | nowhere => rfl

namespace Given

/-! ## The argument of a parameter -/

theorem namedArgument_move (seat : Seat) (named : List (Nat × α)) (parameter : Nat) :
    namedArgument (named.map seat.move) (seat.shift parameter) = namedArgument named parameter := by
  have sameTest : (fun argument : Nat × α => argument.1 == seat.shift parameter) ∘ seat.move =
      fun argument => argument.1 == parameter := by
    funext argument
    rw [Bool.eq_iff_iff]
    simpa [Seat.move] using seat.shift_injective.eq_iff
  unfold namedArgument
  rw [List.find?_map, Option.map_map, sameTest]
  rfl

variable {args : Given α} {more : α}

/-- After the first seat, the arguments are the old ones. -/
theorem argumentAt_first (parameter : Nat) :
    argumentAt (more :: args.positional) (args.named.map Seat.first.move) (parameter + 1) =
      argumentAt args.positional args.named parameter := by
  unfold argumentAt
  rw [List.getElem?_cons_succ]
  cases args.positional[parameter]? with
  | some argument => rfl
  | none => exact namedArgument_move .first args.named parameter

/-- Before the second seat and after it, the arguments are the old ones. -/
theorem argumentAt_second (parameter : Nat) :
    argumentAt (args.insert .second more).positional (args.insert .second more).named
      (Seat.second.shift parameter) = argumentAt args.positional args.named parameter := by
  have moved := namedArgument_move .second args.named parameter
  unfold argumentAt Given.insert
  rcases args with ⟨_ | ⟨first, others⟩, named⟩
  · cases parameter with
    | zero => simpa [Seat.shift, namedArgument] using moved
    | succ parameter => simpa [Seat.shift, namedArgument] using moved
  · cases parameter with
    | zero => rfl
    | succ parameter =>
        dsimp only [Seat.shift] at moved ⊢
        rw [List.getElem?_cons_succ, List.getElem?_cons_succ, List.getElem?_cons_succ]
        cases others[parameter]? with
        | some argument => rfl
        | none => exact moved

/-- In the second seat is the argument that came in. -/
theorem argumentAt_second_self :
    argumentAt (args.insert .second more).positional (args.insert .second more).named 1 =
      some more := by
  rcases args with ⟨_ | ⟨first, others⟩, named⟩ <;> rfl

/-! ## Binding -/

/-- Arguments that have places if others do are bound if those are. -/
theorem bind_eq_map {arity arity' : Arity} {args args' : Given α} {f : Bound α → Bound α}
    (fits : args'.Fits arity' ↔ args.Fits arity)
    (places : args'.bound arity' = f (args.bound arity)) :
    args'.bind arity' = (args.bind arity).map f := by
  by_cases all : args.Fits arity
  · rw [bind_of_fits all, bind_of_fits (fits.mpr all), places]
    rfl
  · rw [bind_of_not_fits all, bind_of_not_fits fun all' => all (fits.mp all')]
    rfl

/-- In the first seat of a function that has parameters. -/
theorem bind_insert_first (n : Nat) (takesRest : Bool) :
    (args.insert .first more).bind ⟨n + 1, 0, takesRest⟩ =
      (args.bind ⟨n, 0, takesRest⟩).map (Bound.insert .first (n + 1) more) := by
  apply bind_eq_map
  · simp only [Fits, Given.insert, List.forall_mem_map, Seat.move, Seat.shift, List.length_cons]
    simp
  · have places : (List.range (n + 1)).map
          (argumentAt (more :: args.positional) (args.named.map Seat.first.move)) =
        some more :: (List.range n).map (argumentAt args.positional args.named) := by
      rw [List.range_succ_eq_map, List.map_cons, List.map_map]
      exact congrArg₂ List.cons rfl (List.map_congr_left fun parameter _ =>
        argumentAt_first parameter)
    exact congrArg (Bound.mk · _) places

/-- In the first seat of a function that has none. -/
theorem bind_insert_rest :
    (args.insert .first more).bind (.atLeast 0) =
      (args.bind (.atLeast 0)).map (Bound.insert .first 0 more) := by
  apply bind_eq_map
  · simp only [Fits, Given.insert, Arity.atLeast, List.forall_mem_map, true_or, and_true]
    exact forall₂_congr fun argument _ => by omega
  · rfl

theorem fits_insert_second (n : Nat) (takesRest : Bool) :
    (args.insert .second more).Fits ⟨n + 2, 0, takesRest⟩ ↔ args.Fits ⟨n + 1, 0, takesRest⟩ := by
  have after : ∀ k parameter : Nat, k + 2 ≤ Seat.second.shift parameter ↔ k + 1 ≤ parameter := by
    intro k parameter
    cases parameter <;> simp only [Seat.shift] <;> omega
  have before : ∀ parameter : Nat, Seat.second.shift parameter < n + 2 ↔ parameter < n + 1 := by
    intro parameter
    cases parameter <;> simp only [Seat.shift] <;> omega
  rcases args with ⟨_ | ⟨first, others⟩, named⟩
  · simp only [Fits, Given.insert, List.forall_mem_cons, List.forall_mem_map, Seat.move,
      List.length_nil, Nat.max_self, Nat.zero_le, true_and, or_true, and_true, before]
    simp
  · simp only [Fits, Given.insert, List.forall_mem_map, Seat.move, List.length_cons, Nat.zero_max,
      after, before, Nat.add_le_add_iff_right]

/-- In the second seat. -/
theorem bind_insert_second (n : Nat) (takesRest : Bool) :
    (args.insert .second more).bind ⟨n + 2, 0, takesRest⟩ =
      (args.bind ⟨n + 1, 0, takesRest⟩).map (Bound.insert .second (n + 2) more) := by
  apply bind_eq_map (fits_insert_second n takesRest)
  have places : (List.range (n + 2)).map (argumentAt (args.insert .second more).positional
        (args.insert .second more).named) =
      ((List.range (n + 1)).map (argumentAt args.positional args.named)).take 1 ++
        some more ::
          ((List.range (n + 1)).map (argumentAt args.positional args.named)).drop 1 := by
    simp only [List.range_succ_eq_map, List.map_cons, List.map_map, List.take_succ_cons,
      List.take_zero, List.drop_succ_cons, List.drop_zero, List.cons_append, List.nil_append]
    refine congrArg₂ List.cons (argumentAt_second 0) (congrArg₂ List.cons argumentAt_second_self
      (List.map_congr_left fun parameter _ => ?_))
    exact argumentAt_second (parameter + 1)
  have rest : (args.insert .second more).positional.drop (n + 2) =
      args.positional.drop (n + 1) := by
    rcases args with ⟨_ | ⟨first, others⟩, named⟩ <;> rfl
  exact congrArg₂ Bound.mk places rest

/-- With a parameter more, for which there is no argument. -/
theorem bind_more {n : Nat} {bound : Bound α} (binds : args.bind (.exactly n) = some bound) :
    args.bind (.exactly (n + 1)) = some ⟨bound.fixed ++ [none], bound.rest⟩ := by
  obtain ⟨⟨named, room⟩, rfl⟩ := fits_of_bind binds
  have few : args.positional.length ≤ n := by simpa [Arity.exactly] using room
  have fits : args.Fits (.exactly (n + 1)) := by
    refine ⟨fun argument member => ?_, Or.inr (Nat.le_succ_of_le few)⟩
    have := named argument member
    simp only [Arity.exactly] at this ⊢
    omega
  have absent : argumentAt args.positional args.named n = none := by
    have noName : namedArgument args.named n = none := by
      unfold namedArgument
      rw [Option.map_eq_none_iff, List.find?_eq_none]
      intro argument member
      have := (named argument member).2
      simp only [Arity.exactly] at this
      simp only [beq_iff_eq]
      omega
    unfold argumentAt
    rw [List.getElem?_eq_none few, noName]
  rw [bind_of_fits fits]
  unfold Given.bound Arity.exactly
  dsimp only
  rw [List.range_succ, List.map_append, List.map_singleton, absent,
    List.drop_eq_nil_of_le few, List.drop_eq_nil_of_le (Nat.le_succ_of_le few)]

/-! ## Terms -/

/-- A call of a function. -/
def call (f : Function) (terms : Given Term) : Term :=
  .call f terms.positional (terms.named.map fun term => (⟨term.1, term.1⟩, term.2))

/-- What a method of an expression is given. -/
def toExpression (terms : List Term) (named : List (Parameter × Term)) : Given Term :=
  ⟨terms, named.map fun term => (term.1.ofExpression, term.2)⟩

/-- Each argument has a value, and getting it leaves the session as it is. -/
structure Answer (scope : Entries) (s : Session) (terms : Given Term) (args : Given Value) :
    Prop where
  positional : List.Forall₂ (Answers scope s) terms.positional args.positional
  named : List.Forall₂ (fun term arg => term.1 = arg.1 ∧ Answers scope s term.2 arg.2)
    terms.named args.named

section Terms

variable {scope : Entries} {s : Session} {terms : Given Term} {args : Given Value}

theorem Answer.insert (seat : Seat) {term : Term} {v : Value} (answers : Answers scope s term v)
    (each : terms.Answer scope s args) :
    (terms.insert seat term).Answer scope s (args.insert seat v) := by
  obtain ⟨terms, namedTerms⟩ := terms
  obtain ⟨args, named⟩ := args
  obtain ⟨positional, eachNamed⟩ := each
  have moved : List.Forall₂ (fun term arg => term.1 = arg.1 ∧ Answers scope s term.2 arg.2)
      (namedTerms.map seat.move) (named.map seat.move) := by
    rw [List.forall₂_map_left_iff, List.forall₂_map_right_iff]
    exact eachNamed.imp fun _ _ ⟨same, holds⟩ => ⟨congrArg seat.shift same, holds⟩
  cases seat with
  | first => exact ⟨.cons answers positional, moved⟩
  | second =>
      cases positional with
      | nil => exact ⟨.nil, .cons ⟨rfl, answers⟩ moved⟩
      | cons first others => exact ⟨.cons first (.cons answers others), moved⟩
  | nowhere => exact ⟨positional, moved⟩

/-- Arguments under parameters are evaluated, and each goes under the parameter that is meant. -/
theorem exec_evalNamed {receiver : Option Value} {named : List (Parameter × Term)}
    {values : List (Nat × Value)}
    (each : List.Forall₂ (fun term arg => term.1.under receiver = arg.1 ∧
      Answers scope s term.2 arg.2) named values) :
    ∃ evaluated, exec (evalNamed scope named) s = (.ok evaluated, s) ∧
      evaluated.map (fun argument => (argument.1.under receiver, argument.2)) =
        values.map fun argument => (argument.1, .value argument.2) := by
  induction each with
  | nil => exact ⟨[], by rw [evalNamed, exec_pure], rfl⟩
  | @cons term value _ _ both _ ih =>
      obtain ⟨parameter, term⟩ := term
      obtain ⟨evaluated, runs, places⟩ := ih
      refine ⟨(parameter, .value value.2) :: evaluated, ?_, ?_⟩
      · rw [evalNamed, exec_bind_of_ok both.2, exec_bind_of_ok runs, exec_pure]
        rintro body rfl
        exact Answers.not_callback both.2
      · rw [List.map_cons, List.map_cons, places]
        exact congrArg (· :: _) (congrArg (·, _) both.1)

/-- Bound values are what arguments under parameters are bound to. -/
theorem exec_bindArguments {receiver : Option Value} {arity : Arity} {bound : Arguments}
    {evaluated : List (Parameter × Argument)}
    (places : evaluated.map (fun argument => (argument.1.under receiver, argument.2)) =
      args.named.map fun argument => (argument.1, .value argument.2))
    (binds : args.bind arity = some bound) :
    exec (bindArguments arity receiver (args.positional.map .value) evaluated) s =
      (.ok (bound.map .value), s) := by
  unfold Given.bind at binds
  unfold bindArguments
  rw [places, Arity.bind_map, binds]
  rfl

/-- Of a call of a function, what the function does is left. -/
theorem exec_call (f : Function) {bound : Arguments} (each : terms.Answer scope s args)
    (binds : args.bind f.arity = some bound) :
    exec (eval scope (terms.call f)) s = exec (f.run (bound.map .value)) s := by
  have meant : List.Forall₂ (fun term arg => term.1.under none = arg.1 ∧
      Answers scope s term.2 arg.2)
        (terms.named.map fun term => ((⟨term.1, term.1⟩ : Parameter), term.2)) args.named :=
    List.forall₂_map_left_iff.mpr each.named
  obtain ⟨evaluated, runs, places⟩ := exec_evalNamed meant
  rw [call, eval, exec_bind_of_ok (Answers.all_arguments each.positional), exec_bind_of_ok runs,
    exec_bind_of_ok (exec_bindArguments places binds)]

/-- Of a call of a method of an expression, what the method does is left. -/
theorem exec_method {method : Method} {word : String} {receiver : Term} {forged : Value}
    {positional : List Term} {named : List (Parameter × Term)} {arity : Arity} {bound : Arguments}
    (answers : Answers scope s receiver (.expression forged))
    (each : (toExpression positional named).Answer scope s args) (plain : method ≠ .forgeWith)
    (has : method.arity? (.expression forged) = some arity) (binds : args.bind arity = some bound) :
    exec (eval scope (.method method word receiver positional named)) s =
      exec (method.run (.expression forged) bound) s := by
  have meant : List.Forall₂ (fun term arg => term.1.under (some (.expression forged)) = arg.1 ∧
      Answers scope s term.2 arg.2) named args.named :=
    List.forall₂_map_left_iff.mp each.named
  obtain ⟨evaluated, runs, places⟩ := exec_evalNamed meant
  have inOrder : exec (evalArguments scope positional) s =
      (.ok (args.positional.map .value), s) := Answers.all_arguments each.positional
  rw [eval, exec_bind_of_ok answers, has]
  dsimp only
  rw [exec_bind_of_ok inOrder, exec_bind_of_ok runs,
    exec_bind_of_ok (exec_bindArguments places binds), Answers.exec_runMethod plain]

end Terms

end Given

end MapStyle.Script
