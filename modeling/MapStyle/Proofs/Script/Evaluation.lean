import Mathlib.Data.List.Forall2
import MapStyle.Proofs.Script.Calls

/-!
# Terms that answer without a trace

`Answers` is the case of evaluation that a pure translation of terms needs: a term has a value, and
the session is afterwards what it was before.

* `Answers.all_arguments` and its companions take it to lists of terms.
* `Answers.exec_call` and `Answers.exec_method` leave of a call only what the function or the method
  does with the bound values.
-/

namespace MapStyle.Script

open Act

/-! ## Evaluating arguments -/

theorem exec_evalArguments_nil (scope : Entries) (s : Session) :
    exec (evalArguments scope []) s = (.ok [], s) := by
  rw [evalArguments, exec_pure]

theorem exec_evalNamed_nil (scope : Entries) (s : Session) :
    exec (evalNamed scope []) s = (.ok [], s) := by
  rw [evalNamed, exec_pure]

/-! ## Answers -/

/-- A term has a value in a scope and a session, and getting it leaves the session as it is. -/
def Answers (scope : Entries) (s : Session) (term : Term) (v : Value) : Prop :=
  exec (eval scope term) s = (.ok v, s)

namespace Answers

variable {scope : Entries} {s : Session}

/-! ## Leaves -/

/-- A constant that is no double without a value answers itself. -/
theorem constant {v : Value} (written : Act.written v = pure v) :
    Answers scope s (.constant v) v := by
  rw [Answers, eval, written, exec_pure]

theorem slot (index : Nat) : Answers scope s (.slot index) (s.slot index) := by
  rw [Answers, eval, exec_bind_of_ok (exec_get s), exec_pure]

/-- A callback has no value of its own. -/
theorem not_callback {body : Term} {v : Value} : ¬ Answers scope s (.callback body) v := by
  rw [Answers, eval, exec_throw]
  exact fun same => nomatch congrArg Prod.fst same

/-! ## Lists of terms -/

/-- Arguments that answer are passed on as values. -/
theorem all_arguments {terms : List Term} {vs : List Value}
    (each : List.Forall₂ (Answers scope s) terms vs) :
    exec (evalArguments scope terms) s = (.ok (vs.map .value), s) := by
  induction each with
  | nil => exact exec_evalArguments_nil scope s
  | cons answers _ ih =>
      rw [evalArguments, exec_bind_of_ok answers, exec_bind_of_ok ih, exec_pure, List.map_cons]
      rintro body rfl
      exact not_callback answers

/-- Arguments under parameters that answer are passed on as values. -/
theorem all_named {parameters : List Parameter} {terms : List Term} {vs : List Value}
    (each : List.Forall₂ (Answers scope s) terms vs) :
    exec (evalNamed scope (parameters.zip terms)) s =
      (.ok ((parameters.zip vs).map fun argument => (argument.1, .value argument.2)), s) := by
  induction each generalizing parameters with
  | nil => rw [List.zip_nil_right, evalNamed, exec_pure, List.zip_nil_right, List.map_nil]
  | cons answers _ ih =>
      cases parameters with
      | nil => rw [List.zip_nil_left, evalNamed, exec_pure, List.zip_nil_left, List.map_nil]
      | cons parameter parameters =>
          rw [List.zip_cons_cons, evalNamed, exec_bind_of_ok answers, exec_bind_of_ok ih,
            exec_pure, List.zip_cons_cons, List.map_cons]
          rintro body rfl
          exact not_callback answers

/-- Keys and entries that answer, where every key can be one. -/
theorem all_entries {keyTerms terms : List Term} {keys vs : List Value}
    (eachKey : List.Forall₂ (Answers scope s) keyTerms keys)
    (each : List.Forall₂ (Answers scope s) terms vs) (areKeys : ∀ k ∈ keys, k.isKey = true) :
    exec (evalEntries scope (keyTerms.zip terms)) s = (.ok (keys.zip vs), s) := by
  induction eachKey generalizing terms vs with
  | nil => rw [List.zip_nil_left, evalEntries, exec_pure, List.zip_nil_left]
  | cons answersKey _ ih =>
      cases each with
      | nil => rw [List.zip_nil_right, evalEntries, exec_pure, List.zip_nil_right]
      | cons answers others =>
          have rest := ih others fun k member => areKeys k (List.mem_cons_of_mem _ member)
          rw [List.zip_cons_cons, evalEntries, exec_bind_of_ok answersKey,
            exec_bind_of_ok answers, if_pos (areKeys _ List.mem_cons_self), exec_bind_of_ok rest,
            exec_pure, List.zip_cons_cons]

/-- A map of terms is the map written from its keys and entries in order. -/
theorem map {keyTerms terms : List Term} {keys vs : List Value}
    (eachKey : List.Forall₂ (Answers scope s) keyTerms keys)
    (each : List.Forall₂ (Answers scope s) terms vs) (areKeys : ∀ k ∈ keys, k.isKey = true) :
    Answers scope s (.map (keyTerms.zip terms)) (.map (Entries.ofWrites (keys.zip vs))) := by
  rw [Answers, eval, exec_bind_of_ok (all_entries eachKey each areKeys), exec_pure]

/-! ## Calls -/

/-- The parameters under which a call of a function gives arguments. -/
def parameters (names : List Nat) : List Parameter := names.map fun name => ⟨name, name⟩

theorem exec_bindArguments {arity : Arity} (receiver : Option Value) (names : List Nat)
    (named : List Value) {args : List Value} {bound : Arguments}
    (binds : arity.bind args (names.zip named) = some bound) :
    exec (bindArguments arity receiver (args.map .value)
      (((parameters names).zip named).map fun argument => (argument.1, .value argument.2))) s =
      (.ok (bound.map .value), s) := by
  have under : (((parameters names).zip named).map fun argument =>
      (argument.1, Argument.value argument.2)).map
        (fun argument => (argument.1.under receiver, argument.2)) =
      (names.zip named).map fun argument => (argument.1, Argument.value argument.2) := by
    unfold parameters
    rw [List.zip_map_left, List.map_map, List.map_map]
    refine List.map_congr_left fun argument _ => ?_
    unfold Parameter.under
    dsimp only [Function.comp_apply, Prod.map]
    split <;> rfl
  unfold bindArguments
  rw [under, Arity.bind_map, binds]
  rfl

/-- Of a call of a function with arguments that answer, what the function does is left. -/
theorem exec_call (f : Function) (names : List Nat) {terms namedTerms : List Term}
    {args named : List Value} {bound : Arguments} (each : List.Forall₂ (Answers scope s) terms args)
    (eachNamed : List.Forall₂ (Answers scope s) namedTerms named)
    (binds : f.arity.bind args (names.zip named) = some bound) :
    exec (eval scope (.call f terms ((parameters names).zip namedTerms))) s =
      exec (f.run (bound.map .value)) s := by
  rw [eval, exec_bind_of_ok (all_arguments each), exec_bind_of_ok (all_named eachNamed),
    exec_bind_of_ok (exec_bindArguments none names named binds)]

/-- A method does not see callbacks, except the one that takes one. -/
theorem exec_runMethod {method : Method} (plain : method ≠ .forgeWith) (v : Value)
    (bound : Arguments) :
    exec (runMethod method v (bound.map .value)) s = exec (method.run v bound) s := by
  unfold runMethod
  split
  · exact (plain rfl).elim
  · rw [exec_bind_of_ok (Bound.exec_values bound s)]

/-- Of a call of a method with arguments by position, what the method does is left. -/
theorem exec_method {method : Method} {word : String} {receiver : Term} {v : Value}
    {terms : List Term} {args : List Value} {arity : Arity} {bound : Arguments}
    (answers : Answers scope s receiver v) (each : List.Forall₂ (Answers scope s) terms args)
    (plain : method ≠ .forgeWith) (has : method.arity? v = some arity)
    (binds : arity.bind args [] = some bound) :
    exec (eval scope (.method method word receiver terms [])) s =
      exec (method.run v bound) s := by
  have bindsValues : exec (bindArguments arity (some v) (args.map .value) []) s =
      (.ok (bound.map .value), s) :=
    exec_bindArguments (some v) [] [] binds
  rw [eval, exec_bind_of_ok answers, has]
  dsimp only
  rw [exec_bind_of_ok (all_arguments each), exec_bind_of_ok (exec_evalNamed_nil scope s),
    exec_bind_of_ok bindsValues, exec_runMethod plain]

end Answers

end MapStyle.Script
