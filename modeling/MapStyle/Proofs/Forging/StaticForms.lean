import MapStyle.Proofs.Forging.Grammar
import MapStyle.Proofs.Script.Agreement
import MapStyle.Proofs.Script.Given

/-!
# Chained and static forms

Most operations can be written in two ways: as a method of an expression, and as a function that
takes the expression among its arguments.  The tables here say which function belongs to a method
and where the grammar has the expression; neither looks at how the two build their arrays.

* `ExpressionMethod.run_eq` says that the two build one array, whatever the arguments are.
* `Method.exec_run_static` takes it to what a script gets, faults included.
* `eval_static_eq_chained` compares the two terms.
-/

namespace MapStyle

open Script Script.Act

/-! ## The two forms of an operation -/

namespace Script

namespace ExpressionMethod

/-- The function that a method is the chained form of. -/
def function : ExpressionMethod → StyleFunction
  | .add => .add | .subtract => .subtract | .multiply => .multiply | .divide => .divide
  | .remainder => .remainder | .power => .power | .sqrt => .sqrt | .log10 => .log10 | .eq => .eq
  | .neq => .neq | .gt => .gt | .gte => .gte | .lt => .lt | .lte => .lte | .all => .all
  | .any => .any | .toNumber => .toNumber | .toText => .toText | .toBoolean => .toBoolean
  | .toColor => .toColor | .string => .string | .number => .number | .boolean => .boolean
  | .array => .array | .object => .object | .typeOf => .typeOf | .coalesce => .coalesce
  | .concat => .concat | .upcase => .upcase | .downcase => .downcase | .length => .length
  | .itemAt => .itemAt | .slice => .slice | .isIn => .isIn | .indexOf => .indexOf
  | .interpolate => .interpolate | .interpolateHcl => .interpolateHcl
  | .interpolateLab => .interpolateLab | .step => .step | .image => .image
  | .numberFormat => .numberFormat | .resolvedLocale => .resolvedLocale
  | .isSupportedScript => .isSupportedScript | .distance => .distance | .within => .within

/-- Where the grammar has the receiver of a method. -/
def seat : ExpressionMethod → Seat
  | .itemAt | .indexOf | .interpolate | .interpolateHcl | .interpolateLab => .second
  | .distance | .within => .nowhere
  | _ => .first

/-- How many of its first parameters a method cannot do without. -/
def required : ExpressionMethod → Nat
  | .array | .numberFormat => 0
  | .slice | .indexOf => 1
  | m => m.arity.parameters

end ExpressionMethod

namespace Method

/-- The function that a method of expressions is the chained form of, and the seat of the receiver
among the arguments of the function. -/
def static? : Method → Option (Function × Seat)
  | .expression m => some (.style m.function, m.seat)
  | .inside => some (.style .isIn, .first)
  | .matchOn => some (.construct .matchOn, .first)
  | _ => none

/-- A call of a method gives all that the method cannot do without, and for the table of a match
null or a map. -/
def IsServed (method : Method) (bound : Arguments) : Prop :=
  match method with
  | .expression m => ∀ o ∈ bound.fixed.take m.required, o.isSome = true
  | .inside => ∀ o ∈ bound.fixed, o.isSome = true
  | .matchOn => bound.argument 0 = .null ∨ ∃ table, bound.argument 0 = .map table
  | _ => False

end Method

/-! ## One array -/

namespace ExpressionMethod

section Forms

variable {v : Value} {args : Arguments}

theorem leaf_eq {e : Expression} {g : Value → Expression} (same : e = g v) :
    args.leaf e = Arguments.unary g (args.insert .first 1 v) := by
  subst same
  obtain ⟨_ | ⟨o, others⟩, rest⟩ := args <;> rfl

theorem unary_eq_first {f : Value → Expression} {g : Value → Value → Expression} (same : f = g v) :
    args.unary f = Arguments.binary g (args.insert .first 2 v) := by
  subst same
  obtain ⟨_ | ⟨_ | a, _ | ⟨o, others⟩⟩, rest⟩ := args <;> rfl

theorem unary_eq_second {f : Value → Expression} {g : Value → Value → Expression}
    (same : f = fun a => g a v) :
    args.unary f = Arguments.binary g (args.insert .second 2 v) := by
  subst same
  obtain ⟨_ | ⟨_ | a, _ | ⟨o, others⟩⟩, rest⟩ := args <;> rfl

theorem many_eq {f g : List Value → Expression} (same : f = fun vs => g (v :: vs)) :
    args.many f = Arguments.many g (args.insert .first 0 v) := by
  subst same
  obtain ⟨_ | ⟨o, others⟩, rest⟩ := args <;> rfl

theorem oneAndMany_eq_first {f : Value → List Value → Expression}
    {g : Value → Value → List Value → Expression} (same : f = g v) :
    args.oneAndMany f = Arguments.twoAndMany g (args.insert .first 2 v) := by
  subst same
  obtain ⟨_ | ⟨_ | a, _ | ⟨o, others⟩⟩, rest⟩ := args <;> rfl

theorem oneAndMany_eq_second {f : Value → List Value → Expression}
    {g : Value → Value → List Value → Expression} (same : f = fun a => g a v) :
    args.oneAndMany f = Arguments.twoAndMany g (args.insert .second 2 v) := by
  subst same
  obtain ⟨_ | ⟨_ | a, _ | ⟨o, others⟩⟩, rest⟩ := args <;> rfl

end Forms

/-- A method builds what its function builds from the same arguments and the receiver. -/
theorem run_eq (m : ExpressionMethod) (self : Expression) (args : Arguments) :
    m.run self args =
      m.function.run (args.insert m.seat m.function.arity.parameters self.toValue) := by
  -- With arguments of another shape than it takes, a form ends in the fault that the other ends in.
  cases m
  case sqrt | log10 | toNumber | toText | toBoolean | toColor | string | number | boolean | object
      | typeOf | upcase | downcase | length | image | resolvedLocale | isSupportedScript =>
    exact leaf_eq rfl
  case subtract | divide | remainder | power | eq | neq | gt | gte | lt | lte | isIn =>
    exact unary_eq_first rfl
  case itemAt => exact unary_eq_second rfl
  case add | multiply | all | any | coalesce | concat => exact many_eq rfl
  case interpolate | interpolateHcl | interpolateLab =>
    exact oneAndMany_eq_second rfl
  case step => exact oneAndMany_eq_first rfl
  case distance | within => rfl
  case array =>
    obtain ⟨_ | ⟨itemType, _ | ⟨size, _ | ⟨o, others⟩⟩⟩, rest⟩ := args <;> rfl
  case slice | indexOf =>
    obtain ⟨_ | ⟨_ | a, _ | ⟨b, _ | ⟨o, others⟩⟩⟩, rest⟩ := args <;> rfl
  case numberFormat =>
    obtain ⟨_ | ⟨a, _ | ⟨b, _ | ⟨c, _ | ⟨d, _ | ⟨o, others⟩⟩⟩⟩⟩, rest⟩ := args <;> rfl

/-! ## What a method builds -/

section Builds

variable {m : ExpressionMethod} {self : Expression} {args : Arguments}

theorem isStructural_asOperand {v : Value} (structural : v.isStructural = true) :
    v.asOperand.isStructural = true := by
  cases v with
  | expression forged => exact (Value.isStructural_iff.mp structural).2 forged List.mem_cons_self
  | _ => exact structural

/-- An array of an operator is known by what it holds if its operands are. -/
theorem isStructural_ofOperator {op : Operator} {operands : List Value}
    (each : ∀ v ∈ operands, v.isStructural = true) :
    (Expression.ofOperator op operands).forged.isStructural = true := by
  apply Value.isStructural_list
  intro w member
  rcases List.mem_cons.mp member with rfl | operand
  · rfl
  · obtain ⟨v, among, rfl⟩ := List.mem_map.mp operand
    exact isStructural_asOperand (each v among)

/-- A record of options is known by what it holds if the options are. -/
theorem isStructural_optionRecord {options : Entries}
    (each : ∀ e ∈ options, e.1.isStructural = true ∧ e.2.isStructural = true) :
    (Value.map (optionRecord options)).isStructural = true := by
  apply Value.isStructural_map
  intro e member
  obtain ⟨option, kept, rfl⟩ := List.mem_map.mp member
  have structural := each option (List.mem_of_mem_filter kept)
  exact ⟨structural.1, isStructural_asOperand structural.2⟩

theorem isStructural_array {itemType size : Value} (receiver : self.toValue.isStructural = true)
    (first : itemType.isStructural = true) (second : size.isStructural = true) :
    (self.array itemType size).forged.isStructural = true := by
  unfold Expression.array
  split
  · exact isStructural_ofOperator (by simpa using receiver)
  · split <;> exact isStructural_ofOperator (by simp [receiver, first, second])

theorem isStructural_slice {start stop : Value} (receiver : self.toValue.isStructural = true)
    (first : start.isStructural = true) (second : stop.isStructural = true) :
    (self.slice start stop).forged.isStructural = true := by
  unfold Expression.slice
  split <;> exact isStructural_ofOperator (by simp [receiver, first, second])

theorem isStructural_indexOf {item fromIndex : Value}
    (receiver : self.toValue.isStructural = true) (first : item.isStructural = true)
    (second : fromIndex.isStructural = true) :
    (self.indexOf item fromIndex).forged.isStructural = true := by
  unfold Expression.indexOf
  split <;> exact isStructural_ofOperator (by simp [receiver, first, second])

theorem isStructural_numberFormat {locale currency least most : Value}
    (receiver : self.toValue.isStructural = true)
    (each : ∀ v ∈ [locale, currency, least, most], v.isStructural = true) :
    (self.numberFormat locale currency least most).forged.isStructural = true := by
  simp only [List.forall_mem_cons, List.not_mem_nil, false_implies, implies_true, and_true] at each
  have record : (Value.map (optionRecord [namedEntry "locale" locale,
      namedEntry "currency" currency, namedEntry "min-fraction-digits" least,
      namedEntry "max-fraction-digits" most])).isStructural = true := by
    refine isStructural_optionRecord ?_
    simp only [List.forall_mem_cons, List.not_mem_nil, false_implies, implies_true, and_true]
    exact ⟨⟨rfl, each.1⟩, ⟨rfl, each.2.1⟩, ⟨rfl, each.2.2.1⟩, ⟨rfl, each.2.2.2⟩⟩
  unfold Expression.numberFormat
  dsimp only
  split <;> exact isStructural_ofOperator (by simp [receiver, record])

/-- What a method builds is known by what it holds if its receiver and its arguments are. -/
theorem isStructural_of_run {e : Expression} (receiver : self.toValue.isStructural = true)
    (each : ∀ v ∈ args.given, v.isStructural = true) (runs : m.run self args = .ok e) :
    e.forged.isStructural = true := by
  have orNull : ∀ o ∈ args.fixed, (Arguments.orNull o).isStructural = true := by
    intro o member
    cases o with
    | none => rfl
    | some v => exact each v (Arguments.mem_given_of_fixed member)
  cases m
  case sqrt | log10 | toNumber | toText | toBoolean | toColor | string | number | boolean | object
      | typeOf | upcase | downcase | length | image | resolvedLocale | isSupportedScript =>
    refine Arguments.of_leaf (P := fun e => e.forged.isStructural = true) ?_ runs
    exact isStructural_ofOperator (by simpa using receiver)
  case subtract | divide | remainder | power | eq | neq | gt | gte | lt | lte | isIn | itemAt =>
    refine Arguments.of_unary (P := fun e => e.forged.isStructural = true) ?_ runs
    intro a given
    exact isStructural_ofOperator (by simp [receiver, each a given])
  case add | multiply | all | any | coalesce | concat =>
    refine Arguments.of_many (P := fun e => e.forged.isStructural = true) ?_ runs
    intro vs given
    exact isStructural_ofOperator (by
      simpa [receiver] using fun v member => each v (given v member))
  case interpolate | interpolateHcl | interpolateLab | step =>
    refine Arguments.of_oneAndMany (P := fun e => e.forged.isStructural = true) ?_ runs
    intro a givenFirst vs given
    exact isStructural_ofOperator (by
      simpa [receiver, each a givenFirst] using fun v member => each v (given v member))
  case distance | within =>
    refine Arguments.of_unary (P := fun e => e.forged.isStructural = true) ?_ runs
    intro a given
    have operand : ∀ v ∈ [a], v.isStructural = true := by simpa using each a given
    exact isStructural_ofOperator operand
  case array =>
    unfold run at runs
    dsimp only at runs
    split at runs <;> cases runs
    next itemType size fixed =>
      have first := orNull itemType (by simp [fixed])
      have second := orNull size (by simp [fixed])
      exact isStructural_array receiver first second
  case slice =>
    unfold run at runs
    dsimp only at runs
    split at runs <;> cases runs
    next start stop fixed =>
      have first := each start (Arguments.mem_given_of_fixed (by simp [fixed]))
      have second := orNull stop (by simp [fixed])
      exact isStructural_slice receiver first second
  case indexOf =>
    unfold run at runs
    dsimp only at runs
    split at runs <;> cases runs
    next item fromIndex fixed =>
      have first := each item (Arguments.mem_given_of_fixed (by simp [fixed]))
      have second := orNull fromIndex (by simp [fixed])
      exact isStructural_indexOf receiver first second
  case numberFormat =>
    unfold run at runs
    dsimp only at runs
    split at runs <;> cases runs
    next locale currency least most fixed =>
      have options : ∀ o ∈ [locale, currency, least, most],
          (Arguments.orNull o).isStructural = true := fun o member => orNull o (fixed ▸ member)
      exact isStructural_numberFormat receiver (by simpa using options)

/-- A method that is given all that it cannot do without builds an expression. -/
theorem exists_run (places : args.fixed.length = m.arity.parameters)
    (given : ∀ o ∈ args.fixed.take m.required, o.isSome = true) :
    ∃ e, m.run self args = .ok e := by
  obtain ⟨fixed, rest⟩ := args
  cases m
  case sqrt | log10 | toNumber | toText | toBoolean | toColor | string | number | boolean | object
      | typeOf | upcase | downcase | length | image | resolvedLocale | isSupportedScript
      | add | multiply | all | any | coalesce | concat =>
    obtain rfl : fixed = [] := List.length_eq_zero_iff.mp places
    exact ⟨_, rfl⟩
  case subtract | divide | remainder | power | eq | neq | gt | gte | lt | lte | isIn | itemAt
      | distance | within | interpolate | interpolateHcl | interpolateLab | step =>
    obtain ⟨o, rfl⟩ := List.length_eq_one_iff.mp places
    obtain ⟨a, rfl⟩ := Option.isSome_iff_exists.mp (given o List.mem_cons_self)
    exact ⟨_, rfl⟩
  case array =>
    obtain ⟨itemType, size, rfl⟩ := List.length_eq_two.mp places
    exact ⟨_, rfl⟩
  case slice | indexOf =>
    obtain ⟨o, option, rfl⟩ := List.length_eq_two.mp places
    obtain ⟨a, rfl⟩ := Option.isSome_iff_exists.mp (given o List.mem_cons_self)
    exact ⟨_, rfl⟩
  case numberFormat =>
    match fixed, places with
    | [locale, currency, least, most], _ => exact ⟨_, rfl⟩

end Builds

/-! ## Places -/

/-- The arguments of a method and its receiver have places among the parameters of the function
exactly if the arguments have places among those of the method. -/
theorem bind_insert (m : ExpressionMethod) {α : Type} (args : Given α) (receiver : α) :
    (args.insert m.seat receiver).bind m.function.arity =
      (args.bind m.arity).map (Bound.insert m.seat m.function.arity.parameters receiver) := by
  cases m
  case distance | within =>
    have unmoved : args.insert .nowhere receiver = args := by
      have : args.named.map Seat.nowhere.move = args.named := List.map_id _
      exact congrArg (Given.mk args.positional) this
    exact (congrArg (Given.bind (.exactly 1)) unmoved).trans Option.map_id'.symm
  case add | multiply | all | any | coalesce | concat => exact Given.bind_insert_rest
  case itemAt => exact Given.bind_insert_second 0 false
  case indexOf => exact Given.bind_insert_second 1 false
  case interpolate | interpolateHcl | interpolateLab => exact Given.bind_insert_second 0 true
  case step => exact Given.bind_insert_first 1 true
  all_goals exact Given.bind_insert_first _ false

end ExpressionMethod

/-! ## What a script gets -/

section Runs

variable {self : Expression} {bound : Arguments}

theorem exec_run_expression (m : ExpressionMethod) (s : Session) :
    exec (Method.run (.expression m) self.toValue bound) s =
      exec (do makeExpression (← Act.ofExcept (m.run self (bound.map s.layers.view)))) s := by
  have viewed : exec (bound.mapM view) s = (.ok (bound.map s.layers.view), s) :=
    Arguments.exec_mapM bound fun v _ => exec_view v s
  have opened : Method.run (.expression m) self.toValue bound =
      (do makeExpression (← Act.ofExcept (m.run self (← bound.mapM view)))) := by
    rcases bound with ⟨_ | _, rest⟩ <;> rfl
  rw [opened, exec_bind_of_ok viewed]

theorem exec_run_style (f : StyleFunction) (s : Session) :
    exec (Function.run (.style f) (bound.map .value)) s =
      exec (do makeExpression (← Act.ofExcept (f.run (bound.map s.layers.view)))) s := by
  have viewed : exec (bound.mapM view) s = (.ok (bound.map s.layers.view), s) :=
    Arguments.exec_mapM bound fun v _ => exec_view v s
  unfold Function.run
  dsimp only
  rw [exec_bind_of_ok (Bound.exec_values bound s), exec_bind_of_ok viewed]

/-- A method of the vocabulary answers what its function answers to the same arguments and the
receiver. -/
theorem exec_run_insert (m : ExpressionMethod) (s : Session) :
    exec (Method.run (.expression m) self.toValue bound) s =
      exec (Function.run (.style m.function)
        ((bound.insert m.seat m.function.arity.parameters self.toValue).map .value)) s := by
  rw [exec_run_expression, exec_run_style, ExpressionMethod.run_eq, Bound.map_insert]
  rfl

/-- A match on an expression is a match without a fallback. -/
theorem exec_run_matchOn (o : Option Value) (s : Session) :
    exec (Method.run .matchOn self.toValue ⟨[o], []⟩) s =
      exec (Function.run (.construct .matchOn)
        (Bound.map .value ⟨[some self.toValue, o, none], []⟩)) s := by
  unfold Function.run
  dsimp only
  rw [exec_bind_of_ok (Bound.exec_values _ s)]
  rfl

/-- A method and the function it is the chained form of answer the same, faults included, whatever
the receiver and the arguments hold. -/
theorem Method.exec_run_static {method : Method} {f : Function} {seat : Seat}
    (form : method.static? = some (f, seat)) {args : Given Value}
    (binds : (method.arity? self.toValue).bind args.bind = some bound) :
    ∃ inserted, (args.insert seat self.toValue).bind f.arity = some inserted ∧
      ∀ s, exec (method.run self.toValue bound) s = exec (f.run (inserted.map .value)) s := by
  cases method <;> cases form
  case expression m =>
    replace binds : args.bind m.arity = some bound := binds
    have bindsStatic := m.bind_insert args self.toValue
    rw [binds] at bindsStatic
    exact ⟨_, bindsStatic, exec_run_insert m⟩
  case inside =>
    replace binds : args.bind ExpressionMethod.isIn.arity = some bound := binds
    have bindsStatic := ExpressionMethod.isIn.bind_insert args self.toValue
    have same : Method.run .inside self.toValue bound =
        Method.run (.expression .isIn) self.toValue bound := by
      rcases bound with ⟨_ | _, rest⟩ <;> rfl
    rw [binds] at bindsStatic
    rw [same]
    exact ⟨_, bindsStatic, exec_run_insert .isIn⟩
  case matchOn =>
    replace binds : args.bind (.exactly 1) = some bound := binds
    have bindsTwo : (args.insert .first self.toValue).bind (.exactly 2) =
        some (bound.insert .first 2 self.toValue) :=
      (Given.bind_insert_first 1 false).trans (congrArg _ binds)
    obtain ⟨o, rfl⟩ : ∃ o, bound = ⟨[o], []⟩ := by
      obtain ⟨⟨-, room⟩, rfl⟩ := Given.fits_of_bind binds
      have few : args.positional.length ≤ 1 := by simpa [Arity.exactly] using room
      exact ⟨argumentAt args.positional args.named 0,
        congrArg (Bound.mk _) (List.drop_eq_nil_of_le few)⟩
    exact ⟨_, Given.bind_more bindsTwo, exec_run_matchOn o⟩

/-- A method that is served answers, and leaves the session as it is, if nothing that it is given
has an identity of its own. -/
theorem Method.exists_answer {method : Method} {f : Function} {seat : Seat}
    (form : method.static? = some (f, seat)) {args : Given Value}
    (binds : (method.arity? self.toValue).bind args.bind = some bound)
    (served : method.IsServed bound) (receiver : self.toValue.isStructural = true)
    (each : ∀ v ∈ bound.given, v.isStructural = true) (s : Session) :
    ∃ v, v.isLeaf = false ∧ exec (method.run self.toValue bound) s = (.ok v, s) := by
  have built : ∀ m : ExpressionMethod, bound.fixed.length = m.arity.parameters →
      (∀ o ∈ bound.fixed.take m.required, o.isSome = true) →
      ∃ v, v.isLeaf = false ∧
        exec (Method.run (.expression m) self.toValue bound) s = (.ok v, s) := by
    intro m places given
    obtain ⟨e, runs⟩ : ∃ e, m.run self bound = .ok e := m.exists_run places given
    have structural := ExpressionMethod.isStructural_of_run receiver each runs
    have unchanged : bound.map s.layers.view = bound :=
      Bound.map_eq_self fun v given => s.layers.view_of_isStructural (each v given)
    refine ⟨e.toValue, rfl, ?_⟩
    rw [exec_run_expression, unchanged, runs]
    exact exec_makeExpression_of_isStructural structural s
  cases method <;> cases form
  case expression m => exact built m (Given.length_of_bind binds) served
  case inside =>
    have same : Method.run .inside self.toValue bound =
        Method.run (.expression .isIn) self.toValue bound := by
      rcases bound with ⟨_ | _, rest⟩ <;> rfl
    rw [same]
    exact built .isIn (Given.length_of_bind binds) fun o member =>
      served o (List.mem_of_mem_take member)
  case matchOn =>
    obtain ⟨o, others⟩ := List.length_eq_one_iff.mp (Given.length_of_bind binds)
    obtain ⟨fixed, rest⟩ := bound
    subst others
    have table : Arguments.orNull o = .null ∨ ∃ es, Arguments.orNull o = .map es := served
    have opened : Method.run .matchOn self.toValue ⟨[o], rest⟩ =
        (do Act.ofProgress (self.matchOn (← optionalEntries (Arguments.orNull o)))) := rfl
    rw [opened]
    rcases table with null | ⟨es, map⟩
    · rw [null]
      exact ⟨_, rfl, rfl⟩
    · rw [map]
      exact ⟨_, rfl, rfl⟩

end Runs

/-! ## Terms -/

/-- A chained form and its static form, with the receiver in its seat among the arguments, have the
same outcome, whatever is given, left out or null: the same value or fault, and the same session
after it.  If the method is served, and nothing that it is given has an identity of its own, both
have a value, and the two are equal. -/
theorem eval_static_eq_chained {method : Method} {f : Function} {seat : Seat}
    (form : method.static? = some (f, seat)) (word : String) {scope : Entries} {s : Session}
    {receiver : Term} {self : Expression} (answers : Answers scope s receiver self.toValue)
    {positional : List Term} {named : List (Parameter × Term)} {args : Given Value}
    (each : (Given.toExpression positional named).Answer scope s args) {bound : Arguments}
    (binds : (method.arity? self.toValue).bind args.bind = some bound) :
    let chained := Term.method method word receiver positional named
    let static := ((Given.toExpression positional named).insert seat receiver).call f
    exec (eval scope static) s = exec (eval scope chained) s ∧
      (method.IsServed bound → self.toValue.isStructural = true →
        (∀ v ∈ bound.given, v.isStructural = true) →
        ∃ v, Answers scope s chained v ∧ Answers scope s static v ∧
          Answers scope s (.equal static chained) (.bool true)) := by
  intro chained static
  obtain ⟨inserted, bindsStatic, same⟩ := Method.exec_run_static form binds
  obtain ⟨arity, has, bindsChained⟩ := Option.bind_eq_some_iff.mp binds
  have plain : method ≠ .forgeWith := by
    rintro rfl
    cases form
  have runs : exec (eval scope chained) s = exec (method.run self.toValue bound) s :=
    Given.exec_method answers each plain has bindsChained
  have runsStatic : exec (eval scope static) s = exec (f.run (inserted.map .value)) s :=
    Given.exec_call f (each.insert seat answers) bindsStatic
  refine ⟨by rw [runs, runsStatic, same], fun served structural eachStructural => ?_⟩
  obtain ⟨v, inner, answer⟩ := Method.exists_answer form binds served structural eachStructural s
  have answersChained : Answers scope s chained v := runs.trans answer
  have answersStatic : Answers scope s static v := by
    rw [Answers, runsStatic, ← same s, answer]
  exact ⟨v, answersChained, answersStatic, exec_equal answersStatic answersChained inner⟩

/-- The position of an item from an index on that counts as absent, but is given. -/
theorem eval_static_eq_chained_indexOf :
    let session := Session.start ⟨"/", fun _ => .ok .empty, 80⟩
    let field := Style.get (.str "x")
    let chained := Term.method (.expression .indexOf) "index_of" (.constant field.toValue)
      [.constant (.str "b")] [(⟨1, 1⟩, .constant (.int 0))]
    let static := Term.call (.style .indexOf) [.constant (.str "b"), .constant field.toValue]
      [(⟨2, 2⟩, .constant (.int 0))]
    let array := Value.list [.str "index-of", .str "b", .list [.str "get", .str "x"], .int 0]
    Answers [] session chained (.expression array) ∧ Answers [] session static (.expression array) ∧
      Answers [] session (.equal static chained) (.bool true) := by
  intro session field chained static array
  have form : Method.static? (.expression .indexOf) = some (.style .indexOf, .second) := rfl
  have receiver : Answers [] session (.constant field.toValue) field.toValue :=
    Answers.constant rfl
  have each : (Given.toExpression [.constant (.str "b")]
      [(⟨1, 1⟩, .constant (.int 0))]).Answer [] session ⟨[.str "b"], [(1, .int 0)]⟩ :=
    ⟨.cons (Answers.constant rfl) .nil, .cons ⟨rfl, Answers.constant rfl⟩ .nil⟩
  have served : Method.IsServed (.expression .indexOf) ⟨[some (.str "b"), some (.int 0)], []⟩ := by
    intro o member
    obtain rfl := List.mem_singleton.mp member
    rfl
  obtain ⟨same, values⟩ := eval_static_eq_chained form "index_of" receiver each rfl
  obtain ⟨-, -, -, equal⟩ := values served rfl (by decide)
  have value : Answers [] session chained (.expression array) := by
    have runs : exec (eval [] chained) session =
        exec (Method.run (.expression .indexOf) field.toValue
          ⟨[some (.str "b"), some (.int 0)], []⟩) session :=
      Given.exec_method receiver each nofun rfl rfl
    rw [Answers, runs, exec_run_expression]
    exact exec_makeExpression_of_isStructural (e := ⟨array⟩) rfl session
  exact ⟨value, same.trans value, equal⟩

end Script

end MapStyle
