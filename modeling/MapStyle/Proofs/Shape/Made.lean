import MapStyle.Proofs.Script.Calls
import MapStyle.Proofs.Script.Yields
import MapStyle.Proofs.Shape.Leading

/-!
# What calls make

Every function and every method that makes an expression makes one that is led by an operator of the
grammar.  Two constructors wrap any array, and a few functions hand back what they are given; they
are told apart by `Function.isRaw` and `Function.handsBack`.

* `runMethod_forges_or_yields_made` is the statement for methods; that for functions is put together
  where the functions of the tool are known.
-/

namespace MapStyle.Script

open Act

/-- An answer that is an expression is led by an operator, and it can be forged at once. -/
def Made (v : Value) (s : Session) : Prop :=
  ∀ w, v = .expression w → Shape.isExpression w = true ∧
    ∃ array s', exec (Act.forge v) s = (.ok array, s')

theorem Made.other {v : Value} (other : ∀ w, v ≠ .expression w) (s : Session) : Made v s :=
  fun w same => (other w same).elim

/-- A function that wraps any array in an expression. -/
def Function.isRaw : Function → Bool
  | .construct .expression | .construct .ofTag => true
  | _ => false

/-- A function that can hand back a value that it was given, or what such a value holds. -/
def Function.handsBack : Function → Bool
  | .construct .operandForm | .construct .geometryForm | .construct .normalizeKey
  | .construct .asPropertyValue => true
  | .tool .useColor | .tool .configArgument | .tool .colorize | .tool .problemText
  | .tool .pathLabel => true
  | _ => false

/-! ## Making expressions -/

/-- A copy of an array with an operator has the operator, and can be copied itself. -/
theorem yields_copy {v : Value} (led : Shape.isExpression v = true) :
    Yields (copy v) fun a s => Made (.expression a) s := by
  rintro s a s' copies w same
  cases same
  rw [exec_copy] at copies
  cases copied : s.layers.copy s.nextMark v with
  | error fault =>
      rw [copied] at copies
      cases copies
  | ok c =>
      rw [copied] at copies
      cases copies
      obtain ⟨again, forges⟩ := LayerStore.exists_copy_of_copy copied c.nextMark
      refine ⟨Shape.isExpression_copy copied led, again.value,
        { s with layers := again.store, nextMark := again.nextMark }, ?_⟩
      rw [Act.forge, exec_copy]
      dsimp only
      rw [forges]

/-- An expression that is made of an array. -/
theorem yields_expression {act : Act Value}
    (array : Yields act fun a s => Made (.expression a) s) :
    Yields (do return .expression (← act)) Made := by
  intro s v s' answers
  obtain ⟨a, s₁, made, rest⟩ := bind_eq_ok.mp answers
  cases rest
  exact array made

theorem yields_makeExpression {e : Expression} (led : Shape.isExpression e.forged = true) :
    Yields (makeExpression e) Made :=
  yields_expression (yields_copy led)

theorem yields_caseArray (chain : CaseChain) :
    Yields (caseArray chain) fun a s => Made (.expression a) s :=
  .bind fun _ => yields_copy (Shape.isExpression_ofParts _ _)

theorem yields_matchArray (chain : MatchChain) :
    Yields (matchArray chain) fun a s => Made (.expression a) s :=
  .bind fun _ => .bind fun _ => yields_copy (Shape.isExpression_ofParts _ _)

/-- One more operand does not change by which operator an array is led. -/
theorem led_followedBy {array : Value} (led : Shape.isExpression array = true) (last : Value) :
    Shape.isExpression (Expression.followedBy ⟨array⟩ last).forged = true := by
  obtain ⟨tag, parts, rfl, known⟩ := Shape.isExpression_iff.mp led
  exact Shape.isExpression_iff.mpr ⟨tag, parts ++ [last.asOperand], rfl, known⟩

/-- The end of a chain makes an expression with the operator of its array. -/
theorem yields_followedBy {act : Act Value} {last : Value}
    (array : Yields act fun a s => Made (.expression a) s) :
    Yields (do followedBy (← act) last) Made := by
  have led : Yields act fun a _ => Shape.isExpression a = true := fun s a s' answers =>
    (array answers a rfl).1
  refine .bind_of led fun a isLed => ?_
  have copied : Yields (copy a) fun b _ => Shape.isExpression b = true := fun s b s' copies =>
    (yields_copy isLed copies b rfl).1
  exact .bind_of copied fun b isLed => .bind fun operand =>
    yields_makeExpression (led_followedBy isLed operand)

theorem yields_ofProgress (progress : MatchProgress) : Yields (ofProgress progress) Made := by
  cases progress with
  | finished ending fallback => exact yields_followedBy (yields_matchArray ending.chain)
  | unfinished chain => exact .pure (Made.other fun w same => by cases same)
  | closing ending => exact .pure (Made.other fun w same => by cases same)

/-! ## Functions and methods of the vocabulary -/

/-- An expression is made of an operator and parts. -/
def IsOfParts (e : Expression) : Prop := ∃ op parts, e = .ofParts op parts

theorem IsOfParts.led {e : Expression} (ofParts : IsOfParts e) :
    Shape.isExpression e.forged = true := by
  obtain ⟨op, parts, rfl⟩ := ofParts
  exact Shape.isExpression_ofParts op parts

section Forms

variable {args : Arguments} {e : Expression}

/-- An array of one operator, whichever way its operands are chosen. -/
theorem isOfParts_ite {c : Prop} [Decidable c] {e₁ e₂ : Expression} (first : IsOfParts e₁)
    (second : IsOfParts e₂) : IsOfParts (if c then e₁ else e₂) := by
  split
  · exact first
  · exact second

theorem StyleFunction.isOfParts_of_run {f : StyleFunction} (runs : f.run args = .ok e) :
    IsOfParts e := by
  cases f
  case zoom | elevation | e | pi | ln2 => exact Arguments.of_leaf ⟨_, _, rfl⟩ runs
  case literal | get | has | globalState | sqrt | log10 | negate | toNumber | toText | toBoolean
      | toColor | string | number | boolean | object | typeOf | upcase | downcase | image
      | resolvedLocale | isSupportedScript | length | distance | within =>
    exact Arguments.of_unary (fun _ _ => ⟨_, _, rfl⟩) runs
  case subtract | divide | remainder | power | eq | neq | gt | gte | lt | lte | itemAt | isIn =>
    exact Arguments.of_binary (fun _ _ _ _ => ⟨_, _, rfl⟩) runs
  case caseOf | add | multiply | all | any | coalesce | format | concat =>
    exact Arguments.of_many (fun _ _ => ⟨_, _, rfl⟩) runs
  case interpolate | interpolateHcl | interpolateLab | step =>
    exact Arguments.of_twoAndMany (fun _ _ _ _ _ _ => ⟨_, _, rfl⟩) runs
  case array =>
    unfold run at runs
    dsimp only at runs
    split at runs <;> cases runs
    exact isOfParts_ite ⟨_, _, rfl⟩ (isOfParts_ite ⟨_, _, rfl⟩ ⟨_, _, rfl⟩)
  case collator | numberFormat | slice | indexOf =>
    unfold run at runs
    dsimp only at runs
    split at runs <;> cases runs
    exact isOfParts_ite ⟨_, _, rfl⟩ ⟨_, _, rfl⟩

theorem ExpressionMethod.isOfParts_of_run {method : ExpressionMethod} {self : Expression}
    (runs : method.run self args = .ok e) : IsOfParts e := by
  cases method
  case sqrt | log10 | toNumber | toText | toBoolean | toColor | string | number | boolean | object
      | typeOf | upcase | downcase | length | image | resolvedLocale | isSupportedScript =>
    exact Arguments.of_leaf ⟨_, _, rfl⟩ runs
  case subtract | divide | remainder | power | eq | neq | gt | gte | lt | lte | itemAt | isIn
      | distance | within => exact Arguments.of_unary (fun _ _ => ⟨_, _, rfl⟩) runs
  case add | multiply | all | any | coalesce | concat =>
    exact Arguments.of_many (fun _ _ => ⟨_, _, rfl⟩) runs
  case interpolate | interpolateHcl | interpolateLab | step =>
    exact Arguments.of_oneAndMany (fun _ _ _ _ => ⟨_, _, rfl⟩) runs
  case array =>
    unfold run at runs
    dsimp only at runs
    split at runs <;> cases runs
    exact isOfParts_ite ⟨_, _, rfl⟩ (isOfParts_ite ⟨_, _, rfl⟩ ⟨_, _, rfl⟩)
  case slice | indexOf | numberFormat =>
    unfold run at runs
    dsimp only at runs
    split at runs <;> cases runs
    exact isOfParts_ite ⟨_, _, rfl⟩ ⟨_, _, rfl⟩

end Forms

/-! ## Functions -/

theorem yields_forgeWith (bindings : Value) (argument : Argument) :
    Yields (forgeWith bindings argument) Made := by
  unfold forgeWith
  refine .bind fun scope => ?_
  cases argument with
  | value v => exact .throw
  | callback run =>
      refine .bind fun answer => .bind fun further => .bind fun entries => ?_
      exact yields_makeExpression (Shape.isExpression_ofParts _ _)

theorem yields_runLet (bound : Bound Argument) : Yields (runLet bound) Made := by
  unfold runLet
  split
  · exact .bind fun v => .pure (Made.other nofun)
  · exact .bind fun v => .pure (Made.other nofun)
  · exact .bind fun v => yields_forgeWith v _
  · exact .throw

/-- A variable that a text names is an expression without anything that could not be copied. -/
theorem made_of_varOf {argument v : Value} (answers : Style.varOf argument = .ok v) (s : Session) :
    Made v s := by
  unfold Style.varOf at answers
  split at answers
  · next name =>
      cases answers
      rintro w same
      cases same
      exact ⟨rfl, _, s, exec_copy_of_isPlain (v := .list [.str "var", .str name]) rfl s⟩
  · split at answers <;> cases answers
    exact Made.other (fun w same => by cases same) s

theorem Construction.yields_made {f : Construction} (notRaw : (Function.construct f).isRaw = false)
    (makes : (Function.construct f).handsBack = false) (args : Arguments) :
    Yields (f.run args) Made := by
  unfold Construction.run
  split
  · cases makes
  · cases makes
  · cases notRaw
  · exact .bind fun v => .bind fun entries => .pure (Made.other nofun)
  · cases makes
  · cases makes
  · exact .pure (Made.other nofun)
  · exact .bind fun v => .pure (Made.other nofun)
  · exact .bind fun v => .bind fun v => .bind fun v => .bind fun v => .pure (Made.other nofun)
  · cases notRaw
  · exact .pure (Made.other nofun)
  · exact .pure (Made.other nofun)
  · exact .pure (Made.other nofun)
  · exact .pure (Made.other nofun)
  · exact .pure (Made.other nofun)
  · exact .pure (Made.other nofun)
  · exact .bind fun table => yields_ofProgress _
  · exact .bind fun v => .ofExcept fun w => made_of_varOf
  · exact .bind fun v => .pure (Made.other nofun)
  · exact .bind fun v => .bind fun session => .bind fun _ => .pure (Made.other nofun)
  · exact .throw

/-! ## Methods -/

theorem yields_chained (method : ExpressionMethod) (self : Expression) (args : Arguments) :
    Yields (do makeExpression (← Act.ofExcept (method.run self (← args.mapM Act.view)))) Made :=
  .bind fun _ => .bind_of (.ofExcept fun _ runs _ => ExpressionMethod.isOfParts_of_run runs)
    fun _ form => yields_makeExpression form.led

theorem Method.yields_runExpression (method : Method) (self : Expression) (args : Arguments) :
    Yields (method.runExpression self args) Made := by
  unfold Method.runExpression
  split
  · exact yields_chained _ self args
  · exact yields_chained .isIn self args
  · exact .bind fun table => yields_ofProgress _
  · exact .throw

theorem Method.yields_runCase (method : Method) (conditions : Value) (args : Arguments) :
    Yields (method.runCase conditions args) Made := by
  unfold Method.runCase
  split
  · exact .pure (Made.other nofun)
  · exact .bind fun chain => yields_followedBy (yields_caseArray chain)
  · exact .bind fun chain => yields_expression (yields_caseArray chain)
  · exact .throw

theorem Method.yields_runMatch (method : Method) (subject conditions : Value) (args : Arguments) :
    Yields (method.runMatch subject conditions args) Made := by
  unfold Method.runMatch
  split
  · exact .bind fun _ => .pure (Made.other nofun)
  · exact .bind fun _ => .bind fun _ => .pure (Made.other nofun)
  · exact .bind fun chain => yields_followedBy (yields_matchArray chain)
  · exact .bind fun chain => yields_expression (yields_matchArray chain)
  · exact .throw

/-- A method hands back what its object holds, or makes expressions that are led by an operator. -/
theorem Method.forges_or_yields_made (method : Method) (receiver : Value) (args : Arguments) :
    (method = .forge ∧ method.run receiver args = Act.forge receiver) ∨
      Yields (method.run receiver args) Made := by
  unfold Method.run
  split
  · exact Or.inl ⟨rfl, rfl⟩
  all_goals right
  · exact Method.yields_runExpression _ _ args
  · exact Method.yields_runCase _ _ args
  · exact .bind fun _ => .pure (Made.other nofun)
  · exact Method.yields_runMatch _ _ _ args
  · exact .bind fun chain => yields_followedBy (yields_matchArray chain)
  · exact .bind fun _ => yields_makeExpression (Shape.isExpression_ofParts _ _)
  · exact .bind fun _ => .bind fun _ => .pure (Made.other nofun)
  · split
    · exact .bind fun _ => .pure (Made.other nofun)
    · exact .throw
  · split
    · exact .bind fun _ => .pure (Made.other nofun)
    · exact .throw
  · exact .throw

/-- The same of a method whose arguments may be callbacks. -/
theorem runMethod_forges_or_yields_made (method : Method) (receiver : Value)
    (bound : Bound Argument) {s s' : Session} {v : Value}
    (answers : exec (runMethod method receiver bound) s = (.ok v, s')) :
    (method = .forge ∧ ∃ s₁, exec (Act.forge receiver) s₁ = (.ok v, s')) ∨ Made v s' := by
  unfold runMethod at answers
  split at answers
  · exact Or.inr (yields_forgeWith _ _ answers)
  · obtain ⟨args, s₁, -, answers⟩ := bind_eq_ok.mp answers
    rcases Method.forges_or_yields_made _ _ args with ⟨isForge, same⟩ | yields
    · rw [same] at answers
      exact Or.inl ⟨isForge, s₁, answers⟩
    · exact Or.inr (yields answers)

end MapStyle.Script
