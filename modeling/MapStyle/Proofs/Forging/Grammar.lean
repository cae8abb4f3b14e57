import MapStyle.Script.StyleFunction
import MapStyle.Proofs.Value.Maps
import MapStyle.Proofs.Value.Plain
import MapStyle.Proofs.Script.Calls

/-!
# The grammar of forged calls

What a call of the style vocabulary forges to, said once for all functions: the tag of its operator
and its operands, each in its place.  The table here does not look at how the functions build their
arrays; `StyleFunction.run_eq` says that every one of them builds the array of the table.

* `Value.translated` is what stands for an argument in an array.
* `StyleFunction.operands` are the operands of a call, null options and empty records left out.
-/

namespace MapStyle

namespace Value

/-- What stands for an argument in an array: of an expression its array, and of a record the record
with the arrays of the expressions in it. -/
def translated : Value → Value
  | .map es => .map (Entries.mapValues asOperand es)
  | v => v.asOperand

/-- An array that is led by something. -/
def isLed : Value → Bool
  | .list (_ :: _) => true
  | _ => false

/-- Plain data, or an expression that holds a plain array: what may be given as an operand. -/
def isOperand : Value → Bool
  | .expression array => array.isPlain && array.isLed
  | v => v.isPlain

/-- An operand, or a record of operands under plain keys: what may be given as a section of
formatted text. -/
def isSection : Value → Bool
  | .map es => es.all fun e => e.1.isPlain && e.2.isOperand
  | v => v.isOperand

theorem isOperand_of_isPlain {v : Value} (plain : v.isPlain = true) : v.isOperand = true := by
  cases v with
  | expression array => cases (isPlain_iff.mp plain).1
  | _ => exact plain

theorem isSection_of_isOperand {v : Value} (operand : v.isOperand = true) : v.isSection = true := by
  cases v with
  | map es =>
      have plain : (Value.map es).isPlain = true := operand
      rw [isPlain_map, List.all_eq_true] at plain
      refine List.all_eq_true.mpr fun e member => ?_
      have both := Bool.and_eq_true_iff.mp (plain e member)
      exact Bool.and_eq_true_iff.mpr ⟨both.1, isOperand_of_isPlain both.2⟩
  | _ => exact operand

theorem asOperand_of_isPlain {v : Value} (plain : v.isPlain = true) : v.asOperand = v := by
  cases v with
  | expression array => cases (isPlain_iff.mp plain).1
  | _ => rfl

/-- An operand stands in an array as the position of an operand puts it. -/
theorem translated_of_isOperand {v : Value} (operand : v.isOperand = true) :
    v.translated = v.asOperand := by
  cases v with
  | map es =>
      have plain : (Value.map es).isPlain = true := operand
      rw [isPlain_map, List.all_eq_true] at plain
      have unchanged : ∀ e ∈ es, (e.1, e.2.asOperand) = id e := fun e member => by
        rw [asOperand_of_isPlain (Bool.and_eq_true_iff.mp (plain e member)).2]
        rfl
      rw [translated, Entries.mapValues, List.map_congr_left unchanged, List.map_id]
      rfl
  | _ => rfl

theorem translated_of_isPlain {v : Value} (plain : v.isPlain = true) : v.translated = v := by
  rw [translated_of_isOperand (isOperand_of_isPlain plain), asOperand_of_isPlain plain]

theorem asOperand_isPlain {v : Value} (operand : v.isOperand = true) :
    v.asOperand.isPlain = true := by
  cases v with
  | expression array => exact (Bool.and_eq_true_iff.mp operand).1
  | _ => exact operand

theorem translated_isPlain {v : Value} (stands : v.isSection = true) :
    v.translated.isPlain = true := by
  unfold isSection at stands
  unfold translated
  split at stands
  · rw [isPlain_map, Entries.mapValues, List.all_map]
    refine List.all_eq_true.mpr fun e member => ?_
    have both := Bool.and_eq_true_iff.mp (List.all_eq_true.mp stands e member)
    exact Bool.and_eq_true_iff.mpr ⟨both.1, asOperand_isPlain both.2⟩
  · exact asOperand_isPlain stands

/-- An operand is of plain data, or it is an expression around an array that is led by something. -/
theorem isOperand_cases {v : Value} (operand : v.isOperand = true) :
    (v.isPlain = true ∧ v.asOperand = v) ∨
      ∃ lead parts, v = .expression (.list (lead :: parts)) := by
  cases v with
  | expression array =>
      have led := (Bool.and_eq_true_iff.mp operand).2
      cases array with
      | list items =>
          cases items with
          | nil => cases led
          | cons lead parts => exact Or.inr ⟨lead, parts, rfl⟩
      | _ => cases led
  | _ => exact Or.inl ⟨operand, rfl⟩

/-- An operand counts as absent exactly if what stands for it does. -/
theorem isFalsy_asOperand {v : Value} (operand : v.isOperand = true) :
    v.asOperand.isFalsy = v.isFalsy := by
  rcases isOperand_cases operand with ⟨_, same⟩ | ⟨lead, parts, rfl⟩
  · rw [same]
  · rfl

/-- An operand is null exactly if what stands for it is. -/
theorem isNull_asOperand {v : Value} (operand : v.isOperand = true) :
    v.asOperand.isNull = v.isNull := by
  rcases isOperand_cases operand with ⟨_, same⟩ | ⟨lead, parts, rfl⟩
  · rw [same]
  · rfl

end Value

namespace Script

/-- The argument under a parameter, null if it is not given. -/
def Bound.argument (args : Arguments) (parameter : Nat) : Value :=
  Arguments.orNull (args.fixed[parameter]?.getD none)

namespace StyleFunction

/-! ## The table -/

/-- The operator that a function stands for. -/
def operator : StyleFunction → Operator
  | .literal => .literal | .get => .get | .has => .has | .zoom => .zoom
  | .globalState => .globalState | .elevation => .elevation | .e => .e | .pi => .pi | .ln2 => .ln2
  | .caseOf => .caseOf | .add => .add | .subtract => .subtract | .multiply => .multiply
  | .divide => .divide | .remainder => .remainder | .power => .power | .sqrt => .sqrt
  | .log10 => .log10 | .eq => .eq | .neq => .neq | .gt => .gt | .gte => .gte | .lt => .lt
  | .lte => .lte | .all => .all | .any => .any | .negate => .negate | .toNumber => .toNumber
  | .toText => .toText | .toBoolean => .toBoolean | .toColor => .toColor | .string => .string
  | .number => .number | .boolean => .boolean | .array => .array | .object => .object
  | .typeOf => .typeOf | .coalesce => .coalesce | .collator => .collator | .format => .format
  | .concat => .concat | .upcase => .upcase | .downcase => .downcase | .image => .image
  | .numberFormat => .numberFormat | .resolvedLocale => .resolvedLocale
  | .isSupportedScript => .isSupportedScript | .length => .length | .itemAt => .itemAt
  | .slice => .slice | .isIn => .isIn | .indexOf => .indexOf | .interpolate => .interpolate
  | .interpolateHcl => .interpolateHcl | .interpolateLab => .interpolateLab | .step => .step
  | .distance => .distance | .within => .within

/-- How many of its first parameters a function cannot do without. -/
def required : StyleFunction → Nat
  | .collator => 0
  | .array | .numberFormat => 1
  | .slice | .indexOf => 2
  | f => f.arity.parameters

/-- A function whose argument is a name or a payload, and no operand. -/
def takesData : StyleFunction → Bool
  | .literal | .get | .has | .globalState => true
  | _ => false

/-- The values that may be given to a function. -/
def takes (f : StyleFunction) (v : Value) : Bool :=
  if f.takesData then v.isPlain else if f = .format then v.isSection else v.isOperand

/-- The entries of a record of options that are not null. -/
def setOptions (names : List String) (options : List Value) : Entries :=
  (names.zip options).filterMap fun option =>
    if option.2.isNull then none else some (.str option.1, option.2)

/-- A record of options as operands: no operand if no option is set. -/
def recordOperands (names : List String) (options : List Value) : List Value :=
  if (setOptions names options).isEmpty then [] else [.map (setOptions names options)]

/-- A section of formatted text: of a record the style options that are set. -/
def sectionOperand : Value → Value
  | .map es =>
    let names := ["font-scale", "text-font", "text-color", "vertical-align"]
    .map (setOptions names (names.map fun name => (Entries.lookupName es name).getD .null))
  | v => v

/-- The operands of a call, in the order of the grammar, from what stands for its arguments. -/
def operands (f : StyleFunction) (args : Arguments) : List Value :=
  let values := args.fixed.map Arguments.orNull
  match f with
  | .array =>
    let itemType := args.argument 1
    let size := args.argument 2
    (if itemType.isFalsy then [] else if size.isNull then [itemType] else [itemType, size])
      ++ [args.argument 0]
  | .collator => recordOperands ["case-sensitive", "diacritic-sensitive", "locale"] values
  | .numberFormat =>
    args.argument 0 :: recordOperands
      ["locale", "currency", "min-fraction-digits", "max-fraction-digits"] (values.drop 1)
  | .format => args.rest.map sectionOperand
  | f => values.take f.required ++ (values.drop f.required).filter (!·.isNull) ++ args.rest

/-- The array of a call: the tag of the operator, and the operands. -/
def row (f : StyleFunction) (args : Arguments) : Value :=
  .list (.str f.operator.tag :: f.operands args)

/-! ## What a call is given -/

/-- A call that gives every parameter that the function cannot do without, and nothing that has no
place. -/
structure Accepts {α : Type} (f : StyleFunction) (args : Bound α) : Prop where
  places : args.fixed.length = f.arity.parameters
  given : ∀ o ∈ args.fixed.take f.required, o.isSome = true
  noRest : f.arity.takesRest = false → args.rest = []

namespace Accepts

variable {f : StyleFunction} {args : Arguments}

/-- What a function can be called with does not depend on what is done to each argument. -/
theorem map {α β : Type} {f : StyleFunction} {args : Bound α} (accepts : f.Accepts args)
    (g : α → β) : f.Accepts (args.map g) where
  places := by rw [Bound.map, List.length_map, accepts.places]
  given := by
    intro o member
    rw [Bound.map, ← List.map_take] at member
    obtain ⟨o', member', rfl⟩ := List.mem_map.mp member
    rw [Option.isSome_map]
    exact accepts.given o' member'
  noRest := fun fixed => by rw [Bound.map, accepts.noRest fixed, List.map_nil]

theorem leaf (accepts : f.Accepts args) (arity : f.arity = .exactly 0) : args = ⟨[], []⟩ := by
  obtain ⟨fixed, rest⟩ := args
  have places := accepts.places
  have noRest := accepts.noRest
  rw [arity] at places noRest
  obtain rfl : fixed = [] := List.length_eq_zero_iff.mp places
  obtain rfl : rest = [] := noRest rfl
  rfl

theorem many (accepts : f.Accepts args) (arity : f.arity = .atLeast 0) :
    args = ⟨[], args.rest⟩ := by
  obtain ⟨fixed, rest⟩ := args
  have places := accepts.places
  rw [arity] at places
  obtain rfl : fixed = [] := List.length_eq_zero_iff.mp places
  rfl

theorem first (accepts : f.Accepts args) {n : Nat} (places : f.arity.parameters = n + 1) :
    ∃ o others, args = ⟨o :: others, args.rest⟩ ∧ others.length = n := by
  obtain ⟨fixed, rest⟩ := args
  have size := accepts.places
  rw [places] at size
  obtain ⟨o, others, rfl⟩ := List.exists_cons_of_length_eq_add_one size
  exact ⟨o, others, rfl, Nat.succ.inj size⟩

/-- An argument that must be given, and the others. -/
theorem firstGiven (accepts : f.Accepts args) {n : Nat} (places : f.arity.parameters = n + 1)
    (needed : 0 < f.required) :
    ∃ a others, args = ⟨some a :: others, args.rest⟩ ∧ others.length = n := by
  obtain ⟨o, others, form, size⟩ := accepts.first places
  have given := accepts.given
  rw [form] at given
  obtain ⟨m, needed⟩ := Nat.exists_eq_add_of_lt needed
  rw [needed, Nat.zero_add, List.take_succ_cons] at given
  obtain ⟨a, rfl⟩ := Option.isSome_iff_exists.mp (given o List.mem_cons_self)
  exact ⟨a, others, form, size⟩

theorem unary (accepts : f.Accepts args) (arity : f.arity = .exactly 1) (needed : 0 < f.required) :
    ∃ a, args = ⟨[some a], []⟩ := by
  obtain ⟨a, others, form, none⟩ :=
    accepts.firstGiven (n := 0) (congrArg Arity.parameters arity) needed
  have noRest := accepts.noRest (congrArg Arity.takesRest arity)
  exact ⟨a, by rw [form, noRest, List.length_eq_zero_iff.mp none]⟩

/-- Two arguments that must be given, and the others. -/
theorem firstTwo (accepts : f.Accepts args) {n : Nat} (places : f.arity.parameters = n + 2)
    (needed : f.required = 2) :
    ∃ a b others, args = ⟨some a :: some b :: others, args.rest⟩ ∧ others.length = n := by
  obtain ⟨a, others, form, size⟩ := accepts.firstGiven places (by omega)
  obtain ⟨o, others', rfl⟩ := List.exists_cons_of_length_eq_add_one size
  have given := accepts.given
  rw [form, needed] at given
  obtain ⟨b, rfl⟩ := Option.isSome_iff_exists.mp (given o (by simp))
  exact ⟨a, b, others', form, Nat.succ.inj size⟩

theorem binary (accepts : f.Accepts args) (arity : f.arity = .exactly 2) (needed : f.required = 2) :
    ∃ a b, args = ⟨[some a, some b], []⟩ := by
  obtain ⟨a, b, others, form, none⟩ :=
    accepts.firstTwo (n := 0) (congrArg Arity.parameters arity) needed
  have noRest := accepts.noRest (congrArg Arity.takesRest arity)
  exact ⟨a, b, by rw [form, noRest, List.length_eq_zero_iff.mp none]⟩

theorem twoAndMany (accepts : f.Accepts args) (arity : f.arity = .atLeast 2)
    (needed : f.required = 2) : ∃ a b, args = ⟨[some a, some b], args.rest⟩ := by
  obtain ⟨a, b, others, form, none⟩ :=
    accepts.firstTwo (n := 0) (congrArg Arity.parameters arity) needed
  exact ⟨a, b, by rw [form, List.length_eq_zero_iff.mp none]⟩

end Accepts

end StyleFunction

end Script

end MapStyle
