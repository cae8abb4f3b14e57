import Mathlib.Data.List.Basic
import MapStyle.Proofs.Forging.Grammar

/-!
# Every function builds the array of the table

`StyleFunction.run_eq` compares each function of the style vocabulary with its row of the table, and
`StyleFunction.exec_run` takes it to what a script gets when it calls the function.
-/

namespace MapStyle.Script

namespace StyleFunction

variable {f : StyleFunction} {args : Arguments}

/-! ## What may be given -/

theorem isOperand_of_takes {v : Value} (notFormat : f ≠ .format) (taken : f.takes v = true) :
    v.isOperand = true := by
  unfold takes at taken
  split at taken
  · exact Value.isOperand_of_isPlain taken
  · exact (if_neg notFormat : (if f = .format then v.isSection else v.isOperand) = _) ▸ taken

theorem isSection_of_takes {v : Value} (taken : f.takes v = true) : v.isSection = true := by
  by_cases format : f = .format
  · subst format
    exact taken
  · exact Value.isSection_of_isOperand (isOperand_of_takes format taken)

theorem takes_of_isPlain {v : Value} (plain : v.isPlain = true) : f.takes v = true := by
  unfold takes
  split
  · exact plain
  · split
    · exact Value.isSection_of_isOperand (Value.isOperand_of_isPlain plain)
    · exact Value.isOperand_of_isPlain plain

theorem takes_of_isOperand {v : Value} (operands : f.takesData = false)
    (operand : v.isOperand = true) : f.takes v = true := by
  unfold takes
  rw [operands, if_neg Bool.false_ne_true]
  split
  · exact Value.isSection_of_isOperand operand
  · exact operand

/-- What a function takes stands in the array as the position of an operand puts it. -/
theorem translated_of_takes {v : Value} (notFormat : f ≠ .format) (taken : f.takes v = true) :
    v.translated = v.asOperand :=
  Value.translated_of_isOperand (isOperand_of_takes notFormat taken)

/-! ## Records of options -/

/-- Null options are dropped before the others become operands, or after. -/
theorem optionRecord_eq (names : List String) (options : List Value)
    (operands : ∀ v ∈ options, v.isOperand = true) :
    optionRecord ((names.zip options).map fun option => namedEntry option.1 option.2) =
      setOptions names (options.map Value.asOperand) := by
  induction names generalizing options with
  | nil => rfl
  | cons name names ih =>
      cases options with
      | nil => rfl
      | cons v options =>
          have rest := ih _ fun w member => operands w (List.mem_cons_of_mem v member)
          have null := Value.isNull_asOperand (operands v List.mem_cons_self)
          simp only [optionRecord, setOptions, namedEntry, List.zip_cons_cons, List.map_cons,
            List.filter_cons, List.filterMap_cons, null] at rest ⊢
          cases v.isNull with
          | true => exact rest
          | false => exact congrArg _ rest

/-- A record of options ends an array if one of them is set. -/
theorem ofOperator_record (op : Operator) (names : List String) {options : List Value}
    (operands : ∀ v ∈ options, v.isOperand = true) (before : List Value) :
    let record :=
      optionRecord ((names.zip options).map fun option => namedEntry option.1 option.2)
    (if record.isEmpty then Expression.ofOperator op before
      else .ofOperator op (before ++ [.map record])) =
      .ofParts op (before.map Value.asOperand ++
        recordOperands names (options.map Value.asOperand)) := by
  dsimp only
  rw [optionRecord_eq names _ operands, recordOperands]
  split
  · rw [List.append_nil]
    rfl
  · rw [Expression.ofOperator, List.map_append]
    rfl

/-- Of a section, whatever it is, the table keeps what the function keeps. -/
theorem formatSection_eq {v : Value} (stands : v.isSection = true) :
    Style.formatSection v = sectionOperand v.translated := by
  unfold Value.isSection at stands
  split at stands
  · next es =>
      have under : ∀ name, ((Entries.lookupName es name).getD .null).isOperand = true := by
        intro name
        cases found : Entries.lookupName es name with
        | none => rfl
        | some v =>
            obtain ⟨k, member⟩ := Entries.mem_of_lookup found
            exact (Bool.and_eq_true_iff.mp (List.all_eq_true.mp stands _ member)).2
      have looked : ∀ name, (Entries.lookupName (Entries.mapValues Value.asOperand es) name).getD
          .null = ((Entries.lookupName es name).getD .null).asOperand := by
        intro name
        rw [Entries.lookupName, Entries.lookup_mapValues, ← Entries.lookupName]
        cases Entries.lookupName es name <;> rfl
      have options := optionRecord_eq Style.sectionOptions
        (Style.sectionOptions.map fun name => (Entries.lookupName es name).getD .null)
        (List.forall_mem_map.mpr fun name _ => under name)
      unfold Value.translated sectionOperand
      dsimp only
      simp only [looked]
      exact congrArg Value.map options
  · next notMap =>
      rcases Value.isOperand_cases stands with ⟨plain, same⟩ | ⟨lead, parts, rfl⟩
      · rw [Value.translated_of_isPlain plain]
        cases v with
        | map es => exact (notMap es rfl).elim
        | scope es => cases (Value.isPlain_iff.mp plain).1
        | _ => exact same
      · rfl

/-! ## Functions with parameters that may be left out -/

/-- A call builds the array of the table. -/
def BuildsRow (f : StyleFunction) (args : Arguments) : Prop :=
  f.run args = .ok (.ofParts f.operator (f.operands (args.map Value.translated)))

/-- An argument that may be left out is an operand all the same. -/
theorem orNull_of_takes {o : Option Value} (notFormat : f ≠ .format)
    (taken : ∀ v ∈ args.given, f.takes v = true) (member : o ∈ args.fixed) :
    (Arguments.orNull o).isOperand = true ∧
      Arguments.orNull (o.map Value.translated) = (Arguments.orNull o).asOperand := by
  cases o with
  | none => exact ⟨rfl, rfl⟩
  | some v =>
      have given : v ∈ args.given :=
        List.mem_append_left _ (List.mem_filterMap.mpr ⟨some v, member, rfl⟩)
      exact ⟨isOperand_of_takes notFormat (taken v given),
        translated_of_takes notFormat (taken v given)⟩

/-- The arguments in place, null where none is given, before and after they are translated. -/
theorem values_of_takes (fixed : List (Option Value)) (notFormat : f ≠ .format)
    (taken : ∀ v ∈ args.given, f.takes v = true) (places : ∀ o ∈ fixed, o ∈ args.fixed) :
    (∀ v ∈ fixed.map Arguments.orNull, v.isOperand = true) ∧
      (fixed.map (Option.map Value.translated)).map Arguments.orNull =
        (fixed.map Arguments.orNull).map Value.asOperand := by
  constructor
  · exact List.forall_mem_map.mpr fun o member =>
      (orNull_of_takes notFormat taken (places o member)).1
  · rw [List.map_map, List.map_map]
    exact List.map_congr_left fun o member =>
      (orNull_of_takes notFormat taken (places o member)).2

/-- A form of two operands and a further one that is left out if it is null. -/
theorem buildsRow_of_optional {g : Value → Value → Value → Expression}
    (places : f.arity = .exactly 3) (needed : f.required = 2) (notFormat : f ≠ .format)
    (runs : ∀ a b o, f.run ⟨[some a, some b, o], []⟩ = .ok (g a b (Arguments.orNull o)))
    (builds : ∀ a b c, g a b c = .ofOperator f.operator (if c.isNull then [a, b] else [a, b, c]))
    (row : ∀ args, f.operands args = (args.fixed.map Arguments.orNull).take 2 ++
      ((args.fixed.map Arguments.orNull).drop 2).filter (!·.isNull) ++ args.rest)
    (accepts : f.Accepts args) (taken : ∀ v ∈ args.given, f.takes v = true) :
    f.BuildsRow args := by
  obtain ⟨a, b, others, form, size⟩ :=
    accepts.firstTwo (n := 1) (congrArg Arity.parameters places) needed
  obtain ⟨o, rfl⟩ := List.length_eq_one_iff.mp size
  rw [accepts.noRest (congrArg Arity.takesRest places)] at form
  subst form
  obtain ⟨operands, same⟩ := values_of_takes [some a, some b, o] notFormat taken
    fun _ => id
  have null := Value.isNull_asOperand (operands (Arguments.orNull o) (by simp))
  unfold BuildsRow
  rw [runs, builds, row, Bound.map, same]
  simp only [List.map_cons, List.map_nil, List.take_succ_cons, List.take_zero,
    List.drop_succ_cons, List.drop_zero, List.filter_cons, List.filter_nil, null]
  cases (Arguments.orNull o).isNull <;> rfl

theorem buildsRow_array (accepts : array.Accepts args)
    (taken : ∀ v ∈ args.given, array.takes v = true) : array.BuildsRow args := by
  obtain ⟨a, others, form, size⟩ := accepts.firstGiven (n := 2) rfl Nat.one_pos
  obtain ⟨o₁, o₂, rfl⟩ := List.length_eq_two.mp size
  rw [accepts.noRest rfl] at form
  subst form
  have each := fun o => orNull_of_takes (o := o) (by decide) taken
  obtain ⟨_, sameA⟩ := each (some a) (by simp)
  obtain ⟨operand₁, same₁⟩ := each o₁ (by simp)
  obtain ⟨operand₂, same₂⟩ := each o₂ (by simp)
  have row : operands .array (Bound.map Value.translated ⟨[some a, o₁, o₂], []⟩) =
      (if (Arguments.orNull o₁).isFalsy then []
        else if (Arguments.orNull o₂).isNull then [(Arguments.orNull o₁).asOperand]
        else [(Arguments.orNull o₁).asOperand, (Arguments.orNull o₂).asOperand])
      ++ [(Arguments.orNull (some a)).asOperand] := by
    rw [← Value.isFalsy_asOperand operand₁, ← Value.isNull_asOperand operand₂, ← same₁, ← same₂,
      ← sameA]
    rfl
  unfold BuildsRow
  rw [row]
  simp only [run, Style.array]
  cases (Arguments.orNull o₁).isFalsy with
  | true => rfl
  | false => cases (Arguments.orNull o₂).isNull <;> rfl

theorem buildsRow_collator (accepts : collator.Accepts args)
    (taken : ∀ v ∈ args.given, collator.takes v = true) : collator.BuildsRow args := by
  obtain ⟨fixed, rest⟩ := args
  obtain ⟨o₁, o₂, o₃, rfl⟩ := List.length_eq_three.mp accepts.places
  obtain ⟨operands, same⟩ := values_of_takes [o₁, o₂, o₃] (by decide) taken fun _ => id
  unfold BuildsRow
  simp only [StyleFunction.operands, Bound.map, same]
  exact congrArg Except.ok (ofOperator_record .collator
    ["case-sensitive", "diacritic-sensitive", "locale"] operands [])

theorem buildsRow_numberFormat (accepts : numberFormat.Accepts args)
    (taken : ∀ v ∈ args.given, numberFormat.takes v = true) : numberFormat.BuildsRow args := by
  obtain ⟨a, others, form, size⟩ := accepts.firstGiven (n := 4) rfl Nat.one_pos
  rw [accepts.noRest rfl] at form
  subst form
  obtain ⟨o₁, others, rfl⟩ := List.exists_cons_of_length_eq_add_one size
  obtain ⟨o₂, o₃, o₄, rfl⟩ := List.length_eq_three.mp (Nat.succ.inj size)
  obtain ⟨operands, same⟩ := values_of_takes [o₁, o₂, o₃, o₄] (by decide) taken
    fun _ => List.mem_cons_of_mem _
  have sameA : a.translated = a.asOperand :=
    (orNull_of_takes (o := some a) (by decide) taken List.mem_cons_self).2
  have row : StyleFunction.operands .numberFormat
      (Bound.map Value.translated ⟨[some a, o₁, o₂, o₃, o₄], []⟩) =
      a.asOperand :: recordOperands
        ["locale", "currency", "min-fraction-digits", "max-fraction-digits"]
        (([o₁, o₂, o₃, o₄].map Arguments.orNull).map Value.asOperand) := by
    rw [← same, ← sameA]
    rfl
  unfold BuildsRow
  rw [row]
  exact congrArg Except.ok (ofOperator_record .numberFormat
    ["locale", "currency", "min-fraction-digits", "max-fraction-digits"] operands [a])

theorem buildsRow_format (accepts : format.Accepts args)
    (taken : ∀ v ∈ args.given, format.takes v = true) : format.BuildsRow args := by
  obtain ⟨fixed, rest⟩ := args
  obtain rfl : fixed = [] := List.length_eq_zero_iff.mp accepts.places
  have sections : rest.map Style.formatSection = (rest.map Value.translated).map sectionOperand := by
    rw [List.map_map]
    exact List.map_congr_left fun v member => formatSection_eq (taken v member)
  exact congrArg (fun parts => Except.ok (Expression.ofParts _ parts)) sections

/-! ## All functions -/

/-- A function of the style vocabulary builds the array of its row in the table. -/
theorem run_eq (accepts : f.Accepts args) (taken : ∀ v ∈ args.given, f.takes v = true) :
    f.BuildsRow args := by
  have stands : f ≠ .format → ∀ v ∈ args.given, v.translated = v.asOperand :=
    fun notFormat v member => translated_of_takes notFormat (taken v member)
  cases f
  case zoom | elevation | e | pi | ln2 =>
    obtain rfl := accepts.leaf rfl
    rfl
  case literal | get | has | globalState =>
    obtain ⟨a, rfl⟩ := accepts.unary rfl Nat.one_pos
    have same : a.translated = a := Value.translated_of_isPlain (taken a List.mem_cons_self)
    exact congrArg (fun w => Except.ok (Expression.ofParts _ [w])) same.symm
  case sqrt | log10 | negate | toNumber | toText | toBoolean | toColor | string | number | boolean
      | object | typeOf | upcase | downcase | image | resolvedLocale | isSupportedScript | length
      | distance | within =>
    obtain ⟨a, rfl⟩ := accepts.unary rfl Nat.one_pos
    have same := stands (by decide) a List.mem_cons_self
    exact congrArg (fun w => Except.ok (Expression.ofParts _ [w])) same.symm
  case subtract | divide | remainder | power | eq | neq | gt | gte | lt | lte | itemAt | isIn =>
    obtain ⟨a, b, rfl⟩ := accepts.binary rfl rfl
    have sameA := stands (by decide) a (by simp [Bound.given])
    have sameB := stands (by decide) b (by simp [Bound.given])
    have parts : [a.asOperand, b.asOperand] = [a.translated, b.translated] := by rw [sameA, sameB]
    exact congrArg (fun parts => Except.ok (Expression.ofParts _ parts)) parts
  case caseOf | add | multiply | all | any | coalesce | concat =>
    rw [accepts.many rfl]
    have same : args.rest.map Value.translated = args.rest.map Value.asOperand :=
      List.map_congr_left fun v member => stands (by decide) v (List.mem_append_right _ member)
    exact congrArg (fun parts => Except.ok (Expression.ofParts _ parts)) same.symm
  case interpolate | interpolateHcl | interpolateLab | step =>
    obtain ⟨a, b, form⟩ := accepts.twoAndMany rfl rfl
    rw [form] at stands ⊢
    have sameA := stands (by decide) a (by simp [Bound.given])
    have sameB := stands (by decide) b (by simp [Bound.given])
    have same : args.rest.map Value.translated = args.rest.map Value.asOperand :=
      List.map_congr_left fun v member => stands (by decide) v (List.mem_append_right _ member)
    have parts : a.asOperand :: b.asOperand :: args.rest.map Value.asOperand =
        a.translated :: b.translated :: args.rest.map Value.translated := by
      rw [sameA, sameB, same]
    exact congrArg (fun parts => Except.ok (Expression.ofParts _ parts)) parts
  case slice =>
    exact buildsRow_of_optional (g := Style.slice) rfl rfl (by decide) (fun _ _ _ => rfl)
      (fun a b c => by unfold Style.slice; split <;> rfl) (fun _ => rfl) accepts taken
  case indexOf =>
    exact buildsRow_of_optional (g := Style.indexOf) rfl rfl (by decide) (fun _ _ _ => rfl)
      (fun a b c => by unfold Style.indexOf; split <;> rfl) (fun _ => rfl) accepts taken
  case array => exact buildsRow_array accepts taken
  case collator => exact buildsRow_collator accepts taken
  case numberFormat => exact buildsRow_numberFormat accepts taken
  case format => exact buildsRow_format accepts taken

/-! ## What a script gets -/

theorem argument_isPlain {args : Arguments} (plain : ∀ v ∈ args.given, v.isPlain = true)
    {o : Option Value} (member : o ∈ args.fixed) : (Arguments.orNull o).isPlain = true := by
  cases o with
  | none => rfl
  | some v =>
      exact plain v (List.mem_append_left _ (List.mem_filterMap.mpr ⟨some v, member, rfl⟩))

theorem setOptions_isPlain (names : List String) {options : List Value}
    (plain : ∀ v ∈ options, v.isPlain = true) :
    (Value.map (setOptions names options)).isPlain = true := by
  rw [Value.isPlain_map, List.all_eq_true]
  intro e member
  obtain ⟨option, found, kept⟩ := List.mem_filterMap.mp member
  split at kept
  · cases kept
  · cases kept
    exact Bool.and_eq_true_iff.mpr ⟨rfl, plain _ (List.of_mem_zip found).2⟩

theorem recordOperands_isPlain (names : List String) {options : List Value}
    (plain : ∀ v ∈ options, v.isPlain = true) :
    ∀ v ∈ recordOperands names options, v.isPlain = true := by
  unfold recordOperands
  split
  · exact fun _ absurd => (List.not_mem_nil absurd).elim
  · rintro v member
    cases List.mem_singleton.mp member
    exact setOptions_isPlain names plain

theorem sectionOperand_isPlain {v : Value} (plain : v.isPlain = true) :
    (sectionOperand v).isPlain = true := by
  unfold sectionOperand
  split
  · next es =>
      rw [Value.isPlain_map, List.all_eq_true] at plain
      refine setOptions_isPlain _ (List.forall_mem_map.mpr fun name _ => ?_)
      cases found : Entries.lookupName es name with
      | none => rfl
      | some v =>
          obtain ⟨k, member⟩ := Entries.mem_of_lookup found
          exact (Bool.and_eq_true_iff.mp (plain _ member)).2
  · exact plain

/-- Plain arguments make plain operands. -/
theorem operands_isPlain (f : StyleFunction) {args : Arguments}
    (plain : ∀ v ∈ args.given, v.isPlain = true) : ∀ v ∈ f.operands args, v.isPlain = true := by
  have values : ∀ v ∈ args.fixed.map Arguments.orNull, v.isPlain = true :=
    List.forall_mem_map.mpr fun o => argument_isPlain plain
  have argument : ∀ parameter, (args.argument parameter).isPlain = true := by
    intro parameter
    unfold Bound.argument
    cases found : args.fixed[parameter]? with
    | none => rfl
    | some o => exact argument_isPlain plain (List.mem_of_getElem? found)
  have rest : ∀ v ∈ args.rest, v.isPlain = true :=
    fun v member => plain v (List.mem_append_right _ member)
  unfold operands
  dsimp only
  split
  · rw [List.forall_mem_append]
    refine ⟨?_, List.forall_mem_singleton.mpr (argument 0)⟩
    split
    · exact fun _ absurd => (List.not_mem_nil absurd).elim
    · split
      · exact List.forall_mem_singleton.mpr (argument 1)
      · exact List.forall_mem_cons.mpr ⟨argument 1, List.forall_mem_singleton.mpr (argument 2)⟩
  · exact recordOperands_isPlain _ values
  · exact List.forall_mem_cons.mpr ⟨argument 0,
      recordOperands_isPlain _ fun v member => values v (List.mem_of_mem_drop member)⟩
  · exact List.forall_mem_map.mpr fun v member => sectionOperand_isPlain (rest v member)
  · rw [List.forall_mem_append, List.forall_mem_append]
    exact ⟨⟨fun v member => values v (List.mem_of_mem_take member),
      fun v member => values v (List.mem_of_mem_drop (List.mem_of_mem_filter member))⟩, rest⟩

theorem row_isPlain (taken : ∀ v ∈ args.given, f.takes v = true) :
    (f.row (args.map Value.translated)).isPlain = true := by
  have plain : ∀ v ∈ (args.map Value.translated).given, v.isPlain = true := by
    intro v member
    obtain ⟨w, given, rfl⟩ := Bound.mem_given_map member
    exact Value.translated_isPlain (isSection_of_takes (taken w given))
  rw [row, Value.isPlain_list, List.all_cons, Bool.and_eq_true]
  exact ⟨rfl, List.all_eq_true.mpr (operands_isPlain f plain)⟩

/-- Nothing that a function takes is the live record of a layer. -/
theorem view_of_isSection {v : Value} (stands : v.isSection = true) (s : Session) :
    Act.exec (Act.view v) s = (.ok v, s) := by
  rw [Act.exec_view]
  cases v with
  | record id => cases (Value.isPlain_iff.mp stands).1
  | _ => rfl

/-- A call of a function of the style vocabulary gives an expression that holds the array of the
table. -/
theorem exec_run (accepts : f.Accepts args) (taken : ∀ v ∈ args.given, f.takes v = true)
    (s : Session) :
    Act.exec ((Function.style f).run (args.map .value)) s =
      (.ok (.expression (f.row (args.map Value.translated))), s) := by
  have looked : Act.exec (args.mapM Act.view) s = (.ok args, s) := by
    have same := Arguments.exec_mapM (g := id) args fun v member =>
      view_of_isSection (isSection_of_takes (taken v member)) s
    rw [same, Bound.map, Option.map_id, List.map_id, List.map_id]
  have built : f.BuildsRow args := run_eq accepts taken
  unfold BuildsRow at built
  rw [Function.run, Act.exec_bind_of_ok (Bound.exec_values args s), Act.exec_bind_of_ok looked,
    built, Act.exec_bind_of_ok (Act.exec_ofExcept _ s)]
  exact Act.exec_makeExpression (row_isPlain taken) s

end StyleFunction

end MapStyle.Script
