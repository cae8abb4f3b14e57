import Mathlib.Data.List.Forall2
import Mathlib.Data.List.ReduceOption
import MapStyle.Proofs.Shape.Leading

/-!
# The rules of a layer record

Nine keys of a layer record have a rule each: the kind of value that the key asks for, and whether
it has to be there.  The checks of a record go through the rules in their order, and at most one
thing is said about a key.

* `layerRules` are the rules, `KeyRule.Met` says when a record keeps one, and `KeyRule.Tells` what
  is said about its key.
* `RulesTell` puts that together, `RulesTell.unique` shows that it depends on the nine keys alone.
* `exists_tells_of_recordProblems` is the statement about the problems of a record as it is seen.
-/

namespace MapStyle.Shape

/-! ## Kinds of values -/

/-- What a key of a layer record can ask for. -/
inductive Kind where
  | text
  | map
  | number
  | expression
deriving DecidableEq, Repr

/-- A value is of a kind.  A map may also be a view of the scope or a live record, a boolean is no
number, and of an expression only the operator is looked at. -/
inductive IsOfKind : Kind → Value → Prop
  | text (t : String) : IsOfKind .text (.str t)
  | brokenText (symbols : List Text.Symbol) : IsOfKind .text (.broken symbols)
  | map (entries : Entries) : IsOfKind .map (.map entries)
  | scope (entries : Entries) : IsOfKind .map (.scope entries)
  | record (id : LayerId) : IsOfKind .map (.record id)
  | int (n : Int) : IsOfKind .number (.int n)
  | float (x : Binary64) : IsOfKind .number (.float x)
  | expression (op : Operator) (parts : List Value) :
    IsOfKind .expression (.list (.str op.tag :: parts))

theorem isText_iff {v : Value} : v.isText = true ↔ IsOfKind .text v := by
  constructor
  · intro isText
    cases v with
    | str t => exact .text t
    | broken symbols => exact .brokenText symbols
    | _ => cases isText
  · rintro (_ | _) <;> rfl

/-- Why a value is no expression, in words. -/
inductive IsNoExpression : Value → String → Prop
  | notArray {v : Value} : (∀ first parts, v ≠ .list (first :: parts)) →
    IsNoExpression v "Expression must be a non-empty array"
  | noOperator {first : Value} {parts : List Value} : ¬ IsOfKind .text first →
    IsNoExpression (.list (first :: parts)) "Expression must start with an operation name"
  | unknownOperator {tag : String} {parts : List Value} : (∀ op : Operator, op.tag ≠ tag) →
    IsNoExpression (.list (.str tag :: parts)) ("Unknown expression operator '" ++ tag ++ "'")
  | brokenOperator {symbols : List Text.Symbol} {parts : List Value} :
    IsNoExpression (.list (.broken symbols :: parts))
      ("Unknown expression operator '" ++ Text.escapedHalves symbols ++ "'")

theorem isSome_ofTag?_iff {tag : String} :
    (Operator.ofTag? tag).isSome = true ↔ ∃ op : Operator, op.tag = tag := by
  constructor
  · intro known
    obtain ⟨op, found⟩ := Option.isSome_iff_exists.mp known
    have same := List.find?_some found
    exact ⟨op, eq_of_beq same⟩
  · rintro ⟨op, rfl⟩
    rw [Operator.ofTag?_tag]
    rfl

theorem isOfKind_expression_iff {v : Value} : isExpression v = true ↔ IsOfKind .expression v := by
  rw [isExpression_iff]
  constructor
  · rintro ⟨tag, parts, rfl, known⟩
    obtain ⟨op, rfl⟩ := isSome_ofTag?_iff.mp known
    exact .expression op parts
  · rintro ⟨⟩
    exact ⟨_, _, rfl, isSome_ofTag?_iff.mpr ⟨_, rfl⟩⟩

/-- A value that the check of an expression finds fault with is none, and that is why. -/
theorem checkExpression_cases (v : Value) :
    (checkExpression v = none ∧ IsOfKind .expression v) ∨
      ∃ problem, checkExpression v = some problem ∧ IsNoExpression v problem.message := by
  unfold checkExpression
  split
  · exact Or.inr ⟨_, rfl, .notArray fun first parts => nofun⟩
  · next tag parts =>
      cases found : Operator.ofTag? tag with
      | some op =>
          obtain ⟨op, rfl⟩ := isSome_ofTag?_iff.mp (Option.isSome_of_eq_some found)
          exact Or.inl ⟨rfl, .expression op parts⟩
      | none =>
          refine Or.inr ⟨_, rfl, .unknownOperator fun op same => ?_⟩
          rw [← same, Operator.ofTag?_tag] at found
          cases found
  · exact Or.inr ⟨_, rfl, .brokenOperator⟩
  · next items notEmpty notLed notBroken =>
      cases items with
      | nil => exact (notEmpty rfl).elim
      | cons first parts =>
          refine Or.inr ⟨_, rfl, .noOperator ?_⟩
          rintro (t | symbols)
          · exact notLed t parts rfl
          · exact notBroken symbols parts rfl
  · next notList =>
      exact Or.inr ⟨_, rfl, .notArray fun first parts same => notList _ same⟩

theorem IsNoExpression.not_isOfKind {v : Value} {reason : String} (reasoned : IsNoExpression v reason) :
    ¬ IsOfKind .expression v := by
  rintro ⟨⟩
  cases reasoned with
  | notArray none => exact none _ _ rfl
  | noOperator noText => exact noText (.text _)
  | unknownOperator unknown => exact unknown _ rfl

/-- There is one reason why a value is no expression. -/
theorem IsNoExpression.unique {v : Value} {reason other : String}
    (reasoned : IsNoExpression v reason) (again : IsNoExpression v other) : reason = other := by
  cases reasoned with
  | notArray none =>
      cases again with
      | notArray => rfl
      | noOperator | unknownOperator | brokenOperator => exact (none _ _ rfl).elim
  | noOperator noText =>
      cases again with
      | notArray none => exact (none _ _ rfl).elim
      | noOperator => rfl
      | unknownOperator => exact (noText (.text _)).elim
      | brokenOperator => exact (noText (.brokenText _)).elim
  | unknownOperator =>
      cases again with
      | notArray none => exact (none _ _ rfl).elim
      | noOperator noText => exact (noText (.text _)).elim
      | unknownOperator => rfl
  | brokenOperator =>
      cases again with
      | notArray none => exact (none _ _ rfl).elim
      | noOperator noText => exact (noText (.brokenText _)).elim
      | brokenOperator => rfl

/-! ## Rules -/

/-- The rule of a key: what it asks for, and whether it needs to be there. -/
structure KeyRule where
  key : String
  kind : Kind
  needed : Bool
deriving DecidableEq, Repr

/-- The rules of a layer record, in the order in which they are checked. -/
def layerRules : List KeyRule :=
  [⟨"id", .text, true⟩, ⟨"type", .text, true⟩, ⟨"source", .text, true⟩,
   ⟨"source-layer", .text, false⟩, ⟨"paint", .map, false⟩, ⟨"layout", .map, false⟩,
   ⟨"minzoom", .number, false⟩, ⟨"maxzoom", .number, false⟩, ⟨"filter", .expression, false⟩]

namespace KeyRule

variable {rule : KeyRule} {found : Option Value}

/-- What is found under a key is as its rule asks. -/
inductive Met (rule : KeyRule) : Option Value → Prop
  | absent : rule.needed = false → Met rule none
  | there {v : Value} : IsOfKind rule.kind v → Met rule (some v)

/-- What is found under a key is not as its rule asks, and the message about that. -/
inductive Broken (rule : KeyRule) : Option Value → String → Prop
  | missing : rule.needed = true → Broken rule none ("Layer is missing '" ++ rule.key ++ "'")
  | notText {v : Value} : rule.kind = .text → ¬ IsOfKind .text v →
    Broken rule (some v) ("Layer '" ++ rule.key ++ "' must be a string")
  | notMap {v : Value} : rule.kind = .map → ¬ IsOfKind .map v →
    Broken rule (some v) ("Layer '" ++ rule.key ++ "' must be an object")
  | notNumber {v : Value} : rule.kind = .number → ¬ IsOfKind .number v →
    Broken rule (some v) ("Layer '" ++ rule.key ++ "' must be a number")
  | noExpression {v : Value} {reason : String} : rule.kind = .expression → IsNoExpression v reason →
    Broken rule (some v) ("Layer 'filter' is invalid: " ++ reason)

/-- What is said about a key: nothing if its rule is met, and one message otherwise. -/
inductive Tells (rule : KeyRule) (found : Option Value) : Option String → Prop
  | nothing : rule.Met found → Tells rule found none
  | message {text : String} : rule.Broken found text → Tells rule found (some text)

theorem Broken.not_met {text : String} (broken : rule.Broken found text) : ¬ rule.Met found := by
  intro met
  cases broken with
  | missing needed =>
      cases met with
      | absent notNeeded => exact absurd (needed.symm.trans notNeeded) (by decide)
  | notText kind other | notMap kind other | notNumber kind other =>
      cases met with
      | there holds => exact other (kind ▸ holds)
  | noExpression kind reasoned =>
      cases met with
      | there holds => exact reasoned.not_isOfKind (kind ▸ holds)

/-- There is one message about a key whose rule is broken. -/
theorem Broken.unique {text other : String} (broken : rule.Broken found text)
    (again : rule.Broken found other) : text = other := by
  have kinds : ∀ {a b : Kind}, rule.kind = a → rule.kind = b → a ≠ b → False :=
    fun first second differ => differ (first.symm.trans second)
  cases broken with
  | missing => cases again; rfl
  | notText kind =>
      cases again with
      | notText => rfl
      | notMap other | notNumber other | noExpression other => exact (kinds kind other nofun).elim
  | notMap kind =>
      cases again with
      | notMap => rfl
      | notText other | notNumber other | noExpression other => exact (kinds kind other nofun).elim
  | notNumber kind =>
      cases again with
      | notNumber => rfl
      | notText other | notMap other | noExpression other => exact (kinds kind other nofun).elim
  | noExpression kind reasoned =>
      cases again with
      | noExpression _ reasonedAgain => rw [reasoned.unique reasonedAgain]
      | notText other | notMap other | notNumber other => exact (kinds kind other nofun).elim

theorem Tells.unique {said other : Option String} (tells : rule.Tells found said)
    (again : rule.Tells found other) : said = other := by
  cases tells with
  | nothing met =>
      cases again with
      | nothing => rfl
      | message broken => exact (broken.not_met met).elim
  | message broken =>
      cases again with
      | nothing met => exact (broken.not_met met).elim
      | message brokenAgain => rw [broken.unique brokenAgain]

theorem Tells.eq_none_iff {said : Option String} (tells : rule.Tells found said) :
    said = none ↔ rule.Met found := by
  cases tells with
  | nothing met => exact iff_of_true rfl met
  | message broken => exact iff_of_false nofun broken.not_met

end KeyRule

/-- What the rules say about a record, one after the other. -/
def RulesTell (record : Entries) (said : List (Option String)) : Prop :=
  List.Forall₂ (fun rule text => rule.Tells (Entries.lookupName record rule.key) text) layerRules said

section RulesTell

variable {record other : Entries} {said again : List (Option String)}

/-- The rules say the same about records that agree on their keys. -/
theorem RulesTell.unique (tell : RulesTell record said) (tellOther : RulesTell other again)
    (same : ∀ rule ∈ layerRules,
      Entries.lookupName other rule.key = Entries.lookupName record rule.key) : said = again := by
  have tellAgain : RulesTell record again :=
    ((List.forall₂_and_left _ _).mpr ⟨same, tellOther⟩).imp fun rule text both =>
      both.1 ▸ both.2
  exact List.right_unique_forall₂' (fun _ _ _ tells tellsAgain => tells.unique tellsAgain) tell
    tellAgain

/-- Nothing is said about a record exactly if all rules are met. -/
theorem RulesTell.reduceOption_eq_nil_iff (tell : RulesTell record said) :
    said.reduceOption = [] ↔
      ∀ rule ∈ layerRules, rule.Met (Entries.lookupName record rule.key) := by
  unfold RulesTell at tell
  generalize layerRules = rules at tell ⊢
  induction tell with
  | nil => exact iff_of_true rfl nofun
  | @cons rule text rules texts tells _ ih =>
      rw [List.forall_mem_cons, ← ih, ← tells.eq_none_iff]
      cases text with
      | none => simp [List.reduceOption_cons_of_none]
      | some text => simp [List.reduceOption_cons_of_some]

end RulesTell

/-! ## Records as they are seen -/

section Seen

variable {shown : Value → Value} {record seen : Entries}

/-- Whoever sees the records in a value sees a value of the same kind. -/
theorem isOfKind_mapLeaves (shows : ShowsRecords shown)
    (all : ∀ id, ∃ entries, shown (.record id) = .map entries) (v : Value) :
    ((v.mapLeaves shown).isText = true ↔ IsOfKind .text v) ∧
      ((v.mapLeaves shown).entries?.isSome = true ↔ IsOfKind .map v) ∧
      ((v.mapLeaves shown).isNumber = true ↔ IsOfKind .number v) := by
  have no : ∀ {b : Bool} {p : Prop}, b = false → ¬ p → (b = true ↔ p) := fun off other =>
    iff_of_false (off ▸ Bool.false_ne_true) other
  cases v with
  | record id =>
      obtain ⟨entries, isMap⟩ := all id
      rw [Value.mapLeaves_of_isLeaf _ rfl, isMap]
      exact ⟨no rfl nofun, iff_of_true rfl (.record id), no rfl nofun⟩
  | map es => exact ⟨no rfl nofun, iff_of_true rfl (.map es), no rfl nofun⟩
  | scope es => exact ⟨no rfl nofun, iff_of_true rfl (.scope es), no rfl nofun⟩
  | str t =>
      rw [shows.mapLeaves_of_ne rfl (fun _ => Value.noConfusion)]
      exact ⟨iff_of_true rfl (.text t), no rfl nofun, no rfl nofun⟩
  | broken symbols =>
      rw [shows.mapLeaves_of_ne rfl (fun _ => Value.noConfusion)]
      exact ⟨iff_of_true rfl (.brokenText symbols), no rfl nofun, no rfl nofun⟩
  | int n =>
      rw [shows.mapLeaves_of_ne rfl (fun _ => Value.noConfusion)]
      exact ⟨no rfl nofun, no rfl nofun, iff_of_true rfl (.int n)⟩
  | float x =>
      rw [shows.mapLeaves_of_ne rfl (fun _ => Value.noConfusion)]
      exact ⟨no rfl nofun, no rfl nofun, iff_of_true rfl (.float x)⟩
  | null | bool | layer | highlighted | console =>
      rw [shows.mapLeaves_of_ne]
      · exact ⟨no rfl nofun, no rfl nofun, no rfl nofun⟩
      · rfl
      · exact fun _ => nofun
  | _ => exact ⟨no rfl nofun, no rfl nofun, no rfl nofun⟩

/-- The check of an expression looks at its operator, which is seen as it is. -/
theorem checkExpression_mapLeaves (shows : ShowsRecords shown) (v : Value) :
    checkExpression (v.mapLeaves shown) = checkExpression v := by
  have noOperator : ∀ {first : Value} {parts : List Value}, first.isText = false →
      checkExpression (.list (first :: parts)) = some .noOperator := by
    intro first parts noText
    cases first <;> first | rfl | cases noText
  cases v with
  | list items =>
      cases items with
      | nil => rfl
      | cons first parts =>
          rw [Value.mapLeaves, Value.mapLeavesOfItems]
          cases isText : first.isText with
          | true =>
              rw [(shows.mapLeaves_eq_text isText).mpr rfl]
              cases first <;> rfl
          | false =>
              have stays : (first.mapLeaves shown).isText = false := by
                refine Bool.eq_false_iff.mpr fun isSeen => ?_
                rw [← (shows.mapLeaves_eq_text isSeen).mp rfl] at isSeen
                rw [isText] at isSeen
                cases isSeen
              rw [noOperator stays, noOperator isText]
  | record id =>
      rw [Value.mapLeaves_of_isLeaf _ rfl]
      rcases shows.record id with same | ⟨entries, same⟩
      · rw [same]
      · rw [same]
        rfl
  | null | bool | int | float | str | broken | layer | highlighted | console =>
      rw [shows.mapLeaves_of_ne]
      · rfl
      · exact fun _ same => by cases same
  | _ => rfl

/-! ## The checks of a record -/

/-- What the check of one key finds. -/
def KeyRule.problems (rule : KeyRule) (record : Entries) : List LayerProblem :=
  match rule.kind with
  | .text => if rule.needed then requiredText record rule.key else optionalText record rule.key
  | .map => optionalSection record rule.key
  | .number => optionalNumber record rule.key
  | .expression => optionalFilter record rule.key

/-- The checks of a record go through the rules. -/
theorem recordProblems_eq (record : Entries) :
    recordProblems record = layerRules.flatMap fun rule => rule.problems record := by
  simp [recordProblems, layerRules, KeyRule.problems]

theorem kind_of_needed {rule : KeyRule} (listed : rule ∈ layerRules) (needed : rule.needed = true) :
    rule.kind = .text := by
  have each : ∀ rule ∈ layerRules, rule.needed = true → rule.kind = .text := by decide
  exact each rule listed needed

/-- The check of a key without anything under it. -/
theorem exists_tells_of_absent {rule : KeyRule} (listed : rule ∈ layerRules)
    (absent : Entries.lookupName seen rule.key = none) :
    ∃ said, rule.Tells none said ∧
      (rule.problems seen).map LayerProblem.message = said.toList := by
  cases needed : rule.needed with
  | true =>
      have kind := kind_of_needed listed needed
      have missing : rule.problems seen = [.missing rule.key] := by
        simp [KeyRule.problems, kind, needed, requiredText, absent]
      exact ⟨_, .message (.missing needed), by rw [missing]; rfl⟩
  | false =>
      have nothing : rule.problems seen = [] := by
        unfold KeyRule.problems optionalSection optionalNumber optionalFilter
        rw [needed, absent]
        cases rule.kind <;> simp [optionalText, absent]
      exact ⟨_, .nothing (.absent needed), by rw [nothing]; rfl⟩

/-- The check of a key that finds one problem with a value unless a test says that it is of the
kind. -/
theorem exists_tells_of_test {rule : KeyRule} {v : Value} {test : Bool} (problem : LayerProblem)
    (isTest : test = true ↔ IsOfKind rule.kind v)
    (checks : rule.problems seen = if test then [] else [problem])
    (broken : ¬ IsOfKind rule.kind v → rule.Broken (some v) problem.message) :
    ∃ said, rule.Tells (some v) said ∧
      (rule.problems seen).map LayerProblem.message = said.toList := by
  rw [checks]
  cases test with
  | true => exact ⟨_, .nothing (.there (isTest.mp rfl)), rfl⟩
  | false => exact ⟨_, .message (broken (mt isTest.mpr Bool.false_ne_true)), rfl⟩

/-- The check of a key with a value under it. -/
theorem exists_tells_of_found (shows : ShowsRecords shown)
    (all : ∀ id, ∃ entries, shown (.record id) = .map entries) {rule : KeyRule} {v : Value}
    (found : Entries.lookupName seen rule.key = some (v.mapLeaves shown)) :
    ∃ said, rule.Tells (some v) said ∧
      (rule.problems seen).map LayerProblem.message = said.toList := by
  obtain ⟨isText, isMap, isNumber⟩ := isOfKind_mapLeaves shows all v
  cases kind : rule.kind with
  | text =>
      exact exists_tells_of_test (.notText rule.key) (kind ▸ isText)
        (by simp [KeyRule.problems, kind, requiredText, optionalText, found])
        fun other => .notText kind (kind ▸ other)
  | map =>
      exact exists_tells_of_test (.notSection rule.key) (kind ▸ isMap)
        (by simp [KeyRule.problems, kind, optionalSection, found])
        fun other => .notMap kind (kind ▸ other)
  | number =>
      exact exists_tells_of_test (.notNumber rule.key) (kind ▸ isNumber)
        (by simp [KeyRule.problems, kind, optionalNumber, found])
        fun other => .notNumber kind (kind ▸ other)
  | expression =>
      have checked := checkExpression_mapLeaves shows v
      have problems : rule.problems seen =
          (checkExpression v).toList.map LayerProblem.badFilter := by
        simp only [KeyRule.problems, kind, optionalFilter, found, checked]
        cases checkExpression v <;> rfl
      rw [problems]
      rcases checkExpression_cases v with ⟨none, holds⟩ | ⟨problem, some, reasoned⟩
      · rw [none]
        exact ⟨_, .nothing (.there (kind ▸ holds)), rfl⟩
      · rw [some]
        exact ⟨_, .message (.noExpression kind reasoned), rfl⟩

/-- What the check of one key finds in a record as it is seen is what the rule of the key says about
the record. -/
theorem exists_tells_of_problems (shows : ShowsRecords shown)
    (all : ∀ id, ∃ entries, shown (.record id) = .map entries) {rule : KeyRule}
    (listed : rule ∈ layerRules)
    (found : Entries.lookupName seen rule.key =
      (Entries.lookupName record rule.key).map (Value.mapLeaves shown)) :
    ∃ said, rule.Tells (Entries.lookupName record rule.key) said ∧
      (rule.problems seen).map LayerProblem.message = said.toList := by
  cases under : Entries.lookupName record rule.key with
  | none =>
      rw [under, Option.map_none] at found
      exact exists_tells_of_absent listed found
  | some v =>
      rw [under, Option.map_some] at found
      exact exists_tells_of_found shows all found

/-- The messages about a record as it is seen are what the rules say about the record, in their
order. -/
theorem exists_tells_of_recordProblems (shows : ShowsRecords shown)
    (all : ∀ id, ∃ entries, shown (.record id) = .map entries)
    (found : ∀ name, Entries.lookupName seen name =
      (Entries.lookupName record name).map (Value.mapLeaves shown)) :
    ∃ said, RulesTell record said ∧
      (recordProblems seen).map LayerProblem.message = said.reduceOption := by
  rw [recordProblems_eq]
  suffices each : ∀ rules ⊆ layerRules, ∃ said,
      List.Forall₂ (fun rule text => rule.Tells (Entries.lookupName record rule.key) text) rules said ∧
      (rules.flatMap fun rule => rule.problems seen).map LayerProblem.message = said.reduceOption from
    each layerRules (List.Subset.refl _)
  intro rules
  induction rules with
  | nil => exact fun _ => ⟨[], .nil, rfl⟩
  | cons rule rules ih =>
      intro listed
      obtain ⟨first, others⟩ := List.cons_subset.mp listed
      obtain ⟨text, tells, same⟩ := exists_tells_of_problems shows all first (found rule.key)
      obtain ⟨texts, eachTells, sames⟩ := ih others
      refine ⟨text :: texts, .cons tells eachTells, ?_⟩
      rw [List.flatMap_cons, List.map_append, same, sames]
      cases text <;> rfl

end Seen

end MapStyle.Shape
