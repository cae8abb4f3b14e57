import Mathlib.Logic.Relation
import MapStyle.Expression.Style
import MapStyle.Proofs.Value.Kinds
import MapStyle.Proofs.Value.Names

/-!
# Sections of formatted text

In formatted text a record of style stands for the options that are set in it, in an order of its
own, and any other section stands for itself as an operand.  Only what is found under the names of
the options makes a difference.

* `styleOption` is what is written for an option of a record, and `formatSection_of_entries` says
  that a record is written option by option.
* `formatSection_of_restyles`: other ways to give a section make no difference.
* `IsSection.isWritten`: what is written for a section is written for itself.
* `formatSection_mapLeaves`: a change to leaves that leaves their kinds alone can be made before or
  after.
-/

namespace MapStyle

/-! ## Options of a record -/

/-- What is written for an option of a record of style: the value as an operand, if there is one
that is not null. -/
def styleOption (es : Entries) (name : String) : Option Value :=
  ((Entries.lookupName es name).filter fun v => !v.isNull).map Value.asOperand

/-- What is written for options of a record of style: those that are set, in the order of the
names. -/
def styleOptions (names : List String) (es : Entries) : Entries :=
  names.filterMap fun name => (styleOption es name).map (namedEntry name)

section Options

variable {es fs : Entries} {name : String}

theorem styleOptions_cons (name : String) (names : List String) (es : Entries) :
    styleOptions (name :: names) es =
      ((styleOption es name).map (namedEntry name)).toList ++ styleOptions names es := by
  rw [styleOptions, List.filterMap_cons]
  cases styleOption es name <;> rfl

/-- A record is written option by option. -/
theorem formatSection_of_entries {w : Value} (holds : w.entries? = some es) :
    Style.formatSection w = .map (styleOptions Style.sectionOptions es) := by
  suffices written : ∀ names : List String, optionRecord (names.map fun name =>
      namedEntry name ((Entries.lookupName es name).getD .null)) = styleOptions names es by
    rw [Style.formatSection, holds]
    exact congrArg Value.map (written Style.sectionOptions)
  intro names
  induction names with
  | nil => rfl
  | cons name names ih =>
      rw [styleOptions_cons, ← ih, styleOption]
      cases found : Entries.lookupName es name with
      | none => rw [optionRecord, List.map_cons, found]; rfl
      | some v =>
          rw [optionRecord, List.map_cons, found, List.filter_cons, Option.filter_some]
          cases isNull : v.isNull <;> simp [namedEntry, isNull, optionRecord]

theorem styleOptions_congr {names : List String}
    (each : ∀ name ∈ names, styleOption fs name = styleOption es name) :
    styleOptions names fs = styleOptions names es := by
  refine List.filterMap_congr fun name among => ?_
  rw [each name among]

/-- Under the name of an option one finds what is written for it. -/
theorem lookupName_styleOptions (names : List String) (es : Entries) (name : String) :
    Entries.lookupName (styleOptions names es) name =
      if name ∈ names then styleOption es name else none := by
  induction names with
  | nil => rfl
  | cons first names ih =>
      rw [styleOptions_cons]
      by_cases same : first = name
      · subst same
        rw [if_pos List.mem_cons_self]
        cases set : styleOption es first with
        | none =>
            rw [set, ite_self] at ih
            exact ih
        | some v => exact (Entries.lookupName_cons first v _).trans (if_pos rfl)
      · have others : name ∈ first :: names ↔ name ∈ names := by simp [Ne.symm same]
        rw [if_congr others rfl rfl, ← ih]
        cases styleOption es first with
        | none => rfl
        | some v => exact (Entries.lookupName_cons first v _).trans (if_neg same)

end Options

/-! ## Other ways to give a section -/

/-- A change to the entries of a record of style that is not to make a difference. -/
inductive RestylesEntries : Entries → Entries → Prop
  /-- The order of the entries. -/
  | order {es fs : Entries} : es.keys.Nodup → es.Perm fs → RestylesEntries es fs
  /-- An entry more, under a key that is no option. -/
  | unknown {before after : Entries} {k v : Value} :
    (∀ name ∈ Style.sectionOptions, k ≠ .str name) →
    RestylesEntries (before ++ after) (before ++ (k, v) :: after)
  /-- Null for an option that is not there. -/
  | unset {before after : Entries} {name : String} :
    Entries.lookupName (before ++ after) name = none →
    RestylesEntries (before ++ after) (before ++ (.str name, .null) :: after)
  /-- The forged list of an expression in its place. -/
  | forged {before after : Entries} {k : Value} {items : List Value} :
    RestylesEntries (before ++ (k, .expression (.list items)) :: after)
      (before ++ (k, .list items) :: after)

/-- A change to a section that is not to make a difference. -/
inductive Restyles : Value → Value → Prop
  /-- A change to the entries of a record of style. -/
  | record {w u : Value} {es fs : Entries} : w.entries? = some es → u.entries? = some fs →
    RestylesEntries es fs → Restyles w u
  /-- The forged list of an expression in its place. -/
  | forged {items : List Value} : Restyles (.expression (.list items)) (.list items)

section Restyling

variable {es fs : Entries} {name : String} {w u : Value}

theorem lookupName_append (es fs : Entries) (name : String) :
    Entries.lookupName (es ++ fs) name =
      (Entries.lookupName es name).or (Entries.lookupName fs name) := by
  unfold Entries.lookupName
  induction es with
  | nil => rfl
  | cons e es ih =>
      rw [List.cons_append, Entries.lookup, Entries.lookup]
      split
      · rfl
      · exact ih

/-- What is written for an option does not depend on the rest of a record, on the order, on null and
on whether an expression has been forged already. -/
theorem styleOption_of_restyles (restyles : RestylesEntries es fs)
    (among : name ∈ Style.sectionOptions) : styleOption fs name = styleOption es name := by
  have headed : ∀ (k v : Value) (after : Entries), Entries.lookupName ((k, v) :: after) name =
      if k.same (.str name) then some v else Entries.lookupName after name := fun _ _ _ => rfl
  cases restyles with
  | order distinct perm => rw [styleOption, styleOption, Entries.lookupName_perm distinct perm]
  | unknown other =>
      rw [styleOption, styleOption, lookupName_append, lookupName_append, headed,
        if_neg fun here => other name among (Value.eq_str_of_same here)]
  | @unset before after absent none =>
      rw [lookupName_append, Option.or_eq_none_iff] at none
      rw [styleOption, styleOption, lookupName_append, lookupName_append, Entries.lookupName_cons]
      by_cases same : absent = name
      · subst same
        rw [none.1, none.2, if_pos rfl]
        rfl
      · rw [if_neg same]
  | @forged before after k items =>
      rw [styleOption, styleOption, lookupName_append, lookupName_append, headed, headed]
      cases Entries.lookupName before name with
      | none => split <;> rfl
      | some v => rfl

/-- Other ways to give a section make no difference. -/
theorem formatSection_of_restyles (restyles : Relation.ReflTransGen Restyles w u) :
    Style.formatSection u = Style.formatSection w := by
  induction restyles with
  | refl => rfl
  | tail _ step ih =>
      rw [← ih]
      cases step with
      | record holds holds' restyles =>
          rw [formatSection_of_entries holds, formatSection_of_entries holds']
          exact congrArg Value.map
            (styleOptions_congr fun name among => styleOption_of_restyles restyles among)
      | forged => rfl

end Restyling

/-! ## What is written for itself -/

/-- If this is an expression, it holds a list, as every expression does that is made by an
operation. -/
def Value.HoldsList (v : Value) : Prop := ∀ array, v = .expression array → ∃ items, array = .list items

/-- A section of formatted text: plain, or an expression, or a record of style that may have
expressions as its values. -/
structure IsSection (w : Value) : Prop where
  expression : w.HoldsList
  options : ∀ {es}, w.entries? = some es → ∀ e ∈ es, e.2.HoldsList

/-- A value is written for itself, and it is no live record. -/
structure IsWritten (p : Value) : Prop where
  notLive : ∀ id, p ≠ .record id
  itself : Style.formatSection p = p

section Written

variable {w v : Value}

theorem Value.HoldsList.asOperand (holds : v.HoldsList) (notNull : v.isNull = false) :
    v.asOperand.isNull = false ∧ v.asOperand.asOperand = v.asOperand := by
  cases v with
  | expression array =>
      obtain ⟨items, rfl⟩ := holds array rfl
      exact ⟨rfl, rfl⟩
  | _ => exact ⟨notNull, rfl⟩

/-- What is written for an option is written for itself. -/
theorem styleOption_styleOptions {es : Entries} {name : String}
    (each : ∀ e ∈ es, e.2.HoldsList) (among : name ∈ Style.sectionOptions) :
    styleOption (styleOptions Style.sectionOptions es) name = styleOption es name := by
  have found := lookupName_styleOptions Style.sectionOptions es name
  rw [if_pos among] at found
  rw [styleOption, found, styleOption]
  cases set : Entries.lookupName es name with
  | none => rfl
  | some v =>
      rw [Option.filter_some]
      cases isNull : v.isNull with
      | true => rfl
      | false =>
          have holds := each _ (Entries.mem_of_lookupName set)
          obtain ⟨notNull, again⟩ := holds.asOperand isNull
          simp [notNull, again]

/-- What is written for a section is written for itself. -/
theorem IsSection.isWritten (isSection : IsSection w) (notLive : ∀ id, w ≠ .record id) :
    IsWritten (Style.formatSection w) := by
  cases holds : w.entries? with
  | some es =>
      rw [formatSection_of_entries holds]
      refine ⟨fun _ => nofun, (formatSection_of_entries rfl).trans (congrArg Value.map ?_)⟩
      exact styleOptions_congr fun name among =>
        styleOption_styleOptions (isSection.options holds) among
  | none =>
      have kept : Style.formatSection w = w.asOperand := by rw [Style.formatSection, holds]
      rw [kept]
      cases w with
      | expression array =>
          obtain ⟨items, rfl⟩ := isSection.expression array rfl
          exact ⟨fun _ => nofun, rfl⟩
      | _ => exact ⟨notLive, kept⟩

/-- What goes from a value to the values in it, and from such values to a record of them, goes from
a section to what is written for it. -/
theorem formatSection_induction {P : Value → Prop} (text : ∀ t, P (.str t))
    (child : ∀ {v u : Value}, P v → u ∈ v.children → P u)
    (record : ∀ {es : Entries}, (∀ e ∈ es, P e.1 ∧ P e.2) → P (.map es)) (holds : P w) :
    P (Style.formatSection w) := by
  have operand : ∀ {v : Value}, P v → P v.asOperand := by
    intro v holds
    cases v with
    | expression array => exact child holds List.mem_cons_self
    | _ => exact holds
  cases entries : w.entries? with
  | none =>
      rw [Style.formatSection, entries]
      exact operand holds
  | some es =>
      have under : ∀ e ∈ es, P e.2 := by
        intro e among
        refine child holds ?_
        cases w <;> cases entries <;>
          exact List.mem_flatMap.mpr ⟨e, among, List.mem_cons_of_mem _ List.mem_cons_self⟩
      rw [formatSection_of_entries entries]
      refine record fun e among => ?_
      obtain ⟨name, -, written⟩ := List.mem_filterMap.mp among
      obtain ⟨o, set, rfl⟩ := Option.map_eq_some_iff.mp written
      obtain ⟨v, found, rfl⟩ := Option.map_eq_some_iff.mp set
      have member := Entries.mem_of_lookupName (Option.filter_eq_some_iff.mp found).1
      exact ⟨text name, operand (under _ member)⟩

end Written

/-! ## Changes to leaves -/

section Leaves

variable {g : Value → Value} {w : Value}

theorem styleOption_mapLeaves (keeps : KeepsKinds g) (es : Entries) (name : String) :
    styleOption (Value.mapLeavesOfPairs g es) name = (styleOption es name).map (Value.mapLeaves g) := by
  rw [styleOption, keeps.lookupName, styleOption]
  cases Entries.lookupName es name with
  | none => rfl
  | some v =>
      rw [Option.map_some, Option.filter_some, Option.filter_some, keeps.isNull_mapLeaves]
      cases v.isNull with
      | true => rfl
      | false => exact congrArg some (keeps.asOperand_mapLeaves v)

theorem styleOptions_mapLeaves (keeps : KeepsKinds g) (names : List String) (es : Entries) :
    styleOptions names (Value.mapLeavesOfPairs g es) =
      Value.mapLeavesOfPairs g (styleOptions names es) := by
  have text : ∀ name, (Value.str name).mapLeaves g = .str name := fun _ => keeps.text rfl
  rw [Value.mapLeavesOfPairs_eq g (styleOptions names es), styleOptions, styleOptions,
    List.map_filterMap]
  refine List.filterMap_congr fun name _ => ?_
  rw [styleOption_mapLeaves keeps, Option.map_map, Option.map_map]
  congr 1
  funext v
  exact congrArg (·, v.mapLeaves g) (text name).symm

/-- What is written for a section that is changed is what is written for it, changed. -/
theorem formatSection_mapLeaves (keeps : KeepsKinds g) (notLive : ∀ id, w ≠ .record id) :
    Style.formatSection (w.mapLeaves g) = (Style.formatSection w).mapLeaves g := by
  cases holds : w.entries? with
  | some es =>
      have changed : (w.mapLeaves g).entries? = some (Value.mapLeavesOfPairs g es) := by
        cases w <;> cases holds <;> rfl
      rw [formatSection_of_entries holds, formatSection_of_entries changed,
        styleOptions_mapLeaves keeps]
      rfl
  | none =>
      have kept : Style.formatSection w = w.asOperand := by rw [Style.formatSection, holds]
      rw [Style.formatSection, keeps.entries?_mapLeaves_of_none holds notLive, kept]
      exact keeps.asOperand_mapLeaves w

theorem IsWritten.mapLeaves {p : Value} (written : IsWritten p) (keeps : KeepsKinds g) :
    IsWritten (p.mapLeaves g) where
  notLive := keeps.mapLeaves_ne_record written.notLive
  itself := by rw [formatSection_mapLeaves keeps written.notLive, written.itself]

end Leaves

end MapStyle
