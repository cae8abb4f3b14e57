import MapStyle.Proofs.Forging.Sections
import MapStyle.Proofs.Script.Copies
import MapStyle.Proofs.Script.Shown
import MapStyle.Proofs.Shape.Made

/-!
# Formatted text is a normal form

Formatted text holds for each section what is written for it, and what is written for a section is
written for itself.  So formatted text of its own operands is the same array again, and other ways
to give the sections lead to it as well.

* `writtenFor` is what is written for some sections, `exec_formatOf` makes formatted text of it.
* `exec_formatAgain`: to format the operands of formatted text is to make an expression of its
  array.
* `LayerStore.Shows.formatSection` and `shows_format` say what is shown where live records are among
  the sections.
* `format_normal_form` puts this together as a `NormalForm`; `SettledForm` is the part of it that
  speaks of equality.
-/

namespace MapStyle

namespace LayerStore

variable {store : LayerStore} {v w : Value}

/-- With the present record in its place, nothing is a live record. -/
theorem view_ne_record (store : LayerStore) (v : Value) (id : LayerId) : store.view v ≠ .record id := by
  cases v <;> exact nofun

/-- What is written for a section shows what is written for what the section shows. -/
theorem Shows.formatSection (shows : store.Shows v w) :
    store.Shows (Style.formatSection (store.view v)) (Style.formatSection w) := by
  have written : store.Shows (Style.formatSection (store.view v))
      (store.resolve (Style.formatSection (store.view v))) :=
    formatSection_induction (P := fun u => store.Shows u (store.resolve u))
      (fun t => (of_isStructural store rfl).self) (fun shows child => shows.child child)
      (fun each => of_children rfl rfl (Value.forall_mem_pairs.mpr each)) shows.view.self
  obtain ⟨shown, showsRecords, resolves⟩ := store.exists_showsRecords store.length []
  have seen : store.resolve (Style.formatSection (store.view v)) = Style.formatSection w := by
    rw [← shows.view.resolves, resolve, resolve, resolves, resolves]
    exact (formatSection_mapLeaves showsRecords.keepsKinds (store.view_ne_record v)).symm
  exact seen ▸ written

/-- A list shows the list of what its items show. -/
theorem Shows.items {vs ws : List Value} (each : List.Forall₂ store.Shows vs ws) :
    store.Shows (.list vs) (.list ws) := by
  have alone : ∀ v ∈ vs, store.Shows v (store.resolve v) := by
    induction each with
    | nil => exact nofun
    | cons first _ ih => exact List.forall_mem_cons.mpr ⟨first.self, ih⟩
  have seen : vs.map store.resolve = ws := by
    induction each with
    | nil => rfl
    | cons first _ ih =>
        rw [List.map_cons, first.resolves, ih fun v among => alone v (List.mem_cons_of_mem _ among)]
  exact seen ▸ list alone

end LayerStore

namespace Script

open Act

/-- Formatted text of sections. -/
def formatOf (sections : List Value) : Act Value :=
  Function.run (.style .format) (Bound.map .value ⟨[], sections⟩)

/-- The operands of an array, which stand behind its operator. -/
def operandsOf : Value → List Value
  | .list (_ :: operands) => operands
  | _ => []

/-- Formatted text of the operands of formatted text, forged. -/
def formatAgain (e : Value) : Act Value := do formatOf (operandsOf (← Act.forge e))

section Formatting

variable {s : Session} {sections others : List Value}

/-- What is written in formatted text for its sections, for each of them one operand. -/
def writtenFor (s : Session) (sections : List Value) : List Value :=
  (sections.map s.layers.view).map Style.formatSection

theorem exec_formatOf (sections : List Value) (s : Session) :
    exec (formatOf sections) s =
      exec (makeExpression (.ofParts .format (writtenFor s sections))) s := by
  have looked : exec (Arguments.mapM Act.view ⟨[], sections⟩) s =
      (.ok ⟨[], sections.map s.layers.view⟩, s) :=
    Arguments.exec_mapM ⟨[], sections⟩ fun v _ => exec_view v s
  rw [formatOf, Function.run, exec_bind_of_ok (Bound.exec_values _ s), exec_bind_of_ok looked]
  rfl

/-- What is written for sections is written for itself. -/
theorem isWritten_writtenFor (legit : ∀ v ∈ sections, IsSection (s.layers.view v)) :
    ∀ p ∈ writtenFor s sections, IsWritten p :=
  List.forall_mem_map.mpr (List.forall_mem_map.mpr fun v among =>
    (legit v among).isWritten (s.layers.view_ne_record v))

theorem writtenFor_eq_self {operands : List Value} (written : ∀ p ∈ operands, IsWritten p) :
    writtenFor s operands = operands := by
  rw [writtenFor, List.map_map]
  refine (List.map_congr_left fun p among => ?_).trans (List.map_id operands)
  have present : s.layers.view p = p := by
    cases p with
    | record id => exact ((written _ among).notLive id rfl).elim
    | _ => rfl
  rw [Function.comp_apply, present, (written p among).itself, id]

/-- An array of an operator that is changed is the array of what is changed. -/
theorem mapLeaves_ofParts {g : Value → Value} (keeps : KeepsKinds g) (op : Operator)
    (parts : List Value) : (Expression.ofParts op parts).forged.mapLeaves g =
      (Expression.ofParts op (parts.map (Value.mapLeaves g))).forged := by
  rw [Expression.ofParts, Value.mapLeaves_list, List.map_cons]
  exact congrArg (fun tag => Value.list (tag :: _)) (keeps.text rfl)

/-- Formatted text of what is written for itself is what an expression of the forged array would
be. -/
theorem exec_formatAgain {operands : List Value} (written : ∀ p ∈ operands, IsWritten p)
    (s : Session) : exec (formatAgain (Expression.ofParts .format operands).toValue) s =
      exec (do makeExpression ⟨← Act.forge (Expression.ofParts .format operands).toValue⟩) s := by
  rw [formatAgain, exec_bind, exec_bind]
  cases forges : exec (Act.forge (Expression.ofParts .format operands).toValue) s with
  | mk answer s' =>
      cases answer with
      | error fault => rfl
      | ok array =>
          obtain ⟨g, kinds, -, rfl⟩ := isCopyOf_of_copy forges
          have still : ∀ p ∈ operands.map (Value.mapLeaves g), IsWritten p :=
            List.forall_mem_map.mpr fun p among => (written p among).mapLeaves kinds
          have copied := mapLeaves_ofParts kinds .format operands
          dsimp only
          rw [copied, Expression.ofParts, operandsOf, exec_formatOf, writtenFor_eq_self still]
          rfl

/-- Sections that are given in another way are written alike. -/
theorem map_formatSection_of_restyles {ws us : List Value}
    (restyled : List.Forall₂ (Relation.ReflTransGen Restyles) ws us) :
    us.map Style.formatSection = ws.map Style.formatSection := by
  induction restyled with
  | nil => rfl
  | cons first _ ih => exact congrArg₂ List.cons (formatSection_of_restyles first) ih

/-- Formatted text shows the formatted text of what its sections show. -/
theorem shows_format {ws : List Value} (shown : List.Forall₂ s.layers.Shows sections ws) :
    s.layers.Shows (Expression.ofParts .format (writtenFor s sections)).toValue
      (Style.format ws).toValue := by
  have each : List.Forall₂ s.layers.Shows (writtenFor s sections) (ws.map Style.formatSection) := by
    rw [writtenFor, List.map_map, List.forall₂_map_left_iff, List.forall₂_map_right_iff]
    exact shown.imp fun _ _ shows => shows.formatSection
  have tag : s.layers.Shows (.str Operator.format.tag) (.str Operator.format.tag) :=
    .of_isStructural _ rfl
  exact .expression (.items (.cons tag each))

theorem copyable_writtenFor (each : ∀ v ∈ sections, s.layers.Copyable (s.layers.view v)) :
    s.layers.Copyable (Expression.ofParts .format (writtenFor s sections)).forged := by
  refine .list (List.forall_mem_cons.mpr ⟨.of_isStructural _ rfl, ?_⟩)
  refine List.forall_mem_map.mpr (List.forall_mem_map.mpr fun v among => ?_)
  exact formatSection_induction (P := s.layers.Copyable) (fun t => .of_isStructural _ rfl)
    (fun copyable child => copyable.child child)
    (fun each => .of_children rfl rfl (Value.forall_mem_pairs.mpr each)) (each v among)

end Formatting

/-! ## The normal form -/

/-- Two values are equal in a script: what they show is. -/
def Session.Equates (s : Session) (v w : Value) : Prop :=
  (s.layers.resolve v).equals (s.layers.resolve w) = true

theorem Session.Equates.of_shows {s : Session} {v v' : Value} {e : Expression}
    (shown : s.layers.Shows v e.toValue) (shown' : s.layers.Shows v' e.toValue) : s.Equates v v' := by
  rw [Session.Equates, shown.resolves, shown'.resolves]
  exact Value.equals_self fun _ => nofun

/-- Formatted text of sections that show something: it is made, and as often as it is made again,
from its own operands or from the sections in another way, it is equal. -/
def SettledForm (s : Session) (sections ws : List Value) : Prop :=
  ∃ e s', exec (formatOf sections) s = (.ok e, s') ∧ s.Extends s' ∧
    (∃ e' s'', exec (formatAgain e) s' = (.ok e', s'') ∧ s''.Equates e e') ∧
    ∀ {others us}, List.Forall₂ s'.layers.Shows others us →
      List.Forall₂ (Relation.ReflTransGen Restyles) ws us →
      ∃ e' s'', exec (formatOf others) s' = (.ok e', s'') ∧ s''.Equates e e'

/-- What formatted text of sections is like. -/
structure NormalForm (s : Session) (sections : List Value) : Prop where
  /-- A call with these sections makes it. -/
  called : ∀ {scope terms}, List.Forall₂ (Answers scope s) terms sections →
    exec (eval scope (.call (.style .format) terms [])) s = exec (formatOf sections) s
  /-- It is made unless something in a section cannot be copied. -/
  makes : (∀ v ∈ sections, s.layers.Copyable (s.layers.view v)) →
    ∃ e s', exec (formatOf sections) s = (.ok e, s')
  /-- It has one operand for each section, in order: what is written for it, except for what a copy
  exchanges. -/
  oneEach : ∀ {e s'}, exec (formatOf sections) s = (.ok e, s') → ∃ each : Value → Value,
    (∀ p : Value, p.isStructural = true → each p = p) ∧
      e = .expression (.list (.str "format" :: (writtenFor s sections).map each))
  /-- Its operands can be formatted again, and that makes the expression of its forged array. -/
  again : ∀ {e s'}, exec (formatOf sections) s = (.ok e, s') →
    (∃ e' s'', exec (formatAgain e) s' = (.ok e', s'')) ∧
      exec (formatAgain e) s' = exec (do makeExpression ⟨← Act.forge e⟩) s'
  /-- Sections that are given in another way have the same outcome. -/
  restyled : ∀ {others}, List.Forall₂ (Relation.ReflTransGen Restyles)
      (sections.map s.layers.view) (others.map s.layers.view) →
    exec (formatOf others) s = exec (formatOf sections) s
  /-- Where all is known by what it holds, the expressions are equal. -/
  settled : ∀ {ws}, List.Forall₂ s.layers.Shows sections ws → SettledForm s sections ws

section Making

variable {s s' : Session} {sections : List Value} {e : Value}

/-- Formatted text that is made holds what is written for its sections, and can be copied. -/
theorem exists_operands_of_formatOf (made : exec (formatOf sections) s = (.ok e, s')) :
    ∃ g : Value → Value, KeepsKinds g ∧ (∀ p : Value, p.isStructural = true → p.mapLeaves g = p) ∧
      e = (Expression.ofParts .format ((writtenFor s sections).map (Value.mapLeaves g))).toValue ∧
      s'.layers.Copyable (Expression.ofParts .format
        ((writtenFor s sections).map (Value.mapLeaves g))).forged := by
  rw [exec_formatOf] at made
  obtain ⟨c, s₁, copies, rest⟩ := bind_eq_ok.mp made
  cases rest
  obtain ⟨g, kinds, keeps, rfl⟩ := isCopyOf_of_copy copies
  have array := mapLeaves_ofParts kinds .format (writtenFor s sections)
  exact ⟨g, kinds, keeps, congrArg Value.expression array, array ▸ copyable_of_copy copies⟩

/-- An expression of a forged array is made of whatever can be copied. -/
theorem exists_made_again {array : Value} (copyable : s.layers.Copyable array) :
    ∃ e s', exec (do makeExpression ⟨← Act.forge (.expression array)⟩) s = (.ok e, s') := by
  obtain ⟨c, s₁, forges, copyableCopy, -⟩ := exists_copy_copyable copyable
  obtain ⟨c', s₂, copies, -⟩ := exists_copy_copyable copyableCopy
  refine ⟨.expression c', s₂, (exec_bind_of_ok forges _).trans ?_⟩
  rw [makeExpression, exec_bind_of_ok copies, exec_pure]

/-- It shows what the first one shows. -/
theorem exists_shown_again {first : Expression} (shown : s.layers.Shows e first.toValue)
    (isExpression : ∃ array, e = .expression array) :
    ∃ e' s', exec (do makeExpression ⟨← Act.forge e⟩) s = (.ok e', s') ∧
      s'.layers.Shows e' first.toValue ∧ s.Extends s' := by
  obtain ⟨array, rfl⟩ := isExpression
  obtain ⟨c, s₁, forges, shownCopy, later⟩ := exists_copy_shown shown.of_expression
  obtain ⟨e', s₂, made, shown', later'⟩ := exists_makeExpression_shown (e := ⟨c⟩) shownCopy.expression
  exact ⟨e', s₂, (exec_bind_of_ok forges _).trans made, shown', later.trans later'⟩

end Making

/-- An expression that a function or a method makes holds a list, so that it can be a section and
the value of an option. -/
theorem Made.holdsList {s : Session} {v : Value} (made : Made v s) : v.HoldsList := by
  rintro array rfl
  obtain ⟨tag, parts, rfl, -⟩ := Shape.isExpression_iff.mp (made array rfl).1
  exact ⟨_, rfl⟩

/-- Formatted text is a normal form.  It has one operand for each section, and formatting its
operands again only copies it.  The order of the entries of a record of style, entries under other
keys than those of the options, null for an option that is not there, and whether expressions are
given as they are or forged make no difference.  Where all is known by what it holds, so that copies
are equal, the expressions are equal as well. -/
theorem format_normal_form {s : Session} {sections : List Value}
    (legit : ∀ v ∈ sections, IsSection (s.layers.view v)) : NormalForm s sections := by
  have written := isWritten_writtenFor legit
  have again : ∀ {e s'}, exec (formatOf sections) s = (.ok e, s') → ∀ s'',
      exec (formatAgain e) s'' = exec (do makeExpression ⟨← Act.forge e⟩) s'' := by
    intro e s' made s''
    obtain ⟨g, kinds, -, rfl, -⟩ := exists_operands_of_formatOf made
    exact exec_formatAgain
      (List.forall_mem_map.mpr fun p among => (written p among).mapLeaves kinds) s''
  constructor
  case called => exact fun answers => Answers.exec_call (.style .format) [] answers .nil rfl
  case makes =>
    intro copyable
    obtain ⟨c, s', copies, -⟩ := exists_copy_copyable (copyable_writtenFor copyable)
    refine ⟨.expression c, s', ?_⟩
    rw [exec_formatOf, makeExpression, exec_bind_of_ok copies, exec_pure]
  case oneEach =>
    intro e s' made
    obtain ⟨g, -, keeps, rfl, -⟩ := exists_operands_of_formatOf made
    exact ⟨Value.mapLeaves g, keeps, rfl⟩
  case again =>
    intro e s' made
    rw [again made s']
    obtain ⟨g, -, -, rfl, copyable⟩ := exists_operands_of_formatOf made
    exact ⟨exists_made_again copyable, rfl⟩
  case restyled =>
    intro others restyled
    rw [exec_formatOf, exec_formatOf, writtenFor, writtenFor, map_formatSection_of_restyles restyled]
  case settled =>
    intro ws shown
    obtain ⟨e, s', made, shownFirst, later⟩ := exists_makeExpression_shown (shows_format shown)
    have made := (exec_formatOf sections s).trans made
    refine ⟨e, s', made, later, ?_, fun {others us} shownOthers restyled => ?_⟩
    · obtain ⟨g, -, -, isExpression, -⟩ := exists_operands_of_formatOf made
      obtain ⟨e', s'', madeAgain, shown', later'⟩ := exists_shown_again shownFirst ⟨_, isExpression⟩
      exact ⟨e', s'', (again made s').trans madeAgain, .of_shows (later'.shows shownFirst) shown'⟩
    · have alike : Style.format us = Style.format ws :=
        congrArg (Expression.ofParts .format) (map_formatSection_of_restyles restyled)
      obtain ⟨e', s'', made', shown', later'⟩ := exists_makeExpression_shown (shows_format shownOthers)
      rw [alike] at shown'
      exact ⟨e', s'', (exec_formatOf others s').trans made', .of_shows (later'.shows shownFirst) shown'⟩

/-- Sections of each kind, and the same ones given in another way. -/
theorem format_normal_form_restyled :
    let s := Session.start ⟨"/", fun _ => .ok .empty, 80⟩
    let field := Style.get (.str "name")
    let scaled : Value := .map [(.str "font-scale", field.toValue)]
    let restyled : Value :=
      .map [(.str "x", .int 1), (.str "text-color", .null), (.str "font-scale", field.forged)]
    ∃ e s', exec (formatOf [field.toValue, scaled, .str "\n"]) s = (.ok e, s') ∧
      (∃ e' s'', exec (formatAgain e) s' = (.ok e', s'') ∧ s''.Equates e e') ∧
      ∃ e' s'', exec (formatOf [field.forged, restyled, .str "\n"]) s' = (.ok e', s'') ∧
        s''.Equates e e' := by
  intro s field scaled restyled
  have structural : ∀ store : LayerStore, ∀ {v : Value}, v.isStructural = true → store.Shows v v :=
    fun store => .of_isStructural store
  have made : exec (makeExpression field) s = (.ok field.toValue, s) := rfl
  have holdsList := (yields_makeExpression (Shape.isExpression_ofParts _ _) made).holdsList
  have legit : ∀ v ∈ [field.toValue, scaled, .str "\n"], IsSection (s.layers.view v) := by
    refine List.forall_mem_cons.mpr ⟨⟨holdsList, nofun⟩, List.forall_mem_cons.mpr ⟨⟨nofun, ?_⟩,
      List.forall_mem_singleton.mpr ⟨nofun, nofun⟩⟩⟩
    rintro es ⟨⟩
    exact List.forall_mem_singleton.mpr holdsList
  obtain ⟨e, s', made, -, again, others⟩ := (format_normal_form legit).settled
    (.cons (structural _ rfl) (.cons (structural _ rfl) (.cons (structural _ rfl) .nil)))
  refine ⟨e, s', made, again, others
    (.cons (structural _ rfl) (.cons (structural _ rfl) (.cons (structural _ rfl) .nil)))
    (.cons (.single .forged) (.cons ?_ (.cons .refl .nil)))⟩
  have forged : Restyles scaled (.map [(.str "font-scale", field.forged)]) :=
    .record rfl rfl (@RestylesEntries.forged [] [] _ [.str "get", .str "name"])
  have unset : Restyles (.map [(.str "font-scale", field.forged)])
      (.map [(.str "text-color", .null), (.str "font-scale", field.forged)]) :=
    .record rfl rfl (@RestylesEntries.unset [] [(.str "font-scale", field.forged)] _ rfl)
  have unknown : Restyles (.map [(.str "text-color", .null), (.str "font-scale", field.forged)])
      restyled := by
    refine .record rfl rfl (@RestylesEntries.unknown [] _ _ _ ?_)
    simp [Style.sectionOptions]
  exact .tail (.tail (.single forged) unset) unknown

/-- A session with so many layers, all of them alike. -/
def alikeLayers (n : Nat) : Session :=
  { Session.start ⟨"/", fun _ => .ok .empty, 80⟩ with
    layers := List.replicate n
      ⟨[(.str "id", .str "a"), (.str "type", .str "fill"), (.str "source", .str "s")]⟩ }

/-- Formatted text with a layer is not equal to formatted text of its operands, and not to that of
the forged section: each has a layer of its own. -/
theorem format_layer_not_equal :
    let layer : Term := .call (.construct .layer)
      [.constant (.str "fill"), .constant (.str "a"), .constant (.str "s")] []
    ∃ v s, exec (eval [] (.call (.style .literal) [layer] [])) (alikeLayers 0) = (.ok v, s) ∧
      ∃ e s', exec (formatOf [v]) s = (.ok e, s') ∧
        (∃ e' s'', exec (formatAgain e) s' = (.ok e', s'') ∧ ¬ s''.Equates e e') ∧
        ∃ e' s'', exec (do formatOf [← Act.forge v]) s' = (.ok e', s'') ∧ ¬ s''.Equates e e' :=
  ⟨.expression (.list [.str "literal", .layer 1]), alikeLayers 2, rfl,
    .expression (.list [.str "format", .list [.str "literal", .layer 2]]), alikeLayers 3, rfl,
    ⟨.expression (.list [.str "format", .list [.str "literal", .layer 4]]), alikeLayers 5, rfl,
      Bool.false_ne_true⟩,
    .expression (.list [.str "format", .list [.str "literal", .layer 4]]), alikeLayers 5, rfl,
    Bool.false_ne_true⟩

end Script

end MapStyle
