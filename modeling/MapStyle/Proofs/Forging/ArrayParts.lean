import MapStyle.Proofs.Script.Copies
import MapStyle.Proofs.Script.Shown

/-!
# Arrays and their parts

The array of a chain is put together from parts: values that stand in it as they are, and operands,
of which expressions stand in it as what they forge to.  It is copied whenever it passes from one
object to another, so that a chain with an end copies some parts more often than others.

* `ArrayPart` is a part, `ArrayPart.stands` what is to stand in the array for it, and
  `ArrayPart.IsItem` says of an item of the array that it does.
* `Assembles` says of an outcome that it is the array of some parts.
* `Assembles.of_parts` puts an array together, `Assembles.copied` copies it, and
  `Assembles.joinedTo` puts one more operand behind it.
-/

namespace MapStyle.Script

open Act

/-! ## Parts -/

/-- An operand is used as it is if what is written for it is known by what it holds. -/
theorem exec_copyOperand_of_isStructural {v : Value} (structural : v.asOperand.isStructural = true)
    (s : Session) : exec (copyOperand v) s = (.ok v, s) := by
  cases v with
  | expression array =>
      have copies : exec (copy array) s = (.ok array, s) := exec_copy_of_isStructural structural s
      rw [copyOperand, exec_bind_of_ok copies, exec_pure]
  | _ => rfl

/-- A part of an array: a value that stands in it as it is, or an operand. -/
inductive ArrayPart where
  | kept (v : Value)
  | operand (v : Value)

namespace ArrayPart

/-- The value that a part is given as. -/
def value : ArrayPart → Value
  | .kept v | .operand v => v

/-- What is to stand in the array: an operand that is an expression is forged, and all else is taken
as it is. -/
def stands : ArrayPart → Act Value
  | .operand (.expression array) => Act.forge (.expression array)
  | .operand v | .kept v => pure v

/-- An item of an array stands there for a part: it is a copy of what is to stand there. -/
def IsItem (part : ArrayPart) (item : Value) : Prop :=
  ∃ s s' w, exec part.stands s = (.ok w, s') ∧ item.IsCopyOf w

/-- What a part shows in an array. -/
def shown (store : LayerStore) : ArrayPart → Value
  | .kept v => store.resolve v
  | .operand v =>
    match store.resolve v with
    | .expression array => array
    | w => w

/-- The value that is written into the array for a part. -/
def written : ArrayPart → Value
  | .kept v => v
  | .operand v => v.asOperand

/-- A part with a copy of its operand. -/
def copied : ArrayPart → Act ArrayPart
  | .kept v => pure (.kept v)
  | .operand v => do return .operand (← copyOperand v)

section Steps

variable {part q : ArrayPart} {s s' : Session}

theorem isStructural_written (structural : part.value.isStructural = true) :
    part.written.isStructural = true := by
  rcases part with v | v
  · exact structural
  · cases v with
    | expression array => exact (Value.isStructural_iff.mp structural).2 array List.mem_cons_self
    | _ => exact structural

/-- What is to stand in the array is what is written, if that is known by what it holds. -/
theorem exec_stands_of_isStructural (structural : part.written.isStructural = true) (s : Session) :
    exec part.stands s = (.ok part.written, s) := by
  rcases part with v | v
  · rfl
  · cases v <;> first | exact exec_copy_of_isStructural structural s | rfl

/-- So is the part, then. -/
theorem exec_copied_of_isStructural (structural : part.written.isStructural = true) (s : Session) :
    exec part.copied s = (.ok part, s) := by
  rcases part with v | v
  · rfl
  · rw [copied, exec_bind_of_ok (exec_copyOperand_of_isStructural structural s), exec_pure]

/-- What is written for a copy of a part stands there for the part. -/
theorem isItem_of_copied (copies : exec part.copied s = (.ok q, s')) : part.IsItem q.written := by
  rcases part with v | v
  · cases copies
    exact ⟨s, s, v, rfl, .refl v⟩
  · obtain ⟨w, s₁, copiesOperand, same⟩ := bind_eq_ok.mp copies
    cases same
    cases v with
    | expression array =>
        obtain ⟨c, s₂, copiesArray, wraps⟩ := bind_eq_ok.mp copiesOperand
        cases wraps
        exact ⟨s, _, c, copiesArray, .refl c⟩
    | _ =>
        cases copiesOperand
        exact ⟨s, s, _, rfl, .refl _⟩

/-- A part that can be copied has a copy, and what is written for it can be copied. -/
theorem exists_copied (copyable : s.layers.Copyable part.value) :
    ∃ q s', exec part.copied s = (.ok q, s') ∧ s'.layers.Copyable q.written ∧
      s.StaysCopyable s' := by
  rcases part with v | v
  · exact ⟨.kept v, s, rfl, copyable, fun _ => id⟩
  · cases v with
    | expression array =>
        obtain ⟨c, s', copies, copyableCopy, stays⟩ :=
          exists_copy_copyable (copyable.child List.mem_cons_self)
        refine ⟨.operand (.expression c), s', ?_, copyableCopy, stays⟩
        simp only [copied, copyOperand, exec_bind, copies, exec_pure]
    | _ => exact ⟨.operand _, s, rfl, copyable.asOperand, fun _ => id⟩

/-- A part that shows something has a copy, and what is written for it shows the same. -/
theorem exists_copied_shown {store : LayerStore}
    (shows : s.layers.Shows part.value (store.resolve part.value)) :
    ∃ q s', exec part.copied s = (.ok q, s') ∧ s'.layers.Shows q.written (part.shown store) ∧
      s.Extends s' := by
  rcases part with v | v
  · exact ⟨.kept v, s, rfl, shows, .refl s⟩
  · have operand : s.layers.Shows v.asOperand (shown store (.operand v)) := by
      have asShown : (store.resolve v).asOperand = shown store (.operand v) := by
        unfold shown
        dsimp only
        cases store.resolve v <;> rfl
      exact asShown ▸ shows.asOperand
    cases v with
    | expression array =>
        obtain ⟨c, s', copies, shown, later⟩ := exists_copy_shown operand
        replace copies : exec (copy array) s = (.ok c, s') := copies
        refine ⟨.operand (.expression c), s', ?_, shown, later⟩
        simp only [copied, copyOperand, exec_bind, copies, exec_pure]
    | _ => exact ⟨.operand _, s, rfl, operand, .refl s⟩

end Steps

end ArrayPart

/-! ## Runs over lists -/

namespace Act

variable {α β : Type} {f : α → Act β} {items : List α}

/-- What every step answers a run over a list answers item by item. -/
theorem forall₂_of_mapM {R : α → β → Prop}
    (each : ∀ a s b s', exec (f a) s = (.ok b, s') → R a b) {s s' : Session} {answers : List β}
    (runs : exec (items.mapM f) s = (.ok answers, s')) : List.Forall₂ R items answers := by
  induction items generalizing s answers with
  | nil =>
      cases runs
      exact .nil
  | cons a items ih =>
      rw [List.mapM_cons] at runs
      obtain ⟨b, s₁, first, rest⟩ := bind_eq_ok.mp runs
      obtain ⟨others, s₂, runsRest, same⟩ := bind_eq_ok.mp rest
      cases same
      exact .cons (each _ _ _ _ first) (ih runsRest)

/-- A run over a list answers if every step answers in all sessions that earlier steps can leave,
and what holds of their answers still holds at the end. -/
theorem exists_mapM (Later : Session → Session → Prop) (Ready : α → Session → Prop)
    (Done : α → β → Session → Prop) (refl : ∀ s, Later s s)
    (trans : ∀ {s s₁ s₂}, Later s s₁ → Later s₁ s₂ → Later s s₂)
    (ready : ∀ {a s s'}, Ready a s → Later s s' → Ready a s')
    (done : ∀ {a b s s'}, Done a b s → Later s s' → Done a b s')
    (each : ∀ {a s}, Ready a s → ∃ b s', exec (f a) s = (.ok b, s') ∧ Done a b s' ∧ Later s s')
    {s : Session} (start : ∀ a ∈ items, Ready a s) :
    ∃ answers s', exec (items.mapM f) s = (.ok answers, s') ∧
      List.Forall₂ (fun a b => Done a b s') items answers ∧ Later s s' := by
  induction items generalizing s with
  | nil => exact ⟨[], s, rfl, .nil, refl s⟩
  | cons a items ih =>
      obtain ⟨readyFirst, readyRest⟩ := List.forall_mem_cons.mp start
      obtain ⟨b, s₁, first, isDone, later⟩ := each readyFirst
      obtain ⟨answers, s₂, rest, areDone, again⟩ :=
        ih fun a' member => ready (readyRest a' member) later
      refine ⟨b :: answers, s₂, ?_, .cons (done isDone again) areDone, trans later again⟩
      rw [List.mapM_cons, exec_bind_of_ok first, exec_bind_of_ok rest, exec_pure]

end Act

/-! ## Putting an array together -/

/-- The array of parts: all operands are copied first, and then the array that they stand in. -/
def arrayOf (parts : List ArrayPart) : Act Value := do
  copy (.list ((← parts.mapM ArrayPart.copied).map ArrayPart.written))

/-- An array with one more operand behind it. -/
def joinedTo (array last : Value) : Act Value := do
  let forged ← copy array
  copy (Expression.followedBy ⟨forged⟩ (← copyOperand last)).forged

/-- The array of parts, with one more operand put behind it when it is finished. -/
def finishedArray (parts : List ArrayPart) (last : Value) : Act Value := do
  joinedTo (← arrayOf parts) last

/-- An outcome is the array of some parts, in the session that follows the one in which it was
begun. -/
structure Assembles (s : Session) (parts : List ArrayPart) (outcome : Except Fault Value × Session) :
    Prop where
  /-- If the parts are known by what they hold, in the array stands what they are or forge to. -/
  same : (∀ p ∈ parts, p.value.isStructural = true) → ∃ items,
    List.Forall₂ (fun p item => exec p.stands s = (.ok item, s)) parts items ∧
      outcome = (.ok (.list items), s)
  /-- Otherwise in the array stand copies of that. -/
  items : ∀ {array s'}, outcome = (.ok array, s') →
    ∃ items, array = .list items ∧ List.Forall₂ ArrayPart.IsItem parts items
  /-- There is an array if all parts can be copied. -/
  copyable : (∀ p ∈ parts, s.layers.Copyable p.value) → ∃ array s', outcome = (.ok array, s') ∧
    s'.layers.Copyable array ∧ s.StaysCopyable s'
  /-- It shows what the parts show. -/
  shown : (∀ p ∈ parts, s.layers.Shows p.value (s.layers.resolve p.value)) → ∃ array s',
    outcome = (.ok array, s') ∧
      s'.layers.Shows array (.list (parts.map (ArrayPart.shown s.layers))) ∧ s.Extends s'

namespace ArrayPart

/-- Copies of items stand for the same parts. -/
theorem forall₂_isItem_copies {parts : List ArrayPart} {items copies : List Value}
    (stand : List.Forall₂ IsItem parts items)
    (copied : List.Forall₂ (fun item c => Value.IsCopyOf c item) items copies) :
    List.Forall₂ IsItem parts copies := by
  induction stand generalizing copies with
  | nil =>
      cases copied
      exact .nil
  | cons isItem _ ih =>
      cases copied with
      | cons isCopy rest =>
          obtain ⟨s, s', w, stands, first⟩ := isItem
          exact .cons ⟨s, s', w, stands, isCopy.trans first⟩ (ih rest)

end ArrayPart

/-- For parts known by what they hold stands what is written for them. -/
theorem ArrayPart.eq_of_stand {parts : List ArrayPart} {items : List Value} {s : Session}
    (structural : ∀ p ∈ parts, p.value.isStructural = true)
    (stand : List.Forall₂ (fun p item => exec p.stands s = (.ok item, s)) parts items) :
    items = parts.map written := by
  induction stand with
  | nil => rfl
  | cons first _ ih =>
      obtain ⟨here, rest⟩ := List.forall_mem_cons.mp structural
      cases (exec_stands_of_isStructural (isStructural_written here) s).symm.trans first
      rw [ih rest, List.map_cons]

theorem ArrayPart.isStructural_of_stand {parts : List ArrayPart} {items : List Value} {s : Session}
    (structural : ∀ p ∈ parts, p.value.isStructural = true)
    (stand : List.Forall₂ (fun p item => exec p.stands s = (.ok item, s)) parts items) :
    ∀ item ∈ items, item.isStructural = true := by
  rw [eq_of_stand structural stand]
  exact List.forall_mem_map.mpr fun p member => isStructural_written (structural p member)

/-- With parts known by what they hold, the array is what is written for them. -/
theorem exec_arrayOf_of_isStructural {parts : List ArrayPart}
    (structural : (Value.list (parts.map ArrayPart.written)).isStructural = true) (s : Session) :
    exec (arrayOf parts) s = (.ok (.list (parts.map ArrayPart.written)), s) := by
  have each := List.forall_mem_map.mp (Value.isStructural_iff.mp structural).2
  have copies : exec (parts.mapM ArrayPart.copied) s = (.ok (parts.map id), s) :=
    exec_mapM fun p member => ArrayPart.exec_copied_of_isStructural (each p member) s
  rw [arrayOf, exec_bind_of_ok copies, List.map_id]
  exact exec_copy_of_isStructural structural s

/-- So is the array with one more operand behind it. -/
theorem exec_finishedArray_of_isStructural {parts : List ArrayPart} {last : Value}
    (structural : (Value.list (parts.map ArrayPart.written ++ [last.asOperand])).isStructural = true)
    (s : Session) :
    exec (finishedArray parts last) s =
      (.ok (.list (parts.map ArrayPart.written ++ [last.asOperand])), s) := by
  obtain ⟨front, behind⟩ := List.forall_mem_append.mp (Value.isStructural_iff.mp structural).2
  have array : (Value.list (parts.map ArrayPart.written)).isStructural = true :=
    Value.isStructural_list front
  have operand := exec_copyOperand_of_isStructural (behind _ List.mem_cons_self) s
  rw [finishedArray, exec_bind_of_ok (exec_arrayOf_of_isStructural array s), joinedTo,
    exec_bind_of_ok (exec_copy_of_isStructural array s), exec_bind_of_ok operand]
  exact exec_copy_of_isStructural structural s

namespace Assembles

variable {s : Session} {parts : List ArrayPart} {act : Act Value} {last : Value}

/-- The array of parts. -/
theorem of_parts (s : Session) (parts : List ArrayPart) :
    Assembles s parts (exec (arrayOf parts) s) where
  same structural := by
    have written := fun p member => ArrayPart.isStructural_written (structural p member)
    refine ⟨parts.map ArrayPart.written, ?_, exec_arrayOf_of_isStructural
      (Value.isStructural_list (List.forall_mem_map.mpr written)) s⟩
    refine List.forall₂_map_right_iff.mpr (List.forall₂_same.mpr fun p member => ?_)
    exact ArrayPart.exec_stands_of_isStructural (written p member) s
  items := by
    intro array s' answered
    obtain ⟨qs, s₁, runs, copies⟩ := bind_eq_ok.mp answered
    obtain ⟨items, rfl, copied⟩ := (isCopyOf_of_copy copies).items
    have stand : List.Forall₂ ArrayPart.IsItem parts (qs.map ArrayPart.written) :=
      List.forall₂_map_right_iff.mpr
        (forall₂_of_mapM (fun _ _ _ _ => ArrayPart.isItem_of_copied) runs)
    exact ⟨items, rfl, ArrayPart.forall₂_isItem_copies stand copied⟩
  copyable each := by
    obtain ⟨qs, s₁, runs, copyable, stays⟩ := exists_mapM Session.StaysCopyable
      (fun (p : ArrayPart) s => s.layers.Copyable p.value)
      (fun _ (q : ArrayPart) s => s.layers.Copyable q.written)
      (fun _ _ => id) (fun first next => first.trans next) (fun ready later => later _ ready)
      (fun done later => later _ done) ArrayPart.exists_copied each
    have items : ∀ q ∈ qs, s₁.layers.Copyable q.written :=
      ((List.forall₂_and_left _ _).mp (copyable.flip.imp fun _ _ done => ⟨done, trivial⟩)).1
    obtain ⟨array, s', copies, copyableArray, again⟩ :=
      exists_copy_copyable (LayerStore.Copyable.list (List.forall_mem_map.mpr items))
    exact ⟨array, s', (exec_bind_of_ok runs _).trans copies, copyableArray, stays.trans again⟩
  shown each := by
    obtain ⟨qs, s₁, runs, shown, later⟩ := exists_mapM Session.Extends
      (fun (p : ArrayPart) s₁ => s₁.layers.Shows p.value (s.layers.resolve p.value))
      (fun p (q : ArrayPart) s₁ => s₁.layers.Shows q.written (p.shown s.layers))
      .refl (fun first next => first.trans next) (fun ready later => later.shows ready)
      (fun done later => later.shows done) ArrayPart.exists_copied_shown each
    have list : s₁.layers.Shows (.list (qs.map ArrayPart.written))
        (.list (parts.map (ArrayPart.shown s.layers))) :=
      LayerStore.Shows.list_of_forall₂ (List.forall₂_map_left_iff.mpr
        (List.forall₂_map_right_iff.mpr shown.flip))
    obtain ⟨array, s', copies, shownArray, again⟩ := exists_copy_shown list
    exact ⟨array, s', (exec_bind_of_ok runs _).trans copies, shownArray, later.trans again⟩

/-- A copy of an array. -/
theorem copied (assembles : Assembles s parts (exec act s)) :
    Assembles s parts (exec (act >>= copy) s) where
  same structural := by
    obtain ⟨items, stand, answers⟩ := assembles.same structural
    refine ⟨items, stand, (exec_bind_of_ok answers copy).trans (exec_copy_of_isStructural ?_ s)⟩
    exact Value.isStructural_list (ArrayPart.isStructural_of_stand structural stand)
  items := by
    intro array s' answered
    obtain ⟨first, s₁, answers, copies⟩ := bind_eq_ok.mp answered
    obtain ⟨items, rfl, stand⟩ := assembles.items answers
    obtain ⟨again, rfl, copied⟩ := (isCopyOf_of_copy copies).items
    exact ⟨again, rfl, ArrayPart.forall₂_isItem_copies stand copied⟩
  copyable each := by
    obtain ⟨first, s₁, answers, copyable, stays⟩ := assembles.copyable each
    obtain ⟨array, s', copies, copyableAgain, again⟩ := exists_copy_copyable copyable
    exact ⟨array, s', (exec_bind_of_ok answers copy).trans copies, copyableAgain,
      stays.trans again⟩
  shown each := by
    obtain ⟨first, s₁, answers, shown, later⟩ := assembles.shown each
    obtain ⟨array, s', copies, shownAgain, again⟩ := exists_copy_shown shown
    exact ⟨array, s', (exec_bind_of_ok answers copy).trans copies, shownAgain, later.trans again⟩

/-- So is what an object forges to that holds the array. -/
theorem forged {object : Act Value} (wrap : Value → Value)
    (forges : ∀ v, Act.forge (wrap v) = copy v)
    (makes : exec object s = exec (do return wrap (← act)) s)
    (assembles : Assembles s parts (exec act s)) :
    Assembles s parts (exec (object >>= Act.forge) s) := by
  have copies : exec (object >>= Act.forge) s = exec (act >>= copy) s := by
    rw [exec_bind, makes, ← exec_bind, bind_assoc]
    simp only [pure_bind, forges]
  exact copies ▸ assembles.copied

/-- An array with one more operand behind it. -/
theorem joinedTo (assembles : Assembles s parts (exec act s)) (last : Value) :
    Assembles s (parts ++ [.operand last]) (exec (do Script.joinedTo (← act) last) s) := by
  have front := assembles.copied
  let behind (forged : Value) : Act Value := do
    let operand ← (ArrayPart.operand last).copied
    copy (.list (forged.iterated?.getD [] ++ [operand.written]))
  have runs : exec (do Script.joinedTo (← act) last) s = exec ((act >>= copy) >>= behind) s := by
    simp only [Script.joinedTo, behind, ArrayPart.copied, bind_assoc, pure_bind]
    rfl
  rw [runs]
  refine ⟨fun structural => ?_, fun answered => ?_, fun copyable => ?_, fun shows => ?_⟩
  · obtain ⟨structuralFront, structuralLast⟩ := List.forall_mem_append.mp structural
    obtain ⟨items, stand, answers⟩ := front.same structuralFront
    have written := ArrayPart.isStructural_written (structuralLast _ List.mem_cons_self)
    have all : (Value.list (items ++ [(ArrayPart.operand last).written])).isStructural = true :=
      Value.isStructural_list (List.forall_mem_append.mpr
        ⟨ArrayPart.isStructural_of_stand structuralFront stand, List.forall_mem_singleton.mpr written⟩)
    refine ⟨_, List.rel_append stand
      (.cons (ArrayPart.exec_stands_of_isStructural written s) .nil), ?_⟩
    rw [exec_bind_of_ok answers, exec_bind_of_ok (ArrayPart.exec_copied_of_isStructural written s)]
    exact exec_copy_of_isStructural all s
  · obtain ⟨forged, s₁, answers, rest⟩ := bind_eq_ok.mp answered
    obtain ⟨items, rfl, stand⟩ := front.items answers
    obtain ⟨q, s₂, copiesLast, copies⟩ := bind_eq_ok.mp rest
    obtain ⟨again, rfl, copied⟩ := (isCopyOf_of_copy copies).items
    have standAll := List.rel_append stand (.cons (ArrayPart.isItem_of_copied copiesLast) .nil)
    exact ⟨again, rfl, ArrayPart.forall₂_isItem_copies standAll copied⟩
  · obtain ⟨copyableFront, copyableLast⟩ := List.forall_mem_append.mp copyable
    obtain ⟨forged, s₁, answers, copyableForged, stays⟩ := front.copyable copyableFront
    obtain ⟨items, rfl, -⟩ := front.items answers
    obtain ⟨q, s₂, copiesLast, copyableWritten, staysLast⟩ :=
      ArrayPart.exists_copied (stays _ (copyableLast _ List.mem_cons_self))
    have all : ∀ v ∈ items ++ [q.written], s₂.layers.Copyable v :=
      List.forall_mem_append.mpr ⟨fun v member => staysLast v (copyableForged.child member),
        List.forall_mem_singleton.mpr copyableWritten⟩
    obtain ⟨array, s', copies, copyableArray, again⟩ :=
      exists_copy_copyable (LayerStore.Copyable.list all)
    refine ⟨array, s', ?_, copyableArray, (stays.trans staysLast).trans again⟩
    rw [exec_bind_of_ok answers, exec_bind_of_ok copiesLast]
    exact copies
  · obtain ⟨showsFront, showsLast⟩ := List.forall_mem_append.mp shows
    obtain ⟨forged, s₁, answers, shownForged, later⟩ := front.shown showsFront
    obtain ⟨items, rfl, -⟩ := front.items answers
    obtain ⟨q, s₂, copiesLast, shownLast, laterLast⟩ :=
      ArrayPart.exists_copied_shown (later.shows (showsLast _ List.mem_cons_self))
    have all := LayerStore.Shows.list_concat (laterLast.shows shownForged) shownLast
    obtain ⟨array, s', copies, shown, again⟩ := exists_copy_shown all
    refine ⟨array, s', ?_, ?_, (later.trans laterLast).trans again⟩
    · rw [exec_bind_of_ok answers, exec_bind_of_ok copiesLast]
      exact copies
    · rw [List.map_append]
      exact shown

/-- The array of parts, with one more operand put behind it. -/
theorem finished (s : Session) (parts : List ArrayPart) (last : Value) :
    Assembles s (parts ++ [.operand last]) (exec (finishedArray parts last) s) :=
  (of_parts s parts).joinedTo last

/-- With parts known by what they hold, the outcome is what is written for them. -/
theorem outcome_eq {outcome : Except Fault Value × Session} (assembles : Assembles s parts outcome)
    (structural : ∀ p ∈ parts, p.value.isStructural = true) :
    outcome = (.ok (.list (parts.map ArrayPart.written)), s) := by
  obtain ⟨items, stand, answers⟩ := assembles.same structural
  rw [answers, ArrayPart.eq_of_stand structural stand]

end Assembles

end MapStyle.Script
