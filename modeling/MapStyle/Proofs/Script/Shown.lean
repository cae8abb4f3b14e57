import MapStyle.Proofs.Layer.Shown
import MapStyle.Proofs.Script.Agreement
import MapStyle.Script.Program

/-!
# Terms by what they show

A term that makes an expression makes copies, so that what it answers depends on what has been made
before.  What its value shows does not: it shows the same whatever else there is.

* `Session.Extends` relates a session to later ones, and `Settled` are the terms that have one value
  in all of them.
* `AnswersShown` says what the value of a term shows.
* `run_compute` takes this to a step of a program.
-/

namespace MapStyle.Script

open Act

/-! ## Later sessions -/

/-- A session has all that another one has in its slots and in its layers, and perhaps more. -/
structure Session.Extends (s s' : Session) : Prop where
  slots : s.slots <+: s'.slots
  layers : s.layers <+: s'.layers

namespace Session.Extends

theorem refl (s : Session) : s.Extends s := ⟨List.prefix_refl _, List.prefix_refl _⟩

theorem trans {s₁ s₂ s₃ : Session} (first : s₁.Extends s₂) (next : s₂.Extends s₃) : s₁.Extends s₃ :=
  ⟨first.slots.trans next.slots, first.layers.trans next.layers⟩

variable {s s' : Session} {v w : Value}

/-- A slot that is there holds in every later session what it holds. -/
theorem slot {index : Nat} (later : s.Extends s') (holds : s.slots[index]? = some v) :
    s'.slot index = v := by
  obtain ⟨more, slots⟩ := later.slots
  rw [Session.slot, ← slots, List.getElem?_append_left (List.getElem?_eq_some_iff.mp holds).1, holds]
  rfl

/-- What a value shows it shows in every later session. -/
theorem shows (later : s.Extends s') (shows : s.layers.Shows v w) : s'.layers.Shows v w := by
  obtain ⟨more, layers⟩ := later.layers
  exact layers ▸ shows.append more

end Session.Extends

/-- A term has a value in a session and in all later ones. -/
def Settled (s : Session) (term : Term) (v : Value) : Prop :=
  ∀ s', s.Extends s' → Answers [] s' term v

/-! ## What is made -/

/-- A term has a value that shows another one, in a session that has all that was there before. -/
def AnswersShown (scope : Entries) (s : Session) (term : Term) (w : Value) : Prop :=
  ∃ v s', exec (eval scope term) s = (.ok v, s') ∧ s'.layers.Shows v w ∧ s.Extends s'

section Made

variable {s : Session} {w : Value}

/-- A copy of what shows something shows it. -/
theorem exists_copy_shown {v : Value} (shows : s.layers.Shows v w) :
    ∃ c s', exec (copy v) s = (.ok c, s') ∧ s'.layers.Shows c w ∧ s.Extends s' := by
  obtain ⟨copied, copies, shown⟩ := shows.copy s.nextMark
  obtain ⟨-, layers, -, -⟩ := LayerStore.copy_eq_ok copies
  refine ⟨copied.value, { s with layers := copied.store, nextMark := copied.nextMark }, ?_, shown,
    List.prefix_refl _, ?_⟩
  · rw [exec_copy, copies]
  · exact ⟨_, layers.symm⟩

/-- So does an expression that is made. -/
theorem exists_makeExpression_shown {e : Expression} (shows : s.layers.Shows e.toValue w) :
    ∃ v s', exec (makeExpression e) s = (.ok v, s') ∧ s'.layers.Shows v w ∧ s.Extends s' := by
  have around : w = .expression (s.layers.resolve e.forged) :=
    shows.resolves.symm.trans (LayerStore.resolve_eq_mapChildren rfl)
  subst around
  obtain ⟨c, s', copies, shown, later⟩ := exists_copy_shown shows.of_expression
  refine ⟨.expression c, s', ?_, shown.expression, later⟩
  rw [makeExpression, exec_bind_of_ok copies, exec_pure]

theorem AnswersShown.of_makeExpression {scope : Entries} {term : Term} {e : Expression}
    (makes : exec (eval scope term) s = exec (makeExpression e) s)
    (shows : s.layers.Shows e.toValue w) : AnswersShown scope s term w := by
  obtain ⟨v, s', made, shown, later⟩ := exists_makeExpression_shown shows
  exact ⟨v, s', makes.trans made, shown, later⟩

/-- Two terms that show the same, one after the other, are equal if that is no leaf. -/
theorem exec_equal_of_shown {scope : Entries} {s₁ s₂ : Session} {left right : Term} {v v' : Value}
    (answersLeft : exec (eval scope left) s = (.ok v, s₁)) (shown : s₁.layers.Shows v w)
    (answersRight : exec (eval scope right) s₁ = (.ok v', s₂)) (shown' : s₂.layers.Shows v' w)
    (later : s₁.Extends s₂) (inner : w.isLeaf = false) :
    exec (eval scope (.equal left right)) s = (.ok (.bool true), s₂) := by
  have seen := (later.shows shown).resolves.trans shown'.resolves.symm
  refine exec_equal_of_resolve answersLeft answersRight seen ?_
  rw [shown'.resolves]
  exact inner

end Made

/-! ## Steps -/

/-- A step that evaluates a term reports its value and puts it into a new slot. -/
theorem run_compute {s s' : Session} {term : Term} {v : Value}
    (answers : exec (eval [] term) s.beforeStep = (.ok v, s')) :
    (Step.compute term).run s =
      (⟨.ok v, String.ofList s'.printed, s'.log, s'.layers⟩, s'.withSlot v) := by
  have performs : exec (Step.compute term).perform s.beforeStep = (.ok (v, v), s') := by
    change exec (eval [] term >>= _) s.beforeStep = _
    rw [exec_bind_of_ok answers, exec_pure]
  have runs : (Step.compute term).perform.run.run s.beforeStep = (.ok (v, v), s') := performs
  rw [Step.run, runs]
  rfl

end MapStyle.Script
