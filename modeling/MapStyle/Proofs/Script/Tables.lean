import MapStyle.Proofs.Script.Evaluation

/-!
# Terms that answer entries

Entries are given one by one, each by a term for its key and one for its value, or all at once as a
table: a map, a view of the scope, or the live record of a layer.

* `AnswersEntries` and `AnswersTable` are the two ways.
* `exec_entriesWith` and its companions take the entries out of a table.
-/

namespace MapStyle.Script

open Act

/-- The terms of entries have the keys and the results as values. -/
def AnswersEntries (scope : Entries) (s : Session) (terms : List (Term × Term)) (es : Entries) :
    Prop :=
  List.Forall₂ (fun term e => Answers scope s term.1 e.1 ∧ Answers scope s term.2 e.2) terms es

/-- A term has a table of entries as its value: a map, a view of the scope, or the live record of a
layer. -/
def AnswersTable (scope : Entries) (s : Session) (term : Term) (es : Entries) : Prop :=
  ∃ v, Answers scope s term v ∧ (s.layers.view v).entries? = some es

section Tables

variable {s : Session} {t : Value} {es : Entries}

theorem exec_entriesWith (member : String) (holds : (s.layers.view t).entries? = some es) :
    exec (entriesWith member t) s = (.ok es, s) := by
  rw [entriesWith, exec_bind_of_ok (exec_view t s), holds]
  rfl

theorem exec_entriesOf (holds : (s.layers.view t).entries? = some es) :
    exec (entriesOf t) s = (.ok es, s) :=
  exec_entriesWith "items" holds

theorem exec_optionalEntries (holds : (s.layers.view t).entries? = some es) :
    exec (optionalEntries t) s = (.ok (some es), s) := by
  unfold optionalEntries
  split
  · cases holds
  · rw [exec_bind_of_ok (exec_entriesOf holds), exec_pure]

theorem exec_mapOf (holds : (s.layers.view t).entries? = some es) :
    exec (mapOf t) s = (.ok es, s) := by
  rw [mapOf, exec_bind_of_ok (exec_view t s), holds]
  rfl

end Tables

end MapStyle.Script
