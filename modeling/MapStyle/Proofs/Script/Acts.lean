import MapStyle.Script.Session
import MapStyle.Proofs.Value.Plain

/-!
# What an act does

An act of a script answers a value or a fault and leaves a session behind.  `Act.exec` is that pair,
and the equations here say how it goes through the steps of an act, so that no proof has to open the
monad.

* `Act.exec_bind` runs one step after the other; `Act.bind_eq_ok` takes a successful run apart.
* `Act.exec_mapM` runs a step over a list that leaves the session as it is.
-/

namespace MapStyle

/-- Two pure steps answer only if both do. -/
theorem except_bind_eq_ok {ε α β : Type} {first : Except ε α} {next : α → Except ε β} {b : β} :
    first >>= next = .ok b ↔ ∃ a, first = .ok a ∧ next a = .ok b := by
  cases first with
  | error fault => exact ⟨nofun, fun ⟨_, absurd, _⟩ => nomatch absurd⟩
  | ok a => exact ⟨fun rest => ⟨a, rfl, rest⟩, fun ⟨_, same, rest⟩ => by cases same; exact rest⟩

namespace Script.Act

variable {α β : Type}

/-- What an act does in a session: its answer, and the session after it. -/
def exec (act : Act α) (session : Session) : Except Fault α × Session := act.run.run session

@[simp] theorem exec_pure (a : α) (s : Session) : exec (pure a) s = (.ok a, s) := rfl

@[simp] theorem exec_throw (fault : Fault) (s : Session) :
    exec (throw fault : Act α) s = (.error fault, s) := rfl

@[simp] theorem exec_get (s : Session) : exec get s = (.ok s, s) := rfl

@[simp] theorem exec_ofExcept (answer : Except Fault α) (s : Session) :
    exec (ofExcept answer) s = (answer, s) := by
  cases answer <;> rfl

/-- A fault ends an act; an answer is handed to what follows. -/
theorem exec_bind (act : Act α) (next : α → Act β) (s : Session) :
    exec (act >>= next) s =
      match exec act s with
      | (.ok a, s') => exec (next a) s'
      | (.error fault, s') => (.error fault, s') := by
  have unfolded : exec (act >>= next) s =
      (ExceptT.bindCont next (exec act s).1).run (exec act s).2 := rfl
  rw [unfolded]
  rcases exec act s with ⟨_ | _, _⟩ <;> rfl

/-- After a step that answers, what follows runs in the session that the step leaves. -/
theorem exec_bind_of_ok {act : Act α} {s s' : Session} {a : α} (answered : exec act s = (.ok a, s'))
    (next : α → Act β) : exec (act >>= next) s = exec (next a) s' := by
  rw [exec_bind, answered]

/-- An act of two steps answers only if both do. -/
theorem bind_eq_ok {act : Act α} {next : α → Act β} {s s'' : Session} {b : β} :
    exec (act >>= next) s = (.ok b, s'') ↔
      ∃ a s', exec act s = (.ok a, s') ∧ exec (next a) s' = (.ok b, s'') := by
  rw [exec_bind]
  rcases exec act s with ⟨fault | a, s'⟩
  · simp
  · constructor
    · exact fun rest => ⟨a, s', rfl, rest⟩
    · rintro ⟨_, _, answered, rest⟩
      cases answered
      exact rest

/-- What holds after the first step, and is kept by what follows it, holds after an act. -/
theorem after_bind {post : Session → Prop} {act : Act α} {next : α → Act β} {s : Session}
    (first : post (exec act s).2)
    (rest : ∀ a s', exec act s = (.ok a, s') → post s' → post (exec (next a) s').2) :
    post (exec (act >>= next) s).2 := by
  rw [exec_bind]
  cases answered : exec act s with
  | mk outcome s' =>
      rw [answered] at first
      cases outcome with
      | error fault => exact first
      | ok a => exact rest a s' answered first

/-- A step that leaves the session as it is can be run over a list. -/
theorem exec_mapM {f : α → Act β} {g : α → β} {s : Session} {items : List α}
    (each : ∀ a ∈ items, exec (f a) s = (.ok (g a), s)) :
    exec (items.mapM f) s = (.ok (items.map g), s) := by
  induction items with
  | nil => rfl
  | cons a items ih =>
      rw [List.mapM_cons, exec_bind_of_ok (each a List.mem_cons_self),
        exec_bind_of_ok (ih fun b member => each b (List.mem_cons_of_mem a member))]
      rfl

/-! ## Looking and copying -/

@[simp] theorem exec_view (v : Value) (s : Session) :
    exec (view v) s = (.ok (s.layers.view v), s) := rfl

@[simp] theorem exec_resolve (v : Value) (s : Session) :
    exec (resolve v) s = (.ok (s.layers.resolve v), s) := rfl

@[simp] theorem exec_unroll (depth : Nat) (v : Value) (s : Session) :
    exec (unroll depth v) s = (.ok (s.layers.unroll depth v), s) := rfl

/-- A copy changes the layers and the next mark, and nothing else. -/
theorem exec_copy (v : Value) (s : Session) :
    exec (copy v) s =
      match s.layers.copy s.nextMark v with
      | .ok copied => (.ok copied.value,
          { s with layers := copied.store, nextMark := copied.nextMark })
      | .error fault => (.error fault, s) := by
  rw [copy, exec_bind, exec_get]
  dsimp only
  rw [exec_bind, exec_ofExcept]
  cases s.layers.copy s.nextMark v <;> rfl

theorem exec_copy_of_isStructural {v : Value} (structural : v.isStructural = true) (s : Session) :
    exec (copy v) s = (.ok v, s) := by
  rw [exec_copy, LayerStore.copy_of_isStructural _ _ structural]

theorem exec_copy_of_isPlain {v : Value} (plain : v.isPlain = true) (s : Session) :
    exec (copy v) s = (.ok v, s) :=
  exec_copy_of_isStructural (Value.isStructural_of_isPlain plain) s

/-- An expression around an array that is known by what it holds is made as it is. -/
theorem exec_makeExpression_of_isStructural {e : Expression} (structural : e.forged.isStructural = true)
    (s : Session) : exec (makeExpression e) s = (.ok e.toValue, s) := by
  rw [makeExpression, exec_bind_of_ok (exec_copy_of_isStructural structural s), exec_pure]
  rfl

/-- An expression that holds a plain array is made as it is. -/
theorem exec_makeExpression {e : Expression} (plain : e.forged.isPlain = true) (s : Session) :
    exec (makeExpression e) s = (.ok e.toValue, s) :=
  exec_makeExpression_of_isStructural (Value.isStructural_of_isPlain plain) s

end Script.Act

end MapStyle
