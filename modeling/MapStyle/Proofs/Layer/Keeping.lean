import MapStyle.Proofs.Layer.Copies
import MapStyle.Proofs.Script.Acts

/-!
# What leaves a layer alone

A setter has its value copied before it writes.  The copy may make new layers, or fail; either way
it does nothing to the layers that are there.

* `Keeps` relates two sessions between which nothing has happened to a layer.
* `keeps_copy` and `keeps_copyProperty` are the two kinds of copies that setters make.
-/

namespace MapStyle.Script

open Act

/-- Between two sessions nothing has happened to a layer. -/
structure Keeps (id : LayerId) (s s' : Session) : Prop where
  longer : s.layers.length ≤ s'.layers.length
  record : s'.layers.recordOf id = s.layers.recordOf id

variable {id : LayerId} {s s' : Session}

theorem Keeps.refl (id : LayerId) (s : Session) : Keeps id s s := ⟨Nat.le_refl _, rfl⟩

theorem Keeps.known (keeps : Keeps id s s') (known : id < s.layers.length) :
    id < s'.layers.length := Nat.lt_of_lt_of_le known keeps.longer

/-- A copy, whether it can be made or not, makes new layers at most. -/
theorem keeps_copy (known : id < s.layers.length) (v : Value) : Keeps id s (exec (copy v) s).2 := by
  rw [exec_copy]
  cases copied : s.layers.copy s.nextMark v with
  | error fault => exact .refl id s
  | ok c =>
      obtain ⟨-, layers, -⟩ := LayerStore.copy_eq_ok copied
      constructor
      · change s.layers.length ≤ c.store.length
        rw [layers, List.length_append]
        exact Nat.le_add_right _ _
      · change c.store.recordOf id = _
        rw [layers, LayerStore.recordOf_append _ known]

theorem keeps_copyProperty (known : id < s.layers.length) (v : Value) :
    Keeps id s (exec (copyProperty v) s).2 := by
  have after : ∀ (inner : Value) (wrap : Value → Value),
      Keeps id s (exec (do return wrap (← copy inner)) s).2 := fun inner wrap =>
    after_bind (keeps_copy known inner) fun _ _ _ keeps => keeps
  cases v with
  | expression inner => exact after inner .expression
  | property inner => exact after inner .property
  | constant inner => exact after inner .constant
  | _ => exact .refl id s

end MapStyle.Script
