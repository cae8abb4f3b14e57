import Mathlib.Data.Finset.Card
import Mathlib.Data.List.Perm.Subperm
import MapStyle.Proofs.Layer.Copies

/-!
# All layers that can be reached

The layers within a value are found by going on from records as often as there are layers.  That is
often enough: whatever a record of such a layer holds is found, too.  So a copy finds a counterpart
for every layer that it comes across, and the new layers are exactly the ones that it adds.

* `LayerStore.closed_layersWithin`: what has been reached is closed under records.
* `LayerStore.lt_of_copy` and `LayerStore.lt_of_record`: no layer in a copy is beyond the store that
  the copy leaves.
-/

namespace MapStyle.LayerStore

variable {store : LayerStore}

/-! ## Going on until nothing is new -/

/-- With each of some layers, those that its record holds are among them. -/
def Closed (store : LayerStore) (ids : List LayerId) : Prop :=
  ∀ id ∈ ids, ∀ next ∈ store.recordLayers id, next ∈ ids

/-- Some layers with those that their records hold, each once. -/
def onward (store : LayerStore) (ids : List LayerId) : List LayerId :=
  (ids ++ ids.flatMap store.recordLayers).eraseDups

/-- The layers of the store that have not been reached. -/
def missing (store : LayerStore) (ids : List LayerId) : Finset LayerId :=
  (Finset.range store.length).filter fun id => id ∉ ids

theorem reachable_succ (store : LayerStore) (steps : Nat) (ids : List LayerId) :
    store.reachable (steps + 1) ids =
      if (store.onward ids).length = ids.length then ids
      else store.reachable steps (store.onward ids) := rfl

theorem nodup_eraseDups (ids : List LayerId) : ids.eraseDups.Nodup := by
  induction size : ids.length using Nat.strongRecOn generalizing ids with
  | ind n ih =>
      subst size
      cases ids with
      | nil => exact List.nodup_nil
      | cons id rest =>
          rw [List.eraseDups_cons, List.nodup_cons]
          refine ⟨fun again => ?_, ih _ ?_ _ rfl⟩
          · have kept := (List.mem_filter.mp (List.mem_eraseDups.mp again)).2
            simp at kept
          · exact Nat.lt_succ_of_le (List.length_filter_le _ _)

theorem nodup_onward (ids : List LayerId) : (store.onward ids).Nodup := nodup_eraseDups _

theorem mem_onward {ids : List LayerId} {id : LayerId} :
    id ∈ store.onward ids ↔ id ∈ ids ∨ ∃ before ∈ ids, id ∈ store.recordLayers before := by
  rw [onward, List.mem_eraseDups, List.mem_append, List.mem_flatMap]

/-- If as many are reached as before, nothing new has been reached. -/
theorem closed_of_length_eq {ids : List LayerId} (nodup : ids.Nodup)
    (same : (store.onward ids).length = ids.length) : store.Closed ids := by
  have among : ids ⊆ store.onward ids := fun id member => mem_onward.mpr (Or.inl member)
  have perm : ids.Perm (store.onward ids) :=
    (nodup.subperm among).perm_of_length_le (Nat.le_of_eq same)
  intro id member next found
  exact perm.mem_iff.mpr (mem_onward.mpr (Or.inr ⟨id, member, found⟩))

theorem length_onward_of_closed {ids : List LayerId} (nodup : ids.Nodup)
    (closed : store.Closed ids) : (store.onward ids).length = ids.length := by
  have among : ids ⊆ store.onward ids := fun id member => mem_onward.mpr (Or.inl member)
  have back : store.onward ids ⊆ ids := by
    intro id member
    rcases mem_onward.mp member with old | ⟨before, old, found⟩
    · exact old
    · exact closed before old id found
  exact Nat.le_antisymm ((nodup_onward ids).subperm back).length_le
    (nodup.subperm among).length_le

theorem reachable_of_closed {ids : List LayerId} (nodup : ids.Nodup) (closed : store.Closed ids)
    (steps : Nat) : store.reachable steps ids = ids := by
  cases steps with
  | zero => rfl
  | succ steps => rw [reachable_succ, if_pos (length_onward_of_closed nodup closed)]

/-- A layer that is not in the store has no record from which one could go on. -/
theorem recordLayers_of_length_le {id : LayerId} (beyond : store.length ≤ id) :
    store.recordLayers id = [] := by
  rw [recordLayers, recordOf, List.getElem?_eq_none beyond]
  rfl

/-- With one step more than there are layers missing, one arrives at a closed list: a step that
reaches none of the missing ones is the last that reaches anything. -/
theorem closed_reachable {steps : Nat} {ids : List LayerId} (nodup : ids.Nodup)
    (enough : (store.missing ids).card < steps) : store.Closed (store.reachable steps ids) := by
  induction steps generalizing ids with
  | zero => exact (Nat.not_lt_zero _ enough).elim
  | succ steps ih =>
      rw [reachable_succ]
      split
      · next same => exact closed_of_length_eq nodup same
      by_cases progress : ∃ id ∈ store.missing ids, id ∈ store.onward ids
      · refine ih (nodup_onward ids) (Nat.lt_of_lt_of_le ?_ (Nat.le_of_lt_succ enough))
        obtain ⟨id, wasMissing, reached⟩ := progress
        refine Finset.card_lt_card (Finset.ssubset_iff_of_subset ?_ |>.mpr ⟨id, wasMissing, ?_⟩)
        · intro other still
          obtain ⟨inStore, notReached⟩ := Finset.mem_filter.mp still
          exact Finset.mem_filter.mpr
            ⟨inStore, fun old => notReached (mem_onward.mpr (Or.inl old))⟩
        · exact fun still => (Finset.mem_filter.mp still).2 reached
      · have closed : store.Closed (store.onward ids) := by
          intro id member next found
          by_cases old : id ∈ ids
          · exact mem_onward.mpr (Or.inr ⟨id, old, found⟩)
          · have beyond : store.length ≤ id := by
              refine Nat.le_of_not_lt fun inStore => progress ⟨id, ?_, member⟩
              exact Finset.mem_filter.mpr ⟨Finset.mem_range.mpr inStore, old⟩
            rw [recordLayers_of_length_le beyond] at found
            cases found
        rw [reachable_of_closed (nodup_onward ids) closed]
        exact closed

theorem subset_reachable {steps : Nat} {ids : List LayerId} :
    ids ⊆ store.reachable steps ids := by
  induction steps generalizing ids with
  | zero => exact fun _ member => member
  | succ steps ih =>
      rw [reachable_succ]
      split
      · exact fun _ member => member
      · exact fun id member => ih (mem_onward.mpr (Or.inl member))

/-! ## The layers within a value -/

theorem layersWithin_of_mem {v : Value} {id : LayerId} (direct : id ∈ v.layersWithin) :
    id ∈ store.layersWithin v := subset_reachable (List.mem_eraseDups.mpr direct)

/-- With each layer within a value, those that its record holds are within the value. -/
theorem closed_layersWithin (store : LayerStore) (v : Value) :
    store.Closed (store.layersWithin v) := by
  have nodup := nodup_eraseDups v.layersWithin
  by_cases stored : ∃ id ∈ v.layersWithin.eraseDups, id < store.length
  · obtain ⟨id, member, inStore⟩ := stored
    refine closed_reachable nodup ?_
    refine Nat.lt_of_lt_of_eq (Finset.card_lt_card (t := Finset.range store.length) ?_)
      (Finset.card_range store.length)
    refine (Finset.ssubset_iff_of_subset (Finset.filter_subset _ _)).mpr
      ⟨id, Finset.mem_range.mpr inStore, fun still => (Finset.mem_filter.mp still).2 member⟩
  · have closed : store.Closed v.layersWithin.eraseDups := by
      intro id member next found
      rw [recordLayers_of_length_le (Nat.le_of_not_lt fun inStore => stored ⟨id, member, inStore⟩)]
        at found
      cases found
    rw [layersWithin, reachable_of_closed nodup closed]
    exact closed

/-! ## The numbers of new layers -/

theorem length_copiedRecords (mark : Nat) (v : Value) :
    (store.copiedRecords mark v).length = (store.layersWithin v).length := by
  rw [copiedRecords, List.length_map]

theorem exchange_lt {mark : Nat} {v q : Value} {id : LayerId}
    (within : ∀ old ∈ q.layersWithin, old ∈ store.layersWithin v)
    (found : id ∈ (store.exchange mark v q).layersWithin) (leaf : q.isLeaf = true) :
    id < (store ++ store.copiedRecords mark v).length := by
  have place : ∀ old, old ∈ store.layersWithin v →
      store.length + (store.layersWithin v).idxOf old <
        (store ++ store.copiedRecords mark v).length := by
    intro old member
    rw [List.length_append, length_copiedRecords]
    exact Nat.add_lt_add_left (List.idxOf_lt_length_of_mem member) _
  cases q with
  | layer n =>
      obtain rfl := List.mem_singleton.mp found
      exact place n (within n List.mem_cons_self)
  | record n =>
      obtain rfl := List.mem_singleton.mp found
      exact place n (within n List.mem_cons_self)
  | _ => first | (cases leaf; done) | cases found

/-- What is found in a part of a value is found in the value. -/
theorem mem_layersWithin_of_part {v q : Value} {id : LayerId} (part : q ∈ v.parts)
    (found : id ∈ q.layersWithin) : id ∈ v.layersWithin := by
  obtain ⟨p, inner, isLayer⟩ := List.mem_filterMap.mp found
  exact List.mem_filterMap.mpr ⟨p, Value.parts_trans inner part, isLayer⟩

theorem lt_of_copy {mark : Nat} {v : Value} {id : LayerId}
    (found : id ∈ (v.mapLeaves (store.exchange mark v)).layersWithin) :
    id < (store ++ store.copiedRecords mark v).length := by
  obtain ⟨q, part, leaf, inside⟩ := Value.mem_layersWithin_mapLeaves found
  exact exchange_lt (fun old direct =>
    layersWithin_of_mem (mem_layersWithin_of_part part direct)) inside leaf

theorem lt_of_record {mark : Nat} {v : Value} {id next : LayerId} (isNew : store.length ≤ id)
    (found : next ∈ recordLayers (store ++ store.copiedRecords mark v) id) :
    next < (store ++ store.copiedRecords mark v).length := by
  unfold recordLayers at found
  rcases recordOf_copy mark v isNew with ⟨old, reached, same⟩ | none
  · rw [same] at found
    obtain ⟨q, part, leaf, inside⟩ := Value.mem_layersWithin_mapLeaves found
    refine exchange_lt (fun inner direct => ?_) inside leaf
    exact closed_layersWithin store v old reached inner (mem_layersWithin_of_part part direct)
  · rw [none] at found
    cases found

end MapStyle.LayerStore
