import MapStyle.Layer.Store
import MapStyle.Proofs.Value.Parts

/-!
# Copies with their layers

A copy of a value stands apart from what it was copied from: it holds only layers that were not
there before, and so do their records, as far as one can go from it.

* `LayerStore.reachable_induction` is the induction along records.
* `LayerStore.copy_eq_ok` takes a copy apart: the store only grows.
* `LayerStore.isNew_of_copy` and `LayerStore.isNew_of_record` say what the copy holds.
* `LayerStore.exists_copy_of_copy`: what has been copied once can be copied again.
-/

namespace MapStyle

namespace Value

theorem mem_layersWithin {v : Value} {id : LayerId} :
    id ∈ v.layersWithin ↔ Value.layer id ∈ v.parts ∨ Value.record id ∈ v.parts := by
  unfold layersWithin
  rw [List.mem_filterMap]
  constructor
  · rintro ⟨p, part, found⟩
    cases p <;> cases found
    · exact Or.inl part
    · exact Or.inr part
  · rintro (part | part) <;> exact ⟨_, part, rfl⟩

/-- What is found in a value with changed leaves was found in a changed leaf. -/
theorem mem_layersWithin_mapLeaves {f : Value → Value} {v : Value} {id : LayerId}
    (found : id ∈ (v.mapLeaves f).layersWithin) :
    ∃ q ∈ v.parts, q.isLeaf = true ∧ id ∈ (f q).layersWithin := by
  have origin : ∀ p ∈ (v.mapLeaves f).parts, p.layerId? = some id →
      ∃ q ∈ v.parts, q.isLeaf = true ∧ id ∈ (f q).layersWithin := by
    intro p part isLayer
    obtain ⟨q, among, ⟨leaf, inside⟩ | ⟨inner, same⟩⟩ := mem_parts_mapLeaves part
    · exact ⟨q, among, leaf, List.mem_filterMap.mpr ⟨p, inside, isLayer⟩⟩
    · subst same
      cases q <;> first | (cases inner; done) | cases isLayer
  obtain ⟨p, part, isLayer⟩ := List.mem_filterMap.mp found
  exact origin p part isLayer

end Value

namespace LayerStore

variable {store : LayerStore}

/-! ## Records of a store after a change -/

/-- New layers leave the records of the old ones as they are. -/
theorem recordOf_append {id : LayerId} (more : LayerStore) (known : id < store.length) :
    recordOf (store ++ more) id = store.recordOf id := by
  unfold recordOf
  rw [List.getElem?_append_left known]

/-- A new layer has the record that it is made with. -/
theorem recordOf_concat (layer : Layer) :
    recordOf (store ++ [layer]) store.length = layer.record := by
  unfold recordOf
  rw [List.getElem?_concat_length]

/-- A change to a layer that is there changes its record. -/
theorem recordOf_modify_self {id : LayerId} (change : Layer → Layer) (known : id < store.length) :
    recordOf (store.modify id change) id = (change ⟨store.recordOf id⟩).record := by
  unfold recordOf
  rw [List.getElem?_modify_eq, List.getElem?_eq_getElem known]
  rfl

/-! ## What can be reached -/

/-- The layers that the record of a layer holds itself. -/
def recordLayers (store : LayerStore) (id : LayerId) : List LayerId :=
  (Value.map (store.recordOf id)).layersWithin

/-- What holds of some layers, and of those that a record holds whenever it holds of its layer,
holds of every layer that can be reached. -/
theorem reachable_induction {motive : LayerId → Prop}
    (onward : ∀ id, motive id → ∀ next ∈ store.recordLayers id, motive next) {steps : Nat}
    {ids : List LayerId} (start : ∀ id ∈ ids, motive id) :
    ∀ id ∈ store.reachable steps ids, motive id := by
  induction steps generalizing ids with
  | zero => exact start
  | succ steps ih =>
      rw [reachable]
      split
      · exact start
      · refine ih fun id member => ?_
        rcases List.mem_append.mp (List.mem_eraseDups.mp member) with old | next
        · exact start id old
        · obtain ⟨before, among, found⟩ := List.mem_flatMap.mp next
          exact onward before (start before among) id found

theorem layersWithin_induction {motive : LayerId → Prop} {v : Value}
    (start : ∀ id ∈ v.layersWithin, motive id)
    (onward : ∀ id, motive id → ∀ next ∈ store.recordLayers id, motive next) :
    ∀ id ∈ store.layersWithin v, motive id :=
  reachable_induction onward fun id member => start id (List.mem_eraseDups.mp member)

/-! ## Taking a copy apart -/

/-- What a copy puts in the place of the leaves of a value. -/
def exchange (store : LayerStore) (mark : Nat) (v : Value) : Value → Value :=
  let records := (store.layersWithin v).map fun id => Value.map (store.recordOf id)
  let marks := (((v :: records).flatMap Value.parts).filterMap Value.highlightMark?).eraseDups
  counterpart (store.layersWithin v) marks store.length mark

/-- The records of the layers that come into being with a copy. -/
def copiedRecords (store : LayerStore) (mark : Nat) (v : Value) : List Layer :=
  (store.layersWithin v).map fun id =>
    ⟨(((Value.map (store.recordOf id)).mapLeaves (store.exchange mark v)).entries?).getD []⟩

/-- Nothing that a copy would have to go through is of a kind that cannot be copied. -/
def Copyable (store : LayerStore) (v : Value) : Prop :=
  (∀ p ∈ v.parts, p.isUnique = false) ∧
    ∀ id ∈ store.layersWithin v, ∀ p ∈ (Value.map (store.recordOf id)).parts, p.isUnique = false

theorem copy_eq_ok {mark : Nat} {v : Value} {copied : Copied}
    (copies : store.copy mark v = .ok copied) :
    copied.value = v.mapLeaves (store.exchange mark v) ∧
      copied.store = store ++ store.copiedRecords mark v ∧ mark ≤ copied.nextMark ∧
      store.Copyable v := by
  unfold copy at copies
  dsimp only at copies
  split at copies
  · cases copies
  · next copyable =>
      cases copies
      refine ⟨rfl, ?_, Nat.le_add_right _ _, ?_⟩
      · rw [copiedRecords, List.map_map]
        rfl
      · rw [Bool.not_eq_true, List.any_eq_false] at copyable
        simp only [List.flatMap_cons, List.mem_append, List.mem_flatMap, List.mem_map,
          Bool.not_eq_true] at copyable
        exact ⟨fun p part => copyable p (Or.inl part), fun id member p part =>
          copyable p (Or.inr ⟨_, ⟨id, member, rfl⟩, part⟩)⟩

theorem exists_copy {v : Value} (copyable : store.Copyable v) (mark : Nat) :
    ∃ copied, store.copy mark v = .ok copied := by
  unfold copy
  dsimp only
  rw [if_neg]
  · exact ⟨_, rfl⟩
  · rw [Bool.not_eq_true, List.any_eq_false]
    simp only [List.flatMap_cons, List.mem_append, List.mem_flatMap, List.mem_map,
      Bool.not_eq_true]
    rintro p (part | ⟨record, ⟨id, member, rfl⟩, part⟩)
    · exact copyable.1 p part
    · exact copyable.2 id member p part

/-! ## What a copy holds -/

theorem exchange_layers {mark : Nat} {v q : Value} {id : LayerId}
    (found : id ∈ (store.exchange mark v q).layersWithin) (leaf : q.isLeaf = true) :
    store.length ≤ id := by
  have named : ∀ n : Nat, (id ∈ (Value.layer n).layersWithin ∨ id ∈ (Value.record n).layersWithin) →
      id = n := by
    intro n
    simp [Value.mem_layersWithin, Value.parts]
  cases q with
  | layer n =>
      rw [named _ (Or.inl found)]
      exact Nat.le_add_right _ _
  | record n =>
      rw [named _ (Or.inr found)]
      exact Nat.le_add_right _ _
  | _ => first | (cases leaf; done) | cases found

/-- A copy holds only new layers. -/
theorem isNew_of_copy {mark : Nat} {v : Value} {id : LayerId}
    (found : id ∈ (v.mapLeaves (store.exchange mark v)).layersWithin) : store.length ≤ id := by
  obtain ⟨q, -, leaf, inside⟩ := Value.mem_layersWithin_mapLeaves found
  exact exchange_layers inside leaf

theorem mapLeaves_map_entries (f : Value → Value) (es : Entries) :
    Value.map ((((Value.map es).mapLeaves f).entries?).getD []) = (Value.map es).mapLeaves f := rfl

/-- A record that is not one of those before a copy is a copy of one, or there is none. -/
theorem recordOf_copy (mark : Nat) (v : Value) {id : LayerId} (isNew : store.length ≤ id) :
    (∃ old ∈ store.layersWithin v,
      Value.map (recordOf (store ++ store.copiedRecords mark v) id) =
        (Value.map (store.recordOf old)).mapLeaves (store.exchange mark v)) ∨
      recordOf (store ++ store.copiedRecords mark v) id = [] := by
  unfold recordOf
  rw [List.getElem?_append_right isNew]
  cases found : (store.copiedRecords mark v)[id - store.length]? with
  | none => exact Or.inr rfl
  | some layer =>
      obtain ⟨old, member, rfl⟩ := List.mem_map.mp (List.mem_of_getElem? found)
      exact Or.inl ⟨old, member, mapLeaves_map_entries _ _⟩

/-- The records of new layers hold only new layers. -/
theorem isNew_of_record {mark : Nat} {v : Value} {id next : LayerId} (isNew : store.length ≤ id)
    (found : next ∈ recordLayers (store ++ store.copiedRecords mark v) id) :
    store.length ≤ next := by
  unfold recordLayers at found
  rcases recordOf_copy mark v isNew with ⟨old, -, same⟩ | none
  · rw [same] at found
    obtain ⟨q, -, leaf, inside⟩ := Value.mem_layersWithin_mapLeaves found
    exact exchange_layers inside leaf
  · rw [none] at found
    cases found

/-- Nothing in a copy of a value is of a kind that cannot be copied. -/
theorem isUnique_of_copied {mark : Nat} {v w : Value} (copyable : ∀ p ∈ w.parts, p.isUnique = false)
    {p : Value} (part : p ∈ (w.mapLeaves (store.exchange mark v)).parts) : p.isUnique = false := by
  obtain ⟨q, among, ⟨leaf, inside⟩ | ⟨inner, rfl⟩⟩ := Value.mem_parts_mapLeaves part
  · have unique := copyable q among
    cases q <;> cases leaf
    all_goals
      simp only [exchange, counterpart, Value.parts, List.mem_singleton] at inside
      subst inside
      exact unique
  · have unique := copyable q among
    cases q <;> first | (cases inner; done) | exact unique

/-- What has been copied once can be copied again. -/
theorem exists_copy_of_copy {mark : Nat} {v : Value} {copied : Copied}
    (copies : store.copy mark v = .ok copied) (mark' : Nat) :
    ∃ again, copied.store.copy mark' copied.value = .ok again := by
  obtain ⟨value, layers, -, copyable⟩ := copy_eq_ok copies
  refine exists_copy ⟨fun p part => ?_, ?_⟩ mark'
  · rw [value] at part
    exact isUnique_of_copied copyable.1 part
  · rw [layers, value]
    have allNew : ∀ id ∈ layersWithin (store ++ store.copiedRecords mark v)
        (v.mapLeaves (store.exchange mark v)), store.length ≤ id :=
      layersWithin_induction (fun id found => isNew_of_copy found)
        fun id isNew next found => isNew_of_record isNew found
    intro id member p part
    rcases recordOf_copy mark v (allNew id member) with ⟨old, reached, same⟩ | none
    · rw [same] at part
      exact isUnique_of_copied (copyable.2 old reached) part
    · rw [none] at part
      cases List.mem_singleton.mp part
      rfl

end LayerStore

end MapStyle
