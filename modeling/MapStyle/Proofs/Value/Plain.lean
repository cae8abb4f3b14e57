import MapStyle.Layer.Store
import MapStyle.Proofs.Value.Parts

/-!
# Plain data

Plain data holds no object of the library, no view of the scope and no live record, at any depth.
More generally, a value is known by what it holds if nothing in it has an identity of its own.

* `Value.isPlain` decides it; `Value.isPlain_list` and `Value.isPlain_map` go into containers.
* `Value.isStructural` decides whether a value is known by what it holds.
* `LayerStore.copy_of_isStructural`: a copy of such a value is that value, and copying it changes
  nothing; `LayerStore.resolve_record` says what is seen of a layer with such a record.
-/

namespace MapStyle

namespace Value

/-- The kinds of value that plain data is made of. -/
def isPlainKind : Value → Bool
  | .null | .bool _ | .int _ | .float _ | .str _ | .list _ | .map _ => true
  | _ => false

/-- Plain data: every part of it is of a plain kind. -/
def isPlain (v : Value) : Bool := v.parts.all isPlainKind

theorem isPlain_iff {v : Value} :
    v.isPlain = true ↔ v.isPlainKind = true ∧ ∀ w ∈ v.children, w.isPlain = true :=
  all_parts_iff

@[simp] theorem isPlain_list (items : List Value) :
    (Value.list items).isPlain = items.all isPlain := by
  rw [Bool.eq_iff_iff, isPlain_iff, List.all_eq_true]
  simp [isPlainKind, children]

@[simp] theorem isPlain_map (es : Entries) :
    (Value.map es).isPlain = es.all fun e => e.1.isPlain && e.2.isPlain := by
  rw [Bool.eq_iff_iff, isPlain_iff, List.all_eq_true]
  simp only [isPlainKind, children, List.mem_flatMap, List.mem_cons, List.not_mem_nil, or_false,
    true_and, Bool.and_eq_true]
  constructor
  · intro all e member
    exact ⟨all _ ⟨e, member, Or.inl rfl⟩, all _ ⟨e, member, Or.inr rfl⟩⟩
  · rintro all w ⟨e, member, rfl | rfl⟩
    · exact (all e member).1
    · exact (all e member).2

/-! ## Values known by what they hold -/

/-- The kinds of value that are known by what they hold: no layer or live record, no highlighted
text, no console and no view of the scope. -/
def isStructuralKind : Value → Bool
  | .layer _ | .record _ | .highlighted .. | .console .. | .scope _ => false
  | _ => true

/-- A value known by what it holds: every part of it is. -/
def isStructural (v : Value) : Bool := v.parts.all isStructuralKind

theorem isStructural_iff {v : Value} :
    v.isStructural = true ↔
      v.isStructuralKind = true ∧ ∀ w ∈ v.children, w.isStructural = true :=
  all_parts_iff

theorem isStructural_list {items : List Value} (each : ∀ w ∈ items, w.isStructural = true) :
    (Value.list items).isStructural = true :=
  isStructural_iff.mpr ⟨rfl, each⟩

theorem isStructural_map {es : Entries}
    (each : ∀ e ∈ es, e.1.isStructural = true ∧ e.2.isStructural = true) :
    (Value.map es).isStructural = true :=
  isStructural_iff.mpr ⟨rfl, forall_mem_pairs.mpr each⟩

/-- A part of a value known by what it holds is of such a kind, so what no such kind yields is not
found in it. -/
theorem filterMap_parts_of_isStructural {α : Type} {pick : Value → Option α} {v : Value}
    (structural : v.isStructural = true)
    (none : ∀ p : Value, p.isStructuralKind = true → pick p = .none) :
    v.parts.filterMap pick = [] := by
  rw [List.filterMap_eq_nil_iff]
  intro p member
  exact none p (List.all_eq_true.mp structural p member)

theorem isStructural_of_isPlain {v : Value} (plain : v.isPlain = true) : v.isStructural = true := by
  refine List.all_eq_true.mpr fun p member => ?_
  have kind := List.all_eq_true.mp plain p member
  cases p <;> first | rfl | cases kind

end Value

namespace LayerStore

/-- There are no layers within a value known by what it holds. -/
theorem layersWithin_of_isStructural (store : LayerStore) {v : Value}
    (structural : v.isStructural = true) : store.layersWithin v = [] := by
  have direct : v.layersWithin = [] := by
    refine Value.filterMap_parts_of_isStructural structural ?_
    intro p kind
    cases p <;> first | rfl | cases kind
  rw [layersWithin, direct]
  cases store.length <;> rfl

/-- A value known by what it holds is copied to itself. -/
theorem copy_of_isStructural (store : LayerStore) (mark : Nat) {v : Value}
    (structural : v.isStructural = true) : store.copy mark v = .ok ⟨v, store, mark⟩ := by
  have noLayers := store.layersWithin_of_isStructural structural
  have noUnique : v.parts.any Value.isUnique = false := by
    rw [List.any_eq_false]
    intro p member
    have kind := List.all_eq_true.mp structural p member
    cases p <;> first | exact Bool.false_ne_true | cases kind
  have noMarks : v.parts.filterMap Value.highlightMark? = [] := by
    refine Value.filterMap_parts_of_isStructural structural ?_
    intro p kind
    cases p <;> first | rfl | cases kind
  have unchanged : v.mapLeaves (counterpart [] [] store.length mark) = v := by
    refine Value.mapLeaves_eq_self fun leaf part _ => ?_
    have kind := List.all_eq_true.mp structural leaf part
    cases leaf <;> first | rfl | cases kind
  simp [copy, noLayers, noUnique, noMarks, unchanged]

/-- In a value known by what it holds stands no live record, so it is seen as it is. -/
theorem resolveWithin_of_isStructural (store : LayerStore) (steps : Nat) (around : List LayerId)
    {v : Value} (structural : v.isStructural = true) : store.resolveWithin steps around v = v := by
  cases steps with
  | zero => rfl
  | succ steps =>
      refine Value.mapLeaves_eq_self fun leaf part _ => ?_
      have kind := List.all_eq_true.mp structural leaf part
      cases leaf <;> first | rfl | cases kind

/-- Looked at alone, it is seen as it is, too. -/
theorem view_of_isStructural (store : LayerStore) {v : Value} (structural : v.isStructural = true) :
    store.view v = v := by
  cases v with
  | record id => cases (Value.isStructural_iff.mp structural).1
  | _ => rfl

/-- The live record of a layer is seen as the record that it is, if that is known by what it
holds. -/
theorem resolve_record {store : LayerStore} {id : LayerId} (known : id < store.length)
    (structural : (Value.map (store.recordOf id)).isStructural = true) :
    store.resolve (.record id) = .map (store.recordOf id) := by
  obtain ⟨steps, all⟩ := Nat.exists_eq_succ_of_ne_zero (Nat.ne_zero_of_lt known)
  rw [resolve, all, resolveWithin, Value.mapLeaves_of_isLeaf _ rfl]
  exact store.resolveWithin_of_isStructural steps [id] structural

end LayerStore

end MapStyle
