import MapStyle.Value.Traverse

/-!
# Induction over the parts of a value

A value is made of its children, and `Value.parts` lists it with everything below them.  The nested
lists of items and pairs make the plain induction over values awkward, so one is stated here that
goes from the children of a value to the value itself.

* `Value.children` are the values that stand directly in a value.
* `Value.children_induction` proves a property of every value from the same property of its
  children.
* `Value.mapLeaves_eq_mapChildren` takes a change to the leaves one level down, from where
  `Value.mapLeaves_congr` and `Value.mapLeaves_mapLeaves` follow by that induction.
* `Value.mem_parts_mapLeaves` says where the parts of a value with changed leaves come from.
-/

namespace MapStyle.Value

/-- The values that stand directly in a value. -/
def children : Value → List Value
  | .list items | .tuple items => items
  | .map es | .scope es | .varBindings es => es.flatMap fun e => [e.1, e.2]
  | .expression v | .caseChain v | .letChain v | .property v | .constant v
  | .preparedOutput v => [v]
  | .pendingCase v w | .matchChain v w | .matchEnding v w | .checkResult v w
  | .loadedConfig v w => [v, w]
  | .outputOperation k t r m => [k, t, r, m]
  | _ => []

/-- A value without children. -/
def isLeaf (v : Value) : Bool :=
  match v with
  | .null | .bool _ | .int _ | .float _ | .str _ | .broken _ | .layer _ | .record _
  | .highlighted .. | .console .. => true
  | _ => false

theorem isLeaf_of_isText {v : Value} (isText : v.isText = true) : v.isLeaf = true := by
  cases v <;> first | rfl | cases isText

/-! ## Lists and pairs by their members -/

theorem partsOfItems_eq (items : List Value) : partsOfItems items = items.flatMap parts := by
  induction items with
  | nil => rfl
  | cons item items ih => rw [partsOfItems, ih, List.flatMap_cons]

theorem partsOfPairs_eq (es : List (Value × Value)) :
    partsOfPairs es = (es.flatMap fun e => [e.1, e.2]).flatMap parts := by
  induction es with
  | nil => rfl
  | cons e es ih =>
      obtain ⟨a, b⟩ := e
      simp only [partsOfPairs, ih, List.flatMap_cons, List.cons_append, List.nil_append,
        List.append_assoc]

theorem mapLeavesOfItems_eq (f : Value → Value) (items : List Value) :
    mapLeavesOfItems f items = items.map (mapLeaves f) := by
  induction items with
  | nil => rfl
  | cons item items ih => rw [mapLeavesOfItems, ih, List.map_cons]

theorem mapLeaves_list (f : Value → Value) (items : List Value) :
    (Value.list items).mapLeaves f = .list (items.map (mapLeaves f)) := by
  rw [mapLeaves, mapLeavesOfItems_eq]

theorem mapLeavesOfPairs_eq (f : Value → Value) (es : List (Value × Value)) :
    mapLeavesOfPairs f es = es.map fun e => (mapLeaves f e.1, mapLeaves f e.2) := by
  induction es with
  | nil => rfl
  | cons e es ih =>
      obtain ⟨a, b⟩ := e
      rw [mapLeavesOfPairs, ih, List.map_cons]

/-- A value stands first among its parts, before those of its children. -/
theorem parts_eq (v : Value) : v.parts = v :: v.children.flatMap parts := by
  cases v <;>
    simp [parts, children, partsOfItems_eq, partsOfPairs_eq, List.flatMap_cons, List.append_assoc]

theorem self_mem_parts (v : Value) : v ∈ v.parts := by
  rw [parts_eq]
  exact List.mem_cons_self

theorem mem_parts_iff {p v : Value} : p ∈ v.parts ↔ p = v ∨ ∃ w ∈ v.children, p ∈ w.parts := by
  rw [parts_eq, List.mem_cons, List.mem_flatMap]

/-- What holds of all parts of a value holds of the value and of all parts of its children. -/
theorem all_parts_iff {P : Value → Bool} {v : Value} :
    v.parts.all P = true ↔ P v = true ∧ ∀ w ∈ v.children, w.parts.all P = true := by
  rw [parts_eq, List.all_cons, Bool.and_eq_true, List.all_flatMap, List.all_eq_true]

/-- To hold of all that stands in pairs is to hold of each key and each value. -/
theorem forall_mem_pairs {entries : Entries} {P : Value → Prop} :
    (∀ w ∈ entries.flatMap fun e => [e.1, e.2], P w) ↔ ∀ e ∈ entries, P e.1 ∧ P e.2 := by
  constructor
  · intro each e member
    exact ⟨each e.1 (List.mem_flatMap.mpr ⟨e, member, List.mem_cons_self⟩),
      each e.2 (List.mem_flatMap.mpr ⟨e, member, List.mem_cons_of_mem _ List.mem_cons_self⟩)⟩
  · intro each w member
    obtain ⟨e, among, here⟩ := List.mem_flatMap.mp member
    simp only [List.mem_cons, List.not_mem_nil, or_false] at here
    rcases here with rfl | rfl
    · exact (each e among).1
    · exact (each e among).2

/-! ## Induction -/

theorem sizeOf_children {v w : Value} (child : w ∈ v.children) : sizeOf w < sizeOf v := by
  cases v <;> simp only [children, List.mem_flatMap, List.mem_cons, List.not_mem_nil, or_false] at child
  case list items | tuple items =>
    have := List.sizeOf_lt_of_mem child
    simp only [list.sizeOf_spec, tuple.sizeOf_spec]
    omega
  case map es | scope es | varBindings es =>
    obtain ⟨⟨a, b⟩, member, rfl | rfl⟩ := child <;>
    · have := List.sizeOf_lt_of_mem member
      simp only [map.sizeOf_spec, scope.sizeOf_spec, varBindings.sizeOf_spec,
        Prod.mk.sizeOf_spec] at this ⊢
      omega
  all_goals
    simp only [expression.sizeOf_spec, caseChain.sizeOf_spec, letChain.sizeOf_spec,
      property.sizeOf_spec, constant.sizeOf_spec, preparedOutput.sizeOf_spec,
      pendingCase.sizeOf_spec, matchChain.sizeOf_spec, matchEnding.sizeOf_spec,
      checkResult.sizeOf_spec, loadedConfig.sizeOf_spec, outputOperation.sizeOf_spec]
    rcases child with rfl | rfl | rfl | rfl <;> omega

/-- What holds of a value whenever it holds of its children holds of every value. -/
theorem children_induction {motive : Value → Prop}
    (step : ∀ v, (∀ w ∈ v.children, motive w) → motive v) (v : Value) : motive v :=
  step v fun w child =>
    have := sizeOf_children child
    children_induction step w
termination_by sizeOf v

/-- The parts of a part are parts. -/
theorem parts_trans {p q v : Value} (inner : p ∈ q.parts) (outer : q ∈ v.parts) : p ∈ v.parts := by
  induction v using children_induction with
  | step v ih =>
      rcases mem_parts_iff.mp outer with rfl | ⟨w, child, deeper⟩
      · exact inner
      · exact mem_parts_iff.mpr (Or.inr ⟨w, child, ih w child deeper⟩)

/-! ## Changed leaves -/

theorem mapLeaves_of_isLeaf (f : Value → Value) {v : Value} (leaf : v.isLeaf = true) :
    v.mapLeaves f = f v := by
  cases v <;> first | rfl | cases leaf

/-- A value with other values in the place of its children. -/
def mapChildren (g : Value → Value) : Value → Value
  | .list items => .list (items.map g)
  | .tuple items => .tuple (items.map g)
  | .map es => .map (es.map fun e => (g e.1, g e.2))
  | .scope es => .scope (es.map fun e => (g e.1, g e.2))
  | .varBindings es => .varBindings (es.map fun e => (g e.1, g e.2))
  | .expression v => .expression (g v)
  | .caseChain v => .caseChain (g v)
  | .pendingCase v w => .pendingCase (g v) (g w)
  | .matchChain v w => .matchChain (g v) (g w)
  | .matchEnding v w => .matchEnding (g v) (g w)
  | .letChain v => .letChain (g v)
  | .property v => .property (g v)
  | .constant v => .constant (g v)
  | .checkResult v w => .checkResult (g v) (g w)
  | .loadedConfig v w => .loadedConfig (g v) (g w)
  | .preparedOutput v => .preparedOutput (g v)
  | .outputOperation k t r m => .outputOperation (g k) (g t) (g r) (g m)
  | v => v

theorem mapLeaves_eq_mapChildren (f : Value → Value) {v : Value} (inner : v.isLeaf = false) :
    v.mapLeaves f = v.mapChildren (mapLeaves f) := by
  cases v <;>
    first
    | simp only [isLeaf, Bool.true_eq_false] at inner; done
    | simp only [mapLeaves, mapChildren, mapLeavesOfItems_eq, mapLeavesOfPairs_eq]

theorem isLeaf_mapChildren (g : Value → Value) (v : Value) : (v.mapChildren g).isLeaf = v.isLeaf := by
  cases v <;> rfl

theorem children_mapChildren (g : Value → Value) (v : Value) :
    (v.mapChildren g).children = v.children.map g := by
  cases v <;> simp [mapChildren, children, List.map_flatMap, List.flatMap_map]

theorem mapChildren_congr {g h : Value → Value} {v : Value} (same : ∀ w ∈ v.children, g w = h w) :
    v.mapChildren g = v.mapChildren h := by
  cases v
  case list items => exact congrArg Value.list (List.map_congr_left same)
  case tuple items => exact congrArg Value.tuple (List.map_congr_left same)
  case map es | scope es | varBindings es =>
    have pairs := forall_mem_pairs.mp same
    simp only [mapChildren]
    rw [List.map_congr_left fun e member => by rw [(pairs e member).1, (pairs e member).2]]
  all_goals simp_all [mapChildren, children]

theorem mapChildren_mapChildren (g h : Value → Value) (v : Value) :
    (v.mapChildren g).mapChildren h = v.mapChildren fun w => h (g w) := by
  cases v <;> simp [mapChildren, Function.comp_def]

theorem mapChildren_id (v : Value) : v.mapChildren (fun w => w) = v := by
  cases v <;> simp [mapChildren]

/-- Only what becomes of the leaves counts. -/
theorem mapLeaves_congr {f g : Value → Value} {v : Value}
    (same : ∀ q ∈ v.parts, q.isLeaf = true → f q = g q) : v.mapLeaves f = v.mapLeaves g := by
  induction v using children_induction with
  | step v ih =>
      cases leaf : v.isLeaf with
      | true =>
          rw [mapLeaves_of_isLeaf f leaf, mapLeaves_of_isLeaf g leaf, same v (self_mem_parts v) leaf]
      | false =>
          rw [mapLeaves_eq_mapChildren f leaf, mapLeaves_eq_mapChildren g leaf]
          refine mapChildren_congr fun w child => ih w child fun q part => ?_
          exact same q (mem_parts_iff.mpr (Or.inr ⟨w, child, part⟩))

/-- Leaves that are kept as they are leave a value as it is. -/
theorem mapLeaves_eq_self {f : Value → Value} {v : Value}
    (fixed : ∀ q ∈ v.parts, q.isLeaf = true → f q = q) : v.mapLeaves f = v := by
  rw [mapLeaves_congr fixed]
  clear fixed
  induction v using children_induction with
  | step v ih =>
      cases leaf : v.isLeaf with
      | true => exact mapLeaves_of_isLeaf _ leaf
      | false => rw [mapLeaves_eq_mapChildren _ leaf, mapChildren_congr ih, mapChildren_id]

/-- Two changes, one after the other, are one change. -/
theorem mapLeaves_mapLeaves (f g : Value → Value) (v : Value) :
    (v.mapLeaves f).mapLeaves g = v.mapLeaves fun q => (f q).mapLeaves g := by
  induction v using children_induction with
  | step v ih =>
      cases leaf : v.isLeaf with
      | true => rw [mapLeaves_of_isLeaf f leaf, mapLeaves_of_isLeaf _ leaf]
      | false =>
          have inner : (v.mapChildren (mapLeaves f)).isLeaf = false :=
            (isLeaf_mapChildren _ v).trans leaf
          rw [mapLeaves_eq_mapChildren f leaf, mapLeaves_eq_mapChildren g inner,
            mapLeaves_eq_mapChildren _ leaf, mapChildren_mapChildren, mapChildren_congr ih]

theorem children_mapLeaves (f : Value → Value) {v : Value} (inner : v.isLeaf = false) :
    (v.mapLeaves f).children = v.children.map (mapLeaves f) := by
  rw [mapLeaves_eq_mapChildren f inner, children_mapChildren]

/-- A part of a value with changed leaves belongs to a changed leaf, or it is a part that had
children before. -/
theorem mem_parts_mapLeaves {f : Value → Value} {p v : Value} (member : p ∈ (v.mapLeaves f).parts) :
    ∃ q ∈ v.parts, (q.isLeaf = true ∧ p ∈ (f q).parts) ∨ (q.isLeaf = false ∧ p = q.mapLeaves f) := by
  induction v using children_induction with
  | step v ih =>
      cases leaf : v.isLeaf with
      | true =>
          rw [mapLeaves_of_isLeaf f leaf] at member
          exact ⟨v, self_mem_parts v, Or.inl ⟨leaf, member⟩⟩
      | false =>
          rcases mem_parts_iff.mp member with rfl | ⟨w, child, deeper⟩
          · exact ⟨v, self_mem_parts v, Or.inr ⟨leaf, rfl⟩⟩
          · rw [children_mapLeaves f leaf] at child
            obtain ⟨u, childOfV, rfl⟩ := List.mem_map.mp child
            obtain ⟨q, part, origin⟩ := ih u childOfV deeper
            exact ⟨q, mem_parts_iff.mpr (Or.inr ⟨u, childOfV, part⟩), origin⟩

/-- The parts of a value become parts of it with changed leaves. -/
theorem mapLeaves_mem_parts (f : Value → Value) {q v : Value} (part : q ∈ v.parts) :
    q.mapLeaves f ∈ (v.mapLeaves f).parts := by
  induction v using children_induction with
  | step v ih =>
      rcases mem_parts_iff.mp part with rfl | ⟨w, child, deeper⟩
      · exact self_mem_parts _
      · have inner : v.isLeaf = false := by
          cases v <;> first | rfl | cases child
        refine mem_parts_iff.mpr (Or.inr ⟨w.mapLeaves f, ?_, ih w child deeper⟩)
        rw [children_mapLeaves f inner]
        exact List.mem_map_of_mem child

end MapStyle.Value
