import Mathlib.Data.List.Forall2
import MapStyle.Expression.Basic
import MapStyle.Proofs.Layer.Present
import MapStyle.Proofs.Layer.Reachable
import MapStyle.Proofs.Value.Plain

/-!
# What a value shows

A value with live records in it shows what the records hold at that moment.  Where that is known by
what it holds, no layer and no record within itself among it, a copy of the value shows the same:
the new layers are the old ones by other numbers, and with no number left to see there is no
difference.

* `LayerStore.resolveWithin_mono`: more steps than are needed show nothing else.
* `LayerStore.resolveWithin_exchange`: resolving commutes with the exchange of layers by a copy.
* `LayerStore.Shows` says what a value shows; `Shows.copy`, `Shows.append` and `Shows.view` keep it.
-/

namespace MapStyle

namespace Value

/-- A part of a value known by what it holds is known by what it holds. -/
theorem isStructural_of_part {v p : Value} (structural : v.isStructural = true) (part : p ∈ v.parts) :
    p.isStructural = true :=
  List.all_eq_true.mpr fun q inner =>
    List.all_eq_true.mp structural q (parts_trans inner part)

end Value

namespace LayerStore

variable {store : LayerStore}

/-! ## Steps -/

/-- What is seen in the place of a leaf. -/
def shownLeaf (store : LayerStore) (steps : Nat) (around : List LayerId) : Value → Value
  | .record id =>
    if around.contains id then .record id
    else store.resolveWithin steps (id :: around) (.map (store.recordOf id))
  | leaf => leaf

theorem resolveWithin_succ (store : LayerStore) (steps : Nat) (around : List LayerId) (v : Value) :
    store.resolveWithin (steps + 1) around v = v.mapLeaves (store.shownLeaf steps around) := by
  rw [resolveWithin]
  refine Value.mapLeaves_congr fun q _ _ => ?_
  cases q <;> rfl

/-- What stands around its children is seen around what they are seen as. -/
theorem resolve_eq_mapChildren {v : Value} (inner : v.isLeaf = false) :
    store.resolve v = v.mapChildren store.resolve := by
  unfold resolve
  cases store.length with
  | zero => exact (Value.mapChildren_id v).symm
  | succ steps =>
      rw [resolveWithin_succ, Value.mapLeaves_eq_mapChildren _ inner]
      exact Value.mapChildren_congr fun w _ => (store.resolveWithin_succ steps [] w).symm

/-- Where nothing is left to be seen, more steps show nothing else, and neither does the same value
where it stands in fewer records. -/
theorem resolveWithin_mono {steps steps' : Nat} {around around' : List LayerId} {v : Value}
    (structural : (store.resolveWithin steps around v).isStructural = true) (more : steps ≤ steps')
    (fewer : around' ⊆ around) :
    store.resolveWithin steps' around' v = store.resolveWithin steps around v := by
  induction steps generalizing steps' around around' v with
  | zero => exact store.resolveWithin_of_isStructural steps' around' structural
  | succ steps ih =>
      obtain ⟨steps', rfl⟩ : ∃ k, steps' = k + 1 := Nat.exists_eq_succ_of_ne_zero (by omega)
      rw [resolveWithin_succ] at structural
      rw [resolveWithin_succ, resolveWithin_succ]
      refine Value.mapLeaves_congr fun q part leaf => ?_
      have seen := Value.isStructural_of_part structural (Value.mapLeaves_mem_parts _ part)
      rw [Value.mapLeaves_of_isLeaf _ leaf] at seen
      cases q with
      | record id =>
          unfold shownLeaf at seen ⊢
          dsimp only at seen ⊢
          by_cases within : around.contains id = true
          · rw [if_pos within] at seen
            cases seen
          · have without : ¬ around'.contains id = true := fun there =>
              within (List.contains_iff_mem.mpr (fewer (List.contains_iff_mem.mp there)))
            rw [if_neg within] at seen ⊢
            rw [if_neg without]
            exact ih seen (by omega) (List.cons_subset_cons id fewer)
      | _ => rfl

/-! ## Copies -/

/-- A copy of a value exchanges only what is not known by what it holds. -/
theorem mapLeaves_exchange_of_isStructural (mark : Nat) (v : Value) {p : Value}
    (structural : p.isStructural = true) : p.mapLeaves (store.exchange mark v) = p := by
  refine Value.mapLeaves_eq_self fun q part _ => ?_
  have kind := List.all_eq_true.mp structural q part
  cases q <;> first | rfl | cases kind

/-- The number that a layer within a value has in a copy of it. -/
def copiedId (store : LayerStore) (v : Value) (id : LayerId) : LayerId :=
  store.length + (store.layersWithin v).idxOf id

theorem copiedId_inj {v : Value} {id other : LayerId} (within : id ∈ store.layersWithin v)
    (same : store.copiedId v other = store.copiedId v id) : other = id := by
  have places : (store.layersWithin v).idxOf other = (store.layersWithin v).idxOf id :=
    Nat.add_left_cancel same
  have here := List.idxOf_lt_length_of_mem within
  have there : other ∈ store.layersWithin v := List.idxOf_lt_length_iff.mp (places ▸ here)
  rw [← List.getElem_idxOf here, ← List.getElem_idxOf (List.idxOf_lt_length_of_mem there)]
  simp only [places]

/-- The record of a layer in a copy is a copy of the record. -/
theorem recordOf_copiedId (mark : Nat) {v : Value} {id : LayerId}
    (within : id ∈ store.layersWithin v) :
    Value.map (recordOf (store ++ store.copiedRecords mark v) (store.copiedId v id)) =
      (Value.map (store.recordOf id)).mapLeaves (store.exchange mark v) := by
  rw [recordOf, copiedId, List.getElem?_append_right (Nat.le_add_right _ _), Nat.add_sub_cancel_left,
    copiedRecords, List.getElem?_map, List.getElem?_idxOf within]
  exact mapLeaves_map_entries _ _

/-- Resolving a copy is copying what is resolved, since layers that are told apart before are told
apart by their new numbers. -/
theorem resolveWithin_exchange (mark : Nat) (v : Value) {steps : Nat} {around : List LayerId}
    {p : Value} (aroundWithin : ∀ id ∈ around, id ∈ store.layersWithin v)
    (within : ∀ id ∈ p.layersWithin, id ∈ store.layersWithin v) :
    resolveWithin (store ++ store.copiedRecords mark v) steps (around.map (store.copiedId v))
        (p.mapLeaves (store.exchange mark v)) =
      (store.resolveWithin steps around p).mapLeaves (store.exchange mark v) := by
  induction steps generalizing around p with
  | zero => rfl
  | succ steps ih =>
      rw [resolveWithin_succ, resolveWithin_succ, Value.mapLeaves_mapLeaves,
        Value.mapLeaves_mapLeaves]
      refine Value.mapLeaves_congr fun q part leaf => ?_
      cases q with
      | record id =>
          have inside : id ∈ store.layersWithin v :=
            within id (Value.mem_layersWithin.mpr (Or.inr part))
          have told : (around.map (store.copiedId v)).contains (store.copiedId v id) =
              around.contains id := by
            rw [Bool.eq_iff_iff, List.contains_iff_mem, List.contains_iff_mem, List.mem_map]
            constructor
            · rintro ⟨other, among, same⟩
              exact copiedId_inj inside same ▸ among
            · exact fun among => ⟨id, among, rfl⟩
          have further := @ih (id :: around) (.map (store.recordOf id))
            (List.forall_mem_cons.mpr ⟨inside, aroundWithin⟩)
            (closed_layersWithin store v id inside)
          change shownLeaf _ steps _ (.record (store.copiedId v id)) =
            (store.shownLeaf steps around (.record id)).mapLeaves _
          unfold shownLeaf
          dsimp only
          rw [told, recordOf_copiedId mark inside]
          split
          · rfl
          · exact further
      | _ => first | (cases leaf; done) | rfl

/-- What is seen of a value can be copied if it is known by what it holds: nothing that is come
across is of a kind that cannot be. -/
theorem isUnique_of_resolveWithin {steps : Nat} {around : List LayerId} {v : Value}
    (structural : (store.resolveWithin steps around v).isStructural = true) {p : Value}
    (part : p ∈ v.parts) : p.isUnique = false := by
  cases steps with
  | zero =>
      have kind := List.all_eq_true.mp structural p part
      cases p <;> first | rfl | cases kind
  | succ steps =>
      rw [resolveWithin_succ] at structural
      have kind := List.all_eq_true.mp structural _ (Value.mapLeaves_mem_parts _ part)
      cases p <;> first | rfl | cases kind

/-- The record of a layer that is come across is seen, and it is known by what it holds, too. -/
theorem exists_resolveWithin_record {steps : Nat} {around : List LayerId} {v : Value} {id : LayerId}
    (structural : (store.resolveWithin steps around v).isStructural = true)
    (found : id ∈ v.layersWithin) :
    ∃ steps around,
      (store.resolveWithin steps around (.map (store.recordOf id))).isStructural = true := by
  cases steps with
  | zero =>
      rcases Value.mem_layersWithin.mp found with part | part <;>
        cases List.all_eq_true.mp structural _ part
  | succ steps =>
      rw [resolveWithin_succ] at structural
      rcases Value.mem_layersWithin.mp found with part | part
      · cases List.all_eq_true.mp structural _ (Value.mapLeaves_mem_parts _ part)
      · have seen := Value.isStructural_of_part structural (Value.mapLeaves_mem_parts _ part)
        rw [Value.mapLeaves_of_isLeaf _ rfl] at seen
        unfold shownLeaf at seen
        dsimp only at seen
        split at seen
        · cases seen
        · exact ⟨steps, _, seen⟩

/-- What shows only what is known by what it holds can be copied. -/
theorem exists_copy_of_resolve {v : Value} (structural : (store.resolve v).isStructural = true)
    (mark : Nat) : ∃ copied, store.copy mark v = .ok copied := by
  refine exists_copy ⟨fun p part => isUnique_of_resolveWithin structural part, fun id member => ?_⟩ mark
  suffices seen : ∃ steps around,
      (store.resolveWithin steps around (.map (store.recordOf id))).isStructural = true by
    obtain ⟨steps, around, structural⟩ := seen
    exact fun p part => isUnique_of_resolveWithin structural part
  exact layersWithin_induction (fun id found => exists_resolveWithin_record structural found)
    (fun id ⟨_, _, seen⟩ next found => exists_resolveWithin_record seen found) id member

/-- A layer that is come across from what stands around children is come across from one of them. -/
theorem exists_child_of_layersWithin {v : Value} (inner : v.isLeaf = false) {id : LayerId}
    (member : id ∈ store.layersWithin v) : ∃ u ∈ v.children, id ∈ store.layersWithin u := by
  refine layersWithin_induction (motive := fun id => ∃ u ∈ v.children, id ∈ store.layersWithin u)
    (fun id found => ?_) (fun id ⟨u, child, inside⟩ next found =>
      ⟨u, child, closed_layersWithin store u id inside next found⟩) id member
  obtain ⟨p, part, isLayer⟩ := List.mem_filterMap.mp found
  rcases Value.mem_parts_iff.mp part with rfl | ⟨u, child, deeper⟩
  · cases p <;> first | (cases inner; done) | cases isLayer
  · exact ⟨u, child, layersWithin_of_mem (List.mem_filterMap.mpr ⟨p, deeper, isLayer⟩)⟩

/-- A layer that is come across from a child is come across from what stands around it. -/
theorem mem_layersWithin_of_child {v u : Value} (child : u ∈ v.children) {id : LayerId}
    (member : id ∈ store.layersWithin u) : id ∈ store.layersWithin v := by
  refine layersWithin_induction (fun id found => ?_)
    (fun id inside => closed_layersWithin store _ id inside) id member
  have part : u ∈ v.parts := Value.mem_parts_iff.mpr (Or.inr ⟨u, child, Value.self_mem_parts u⟩)
  exact layersWithin_of_mem (mem_layersWithin_of_part part found)

/-! ## What is shown -/

/-- A value shows what it is with the present records in the place of the live ones, if that is
known by what it holds and the store has all the layers that are come across. -/
structure Shows (store : LayerStore) (v w : Value) : Prop where
  resolves : store.resolve v = w
  structural : w.isStructural = true
  known : ∀ id ∈ store.layersWithin v, id < store.length

namespace Shows

variable {v w : Value}

/-- A value known by what it holds shows itself. -/
theorem of_isStructural (store : LayerStore) (structural : v.isStructural = true) :
    store.Shows v v where
  resolves := store.resolveWithin_of_isStructural _ _ structural
  structural := structural
  known := by
    rw [store.layersWithin_of_isStructural structural]
    exact nofun

theorem self (shows : store.Shows v w) : store.Shows v (store.resolve v) :=
  shows.resolves.symm ▸ shows

/-- A copy of a value can be made, and it shows what the value shows. -/
theorem copy (shows : store.Shows v w) (mark : Nat) :
    ∃ copied, store.copy mark v = .ok copied ∧ copied.store.Shows copied.value w := by
  obtain ⟨resolves, structural, -⟩ := shows
  subst resolves
  obtain ⟨copied, copies⟩ := exists_copy_of_resolve structural mark
  obtain ⟨value, layers, -, -⟩ := copy_eq_ok copies
  refine ⟨copied, copies, ?_, structural, ?_⟩
  · have seen : resolveWithin copied.store store.length [] copied.value = store.resolve v := by
      rw [value, layers]
      refine (@resolveWithin_exchange store mark v _ [] _ nofun fun id direct =>
        layersWithin_of_mem direct).trans ?_
      exact mapLeaves_exchange_of_isStructural mark v structural
    rw [resolve, ← seen]
    refine resolveWithin_mono (seen ▸ structural) ?_ (List.Subset.refl _)
    rw [layers, List.length_append]
    exact Nat.le_add_right _ _
  · rw [layers, value]
    intro id member
    refine (layersWithin_induction (motive := fun id => store.length ≤ id ∧
      id < (store ++ store.copiedRecords mark v).length)
      (fun id found => ⟨isNew_of_copy found, lt_of_copy found⟩)
      (fun id isNew next found => ⟨isNew_of_record isNew.1 found, lt_of_record isNew.1 found⟩)
      id member).2

/-- New layers change nothing of what a value shows. -/
theorem append (shows : store.Shows v w) (more : LayerStore) : Shows (store ++ more) v w := by
  obtain ⟨resolves, structural, known⟩ := shows
  have seen : ∀ {steps around p}, (∀ id ∈ Value.layersWithin p, id ∈ store.layersWithin v) →
      resolveWithin (store ++ more) steps around p = store.resolveWithin steps around p := by
    intro steps
    induction steps with
    | zero => exact fun _ => rfl
    | succ steps ih =>
        intro around p within
        rw [resolveWithin_succ, resolveWithin_succ]
        refine Value.mapLeaves_congr fun q part _ => ?_
        cases q with
        | record id =>
            have inside := within id (Value.mem_layersWithin.mpr (Or.inr part))
            unfold shownLeaf
            dsimp only
            rw [recordOf_append more (known id inside), ih (closed_layersWithin store v id inside)]
        | _ => rfl
  subst resolves
  refine ⟨?_, structural, fun id member => ?_⟩
  · have same : resolveWithin (store ++ more) store.length [] v = store.resolve v :=
      seen fun id direct => layersWithin_of_mem direct
    refine (resolveWithin_mono (same ▸ structural) ?_ (List.Subset.refl _)).trans same
    rw [List.length_append]
    exact Nat.le_add_right _ _
  · have old : id ∈ store.layersWithin v := by
      refine layersWithin_induction (fun id direct => layersWithin_of_mem direct)
        (fun id inside next found => ?_) id member
      rw [recordLayers, recordOf_append more (known id inside)] at found
      exact closed_layersWithin store v id inside next found
    rw [List.length_append]
    exact Nat.lt_add_right _ (known id old)

/-- A live record shows what the present record shows. -/
theorem view (shows : store.Shows v w) : store.Shows (store.view v) w := by
  cases v with
  | record id =>
      obtain ⟨resolves, structural, known⟩ := shows
      subst resolves
      have inside : id ∈ store.layersWithin (.record id) :=
        layersWithin_of_mem List.mem_cons_self
      obtain ⟨steps, all⟩ := Nat.exists_eq_succ_of_ne_zero (Nat.ne_zero_of_lt (known id inside))
      have seen : store.resolve (.record id) =
          store.resolveWithin steps [id] (.map (store.recordOf id)) := by
        rw [resolve, all, resolveWithin_succ]
        rfl
      rw [seen] at structural
      refine ⟨?_, seen ▸ structural, fun next member => known next ?_⟩
      · rw [seen]
        exact resolveWithin_mono structural (by omega) (List.nil_subset _)
      · exact layersWithin_induction (closed_layersWithin store _ id inside)
          (fun id inside => closed_layersWithin store _ id inside) next member
  | _ => exact shows

/-! ### Containers -/

/-- Whatever stands around its children shows what it is around what they show. -/
theorem of_children (inner : v.isLeaf = false) (kind : v.isStructuralKind = true)
    (each : ∀ u ∈ v.children, store.Shows u (store.resolve u)) :
    store.Shows v (store.resolve v) where
  resolves := rfl
  structural := by
    rw [resolve_eq_mapChildren inner, Value.isStructural_iff, Value.children_mapChildren,
      List.forall_mem_map]
    refine ⟨?_, fun u child => (each u child).structural⟩
    cases v <;> exact kind
  known := by
    intro id member
    obtain ⟨u, child, inside⟩ := exists_child_of_layersWithin inner member
    exact (each u child).known id inside

/-- A list shows what its items show. -/
theorem list {vs : List Value} (each : ∀ v ∈ vs, store.Shows v (store.resolve v)) :
    store.Shows (.list vs) (.list (vs.map store.resolve)) := by
  have items : store.resolve (.list vs) = .list (vs.map store.resolve) :=
    resolve_eq_mapChildren rfl
  exact items ▸ of_children rfl rfl each

/-- An expression shows what its array shows. -/
theorem expression (shows : store.Shows v w) : store.Shows (.expression v) (.expression w) := by
  obtain rfl := shows.resolves
  have around : store.resolve (.expression v) = .expression (store.resolve v) :=
    resolve_eq_mapChildren rfl
  exact around ▸ of_children rfl rfl (List.forall_mem_singleton.mpr shows)

/-- What shows something shows something of each of its children. -/
theorem child {u : Value} (shows : store.Shows v w) (child : u ∈ v.children) :
    store.Shows u (store.resolve u) where
  resolves := rfl
  structural := by
    have inner : v.isLeaf = false := by
      cases v <;> first | rfl | cases child
    have structural := shows.self.structural
    rw [resolve_eq_mapChildren inner, Value.isStructural_iff, Value.children_mapChildren] at structural
    exact structural.2 _ (List.mem_map_of_mem child)
  known := fun id member => shows.known id (mem_layersWithin_of_child child member)

/-- A list shows what its items show, one by one. -/
theorem list_of_forall₂ {vs ws : List Value} (each : List.Forall₂ store.Shows vs ws) :
    store.Shows (.list vs) (.list ws) := by
  suffices both : (∀ v ∈ vs, store.Shows v (store.resolve v)) ∧ vs.map store.resolve = ws from
    both.2 ▸ list both.1
  induction each with
  | nil => exact ⟨nofun, rfl⟩
  | cons first _ ih =>
      exact ⟨List.forall_mem_cons.mpr ⟨first.self, ih.1⟩, congrArg₂ List.cons first.resolves ih.2⟩

/-- A list with one more item shows what they show. -/
theorem list_concat {vs ws : List Value} (front : store.Shows (.list vs) (.list ws))
    (last : store.Shows v w) :
    store.Shows (.list (vs ++ [v])) (.list (ws ++ [w])) := by
  have items : ∀ u ∈ vs, store.Shows u (store.resolve u) := fun u member => front.child member
  have resolved : vs.map store.resolve = ws :=
    Value.list.inj ((list items).resolves.symm.trans front.resolves)
  have all := list
    (List.forall_mem_append.mpr ⟨items, List.forall_mem_singleton.mpr last.self⟩)
  rw [List.map_append, resolved, List.map_singleton, last.resolves] at all
  exact all

theorem of_expression (shows : store.Shows (.expression v) (.expression w)) : store.Shows v w := by
  have array : store.resolve v = w :=
    Value.expression.inj ((resolve_eq_mapChildren rfl).symm.trans shows.resolves)
  exact array ▸ shows.child List.mem_cons_self

/-- As an operand, a value shows what it shows as an operand. -/
theorem asOperand (shows : store.Shows v w) : store.Shows v.asOperand w.asOperand := by
  by_cases isExpression : ∃ u, w = .expression u
  · obtain ⟨u, rfl⟩ := isExpression
    obtain ⟨shown, showsRecords, resolves⟩ := store.exists_showsRecords store.length []
    obtain ⟨inner, rfl, -⟩ :=
      showsRecords.of_mapLeaves_eq_expression ((resolves v).symm.trans shows.resolves)
    exact of_expression shows
  · have kept : ∀ {u : Value}, (∀ inner, u ≠ .expression inner) → u.asOperand = u := by
      intro u other
      cases u <;> first | rfl | exact (other _ rfl).elim
    have other : ∀ inner, v ≠ .expression inner := by
      rintro inner rfl
      exact isExpression ⟨_, shows.resolves.symm.trans (resolve_eq_mapChildren rfl)⟩
    rw [kept other, kept fun inner same => isExpression ⟨inner, same⟩]
    exact shows

end Shows

end LayerStore

end MapStyle
