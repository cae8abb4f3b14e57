import MapStyle.Layer.Store
import MapStyle.Proofs.Value.Kinds

/-!
# Present records in the place of live ones

Whoever looks at everything in a value sees the records of layers as they are at that moment.  All
else is seen as it is, so names are found in what is seen as in the value itself.

* `ShowsRecords` is what can be said of the change to the leaves, `LayerStore.exists_showsRecords`
  that resolving a value is such a change, and `LayerStore.exists_unroll` that unrolling it is one.
* `LayerStore.exists_unroll_entries` is the view of an unrolled map by names.
* `ShowsRecords.lookupName` is the lookup of a name in what is seen.
-/

namespace MapStyle

variable {shown : Value → Value}

/-- A change to live records only, which at most become maps. -/
structure ShowsRecords (shown : Value → Value) : Prop where
  kept : ∀ q, (∀ id, q ≠ .record id) → shown q = q
  record : ∀ id, shown (.record id) = .record id ∨ ∃ entries, shown (.record id) = .map entries

namespace ShowsRecords

/-- A text is seen as it is. -/
theorem str (shows : ShowsRecords shown) (t : String) : shown (.str t) = .str t :=
  shows.kept (.str t) fun _ same => nomatch same

/-- A leaf that is no live record is seen as it is. -/
theorem mapLeaves_of_ne (shows : ShowsRecords shown) {q : Value} (leaf : q.isLeaf = true)
    (other : ∀ id, q ≠ .record id) : q.mapLeaves shown = q :=
  (Value.mapLeaves_of_isLeaf shown leaf).trans (shows.kept q other)

/-- Only a live record is seen as something else than it is. -/
theorem of_isLeaf (shows : ShowsRecords shown) {q : Value} (leaf : q.isLeaf = true) :
    q.mapLeaves shown = q ∨ ∃ entries, q.mapLeaves shown = .map entries := by
  rw [Value.mapLeaves_of_isLeaf _ leaf]
  by_cases isRecord : ∃ id, q = .record id
  · obtain ⟨id, rfl⟩ := isRecord
    exact shows.record id
  · exact Or.inl (shows.kept q fun id same => isRecord ⟨id, same⟩)

/-- What is seen is of the kind that the value is: a live record and a map are of one kind. -/
theorem keepsKinds (shows : ShowsRecords shown) : KeepsKinds shown where
  text {t} isText := shows.kept t (by rintro id rfl; cases isText)
  kind {q} _ := by
    by_cases isRecord : ∃ id, q = .record id
    · obtain ⟨id, rfl⟩ := isRecord
      rcases shows.record id with same | ⟨entries, same⟩ <;> rw [same]
      rfl
    · rw [shows.kept q fun id same => isRecord ⟨id, same⟩]

theorem mapLeaves_eq_text (shows : ShowsRecords shown) {v t : Value} (isText : t.isText = true) :
    v.mapLeaves shown = t ↔ v = t :=
  shows.keepsKinds.mapLeaves_eq_text isText

/-- What is seen as an expression is one, with what is seen of the array that it holds. -/
theorem of_mapLeaves_eq_expression (shows : ShowsRecords shown) {v w : Value}
    (same : v.mapLeaves shown = .expression w) :
    ∃ u, v = .expression u ∧ u.mapLeaves shown = w := by
  cases leaf : v.isLeaf with
  | true =>
      rcases shows.of_isLeaf leaf with kept | ⟨entries, isMap⟩
      · rw [kept] at same
        subst same
        cases leaf
      · rw [isMap] at same
        cases same
  | false =>
      cases v <;> first | (cases leaf; done) | cases same
      exact ⟨_, rfl, rfl⟩

/-- A lookup by name finds the changed value. -/
theorem lookupName (shows : ShowsRecords shown) (record : Entries)
    (name : String) :
    Entries.lookupName (Value.mapLeavesOfPairs shown record) name =
      (Entries.lookupName record name).map (Value.mapLeaves shown) :=
  shows.keepsKinds.lookupName record name

end ShowsRecords

namespace LayerStore

/-- Resolving a value shows the records in it. -/
theorem exists_showsRecords (store : LayerStore) (steps : Nat) (around : List LayerId) :
    ∃ shown, ShowsRecords shown ∧ ∀ v, store.resolveWithin steps around v = v.mapLeaves shown := by
  cases steps with
  | zero => exact ⟨id, ⟨fun _ _ => rfl, fun _ => Or.inl rfl⟩, fun v =>
      (Value.mapLeaves_eq_self fun _ _ _ => rfl).symm⟩
  | succ steps =>
      refine ⟨_, ⟨fun q other => ?_, fun layer => ?_⟩, fun v => rfl⟩
      · cases q
        case record layer => exact (other layer rfl).elim
        all_goals rfl
      · dsimp only
        split
        · exact Or.inl rfl
        · cases steps <;> exact Or.inr ⟨_, rfl⟩

theorem unroll_map (store : LayerStore) (depth : Nat) (entries : Entries) :
    ∃ shown, store.unroll depth (.map entries) = .map shown := by
  cases depth <;> exact ⟨_, rfl⟩

/-- Unrolling a value shows the records in it, all of them unless there is no depth left. -/
theorem exists_unroll (store : LayerStore) (depth : Nat) :
    ∃ shown, ShowsRecords shown ∧ (∀ v, store.unroll depth v = v.mapLeaves shown) ∧
      (depth ≠ 0 → ∀ id, ∃ entries, shown (.record id) = .map entries) := by
  cases depth with
  | zero => exact ⟨id, ⟨fun _ _ => rfl, fun _ => Or.inl rfl⟩, fun v =>
      (Value.mapLeaves_eq_self fun _ _ _ => rfl).symm, fun deep => (deep rfl).elim⟩
  | succ depth =>
      refine ⟨_, ⟨fun q other => ?_, fun layer => Or.inr (store.unroll_map depth _)⟩, fun v => rfl,
        fun _ layer => store.unroll_map depth _⟩
      cases q
      case record layer => exact (other layer rfl).elim
      all_goals rfl

variable {store : LayerStore} {v : Value} {record : Entries}

/-- What has entries has as many when it is unrolled, with what stands under each name unrolled as
deep, or less deep by one in a live record. -/
theorem exists_unroll_entries (depth : Nat) (isMap : (store.view v).entries? = some record) :
    ∃ near seen, depth ≤ near ∧ (store.unroll (depth + 1) v).entries? = some seen ∧
      ∀ name, Entries.lookupName seen name =
        (Entries.lookupName record name).map (store.unroll near) := by
  have unrolled : ∀ near, ∃ shown, store.unroll near = Value.mapLeaves shown ∧ ∀ record name,
      Entries.lookupName (Value.mapLeavesOfPairs shown record) name =
        (Entries.lookupName record name).map (store.unroll near) := by
    intro near
    obtain ⟨shown, shows, unrolls, -⟩ := store.exists_unroll near
    have same : store.unroll near = Value.mapLeaves shown := funext unrolls
    exact ⟨shown, same, fun record name => same ▸ shows.lookupName record name⟩
  cases v with
  | record id =>
      cases isMap
      obtain ⟨shown, same, found⟩ := unrolled depth
      refine ⟨depth, _, Nat.le_refl depth, ?_, found _⟩
      rw [unroll, Value.mapLeaves_of_isLeaf _ rfl]
      exact congrArg (fun unrolls => (unrolls (Value.map (store.recordOf id))).entries?) same
  | map es | scope es =>
      cases isMap
      obtain ⟨shown, same, found⟩ := unrolled (depth + 1)
      refine ⟨depth + 1, _, Nat.le_succ depth, ?_, found _⟩
      rw [same]
      rfl
  | _ => cases isMap

/-- What has no entries has none when it is unrolled. -/
theorem entries?_unroll_of_none (depth : Nat) (other : (store.view v).entries? = none) :
    (store.unroll depth v).entries? = none := by
  obtain ⟨shown, shows, unrolls, -⟩ := store.exists_unroll depth
  rw [unrolls]
  cases v with
  | record | map | scope => cases other
  | null | bool | int | float | str | broken | layer | highlighted | console =>
      rw [shows.mapLeaves_of_ne]
      · rfl
      · rfl
      · exact fun _ => nofun
  | _ => rfl

/-- The items of a list are unrolled one by one. -/
theorem unroll_list (store : LayerStore) (depth : Nat) (items : List Value) :
    store.unroll depth (.list items) = .list (items.map (store.unroll depth)) := by
  obtain ⟨shown, -, unrolls, -⟩ := store.exists_unroll depth
  rw [unrolls, Value.mapLeaves_list]
  exact congrArg Value.list (List.map_congr_left fun item _ => (unrolls item).symm)

end LayerStore

end MapStyle
