import MapStyle.Proofs.Layer.Shown
import MapStyle.Proofs.Script.Acts
import MapStyle.Script.Construction

/-!
# Copies in a session

What an expression holds is copied when the expression is made, and again when it is forged.  A copy
has the shape of the value: only leaves are exchanged, and of these only the ones that are not known
by what they hold.

* `LayerStore.Copyable.of_children` says when there is a copy of what stands around other values,
  and `LayerStore.Copyable.after_copy` that there still is one after another copy.
* `Value.IsCopyOf` relates a copy to what it was made from.
* `Act.exists_copies` makes two copies in a row, and `Act.isCopyOf_of_copies` says what the second
  one is.
-/

namespace MapStyle

/-! ## What can be copied -/

namespace LayerStore.Copyable

variable {store : LayerStore} {v : Value}

/-- What stands around values that can be copied can be copied. -/
theorem of_children (inner : v.isLeaf = false) (kind : v.isUnique = false)
    (each : ∀ u ∈ v.children, store.Copyable u) : store.Copyable v := by
  refine ⟨fun p part => ?_, fun id member => ?_⟩
  · rcases Value.mem_parts_iff.mp part with rfl | ⟨u, child, deeper⟩
    · exact kind
    · exact (each u child).1 p deeper
  · obtain ⟨u, child, inside⟩ := exists_child_of_layersWithin inner member
    exact (each u child).2 id inside

/-- A list of values that can be copied can be copied. -/
theorem list {vs : List Value} (each : ∀ u ∈ vs, store.Copyable u) : store.Copyable (.list vs) :=
  of_children rfl rfl each

/-- What has no layers within it can be copied if nothing in it is of a kind that cannot be. -/
theorem of_parts (free : v.layersWithin = []) (each : ∀ p ∈ v.parts, p.isUnique = false) :
    store.Copyable v := by
  refine ⟨each, fun id member => (layersWithin_induction (motive := fun _ => False) (fun id found => ?_)
    (fun _ absurd => absurd.elim) id member).elim⟩
  rw [free] at found
  cases found

theorem of_isStructural (store : LayerStore) (structural : v.isStructural = true) :
    store.Copyable v := by
  refine ⟨fun p part => ?_, fun id member => ?_⟩
  · have kind := List.all_eq_true.mp structural p part
    cases p <;> first | rfl | cases kind
  · rw [store.layersWithin_of_isStructural structural] at member
    cases member

/-- With a value, what it stands around can be copied. -/
theorem child {u : Value} (copyable : store.Copyable v) (child : u ∈ v.children) :
    store.Copyable u :=
  ⟨fun p part => copyable.1 p (Value.mem_parts_iff.mpr (Or.inr ⟨u, child, part⟩)),
    fun id member => copyable.2 id (mem_layersWithin_of_child child member)⟩

/-- What can be copied can be copied after another value was. -/
theorem after_copy {u : Value} {mark : Nat} {copied : Copied} (copyable : store.Copyable u)
    (copies : store.copy mark v = .ok copied) : copied.store.Copyable u := by
  obtain ⟨-, layers, -, copyableOther⟩ := copy_eq_ok copies
  rw [layers]
  -- What is come across from the value is come across as before, or it belongs to the copy.
  have reached : ∀ id ∈ layersWithin (store ++ store.copiedRecords mark v) u,
      id ∈ store.layersWithin u ∨ store.length ≤ id := by
    refine layersWithin_induction (fun id direct => Or.inl (layersWithin_of_mem direct)) ?_
    intro id before next found
    rcases Nat.lt_or_ge id store.length with known | isNew
    · rw [recordLayers, recordOf_append _ known] at found
      exact Or.inl (closed_layersWithin store u id (before.resolve_right (Nat.not_le.mpr known))
        next found)
    · exact Or.inr (isNew_of_record isNew found)
  refine ⟨copyable.1, fun id member p part => ?_⟩
  rcases Nat.lt_or_ge id store.length with known | isNew
  · rw [recordOf_append _ known] at part
    exact copyable.2 id ((reached id member).resolve_right (Nat.not_le.mpr known)) p part
  · rcases recordOf_copy mark v isNew with ⟨old, inside, same⟩ | none
    · rw [same] at part
      exact isUnique_of_copied (copyableOther.2 old inside) part
    · rw [none] at part
      cases List.mem_singleton.mp part
      rfl

/-- As an operand, what can be copied can be copied. -/
theorem asOperand (copyable : store.Copyable v) : store.Copyable v.asOperand := by
  cases v with
  | expression array => exact copyable.child List.mem_cons_self
  | _ => exact copyable

end LayerStore.Copyable

/-- A copy exchanges leaves for others of their kinds. -/
theorem LayerStore.keepsKinds_exchange (store : LayerStore) (mark : Nat) (v : Value) :
    KeepsKinds (store.exchange mark v) where
  text {t} isText := by cases t <;> first | rfl | cases isText
  kind {q} _ := by cases q <;> rfl

/-! ## What a copy is -/

namespace Value

/-- A value is a copy of another: it has other leaves, of the same kinds, in the place of those that
are not known by what they hold, and is otherwise the same. -/
def IsCopyOf (a v : Value) : Prop :=
  ∃ each : Value → Value, KeepsKinds each ∧
    (∀ p : Value, p.isStructural = true → p.mapLeaves each = p) ∧ a = v.mapLeaves each

namespace IsCopyOf

variable {a b v : Value}

theorem refl (v : Value) : v.IsCopyOf v :=
  have fixed : ∀ p : Value, p.mapLeaves id = p := fun _ => mapLeaves_eq_self fun _ _ _ => rfl
  ⟨id, ⟨fun _ => rfl, fun _ => rfl⟩, fun p _ => fixed p, (fixed v).symm⟩

/-- A copy of a copy is a copy. -/
theorem trans (next : b.IsCopyOf a) (first : a.IsCopyOf v) : b.IsCopyOf v := by
  obtain ⟨f, kinds, keeps, rfl⟩ := first
  obtain ⟨g, kinds', keeps', rfl⟩ := next
  refine ⟨fun q => (f q).mapLeaves g, kinds.mapLeaves kinds', fun p structural => ?_,
    mapLeaves_mapLeaves f g v⟩
  rw [← mapLeaves_mapLeaves, keeps p structural, keeps' p structural]

theorem eq_of_isStructural (copied : a.IsCopyOf v) (structural : v.isStructural = true) : a = v := by
  obtain ⟨each, -, keeps, rfl⟩ := copied
  exact keeps v structural

/-- A copy of a list is a list of copies. -/
theorem items {items : List Value} (copied : a.IsCopyOf (.list items)) :
    ∃ copies, a = .list copies ∧ List.Forall₂ (fun item c => c.IsCopyOf item) items copies := by
  obtain ⟨each, kinds, keeps, rfl⟩ := copied
  refine ⟨items.map (mapLeaves each), mapLeaves_list each items, ?_⟩
  exact List.forall₂_map_right_iff.mpr (List.forall₂_same.mpr fun item _ => ⟨each, kinds, keeps, rfl⟩)

end IsCopyOf

end Value

/-! ## Copies in a row -/

namespace Script

/-- What can be copied in a session can be copied in a later one. -/
def Session.StaysCopyable (s s' : Session) : Prop :=
  ∀ v, s.layers.Copyable v → s'.layers.Copyable v

theorem Session.StaysCopyable.trans {s s' s'' : Session} (first : s.StaysCopyable s')
    (next : s'.StaysCopyable s'') : s.StaysCopyable s'' := fun v before => next v (first v before)

namespace Act

variable {s s' : Session} {v a : Value}

/-- What is made by copying is a copy. -/
theorem isCopyOf_of_copy (copies : exec (copy v) s = (.ok a, s')) : a.IsCopyOf v := by
  rw [exec_copy] at copies
  split at copies
  · next copied found =>
      cases copies
      obtain ⟨value, -, -, -⟩ := LayerStore.copy_eq_ok found
      exact ⟨_, LayerStore.keepsKinds_exchange _ _ _,
        fun p => LayerStore.mapLeaves_exchange_of_isStructural _ _, value⟩
  · cases copies

theorem isCopyOf_of_copies (copies : exec (copy v >>= copy) s = (.ok a, s')) : a.IsCopyOf v := by
  obtain ⟨first, s₁, copiesFirst, copiesSecond⟩ := bind_eq_ok.mp copies
  exact (isCopyOf_of_copy copiesSecond).trans (isCopyOf_of_copy copiesFirst)

/-- A copy can be copied. -/
theorem copyable_of_copy (copies : exec (copy v) s = (.ok a, s')) : s'.layers.Copyable a := by
  rw [exec_copy] at copies
  split at copies
  · next copied found =>
      cases copies
      obtain ⟨again, found'⟩ := LayerStore.exists_copy_of_copy found copied.nextMark
      exact (LayerStore.copy_eq_ok found').2.2.2
  · cases copies

/-- A copy takes nothing of what can be copied away. -/
theorem staysCopyable_of_copy (copies : exec (copy v) s = (.ok a, s')) : s.StaysCopyable s' := by
  rw [exec_copy] at copies
  split at copies
  · next copied found =>
      cases copies
      exact fun u copyable => copyable.after_copy found
  · cases copies

/-- There is a copy of what can be copied, and it can be copied in its turn. -/
theorem exists_copy_copyable (copyable : s.layers.Copyable v) : ∃ a s',
    exec (copy v) s = (.ok a, s') ∧ s'.layers.Copyable a ∧ s.StaysCopyable s' := by
  obtain ⟨copied, found⟩ := LayerStore.exists_copy copyable s.nextMark
  have copies : exec (copy v) s = (.ok copied.value,
      { s with layers := copied.store, nextMark := copied.nextMark }) := by
    rw [exec_copy, found]
  exact ⟨_, _, copies, copyable_of_copy copies, staysCopyable_of_copy copies⟩

/-- There are both copies of what can be copied. -/
theorem exists_copies (copyable : s.layers.Copyable v) :
    ∃ a s', exec (copy v >>= copy) s = (.ok a, s') := by
  obtain ⟨first, s₁, copies, copyableFirst, -⟩ := exists_copy_copyable copyable
  obtain ⟨a, s', again, -⟩ := exists_copy_copyable copyableFirst
  exact ⟨a, s', (exec_bind_of_ok copies copy).trans again⟩

/-- An expression that is made and forged leaves a copy of a copy of what it holds. -/
theorem exec_forge_made (e : Expression) (s : Session) :
    exec (makeExpression e >>= Act.forge) s = exec (copy e.forged >>= copy) s := by
  rw [exec_bind, makeExpression, exec_bind, exec_bind]
  rcases exec (copy e.forged) s with ⟨fault | c, s'⟩
  · rfl
  · rfl

end Act

end Script

end MapStyle
