import MapStyle.Value.Map

/-!
# Maps after a change to each entry

The keys of a map decide what a lookup finds and where a write goes, so both commute with any change
to the values under the keys.
-/

namespace MapStyle.Entries

/-- A change to the value under each key. -/
def mapValues (f : Value → Value) (entries : Entries) : Entries :=
  entries.map fun e => (e.1, f e.2)

variable {f : Value → Value} {entries : Entries} {key v : Value}

theorem mem_of_lookup (found : entries.lookup key = some v) : ∃ k, (k, v) ∈ entries := by
  induction entries with
  | nil => cases found
  | cons e rest ih =>
      obtain ⟨k, w⟩ := e
      rw [lookup] at found
      split at found
      · cases found
        exact ⟨k, List.mem_cons_self⟩
      · obtain ⟨k', member⟩ := ih found
        exact ⟨k', List.mem_cons_of_mem _ member⟩

theorem lookup_mapValues : lookup (mapValues f entries) key = (lookup entries key).map f := by
  induction entries with
  | nil => rfl
  | cons e rest ih =>
      obtain ⟨k, w⟩ := e
      simp only [mapValues, List.map_cons, lookup] at ih ⊢
      split
      · rfl
      · exact ih

theorem put_mapValues : put (mapValues f entries) key (f v) = mapValues f (put entries key v) := by
  induction entries with
  | nil => rfl
  | cons e rest ih =>
      obtain ⟨k, w⟩ := e
      simp only [mapValues, List.map_cons, put] at ih ⊢
      split
      · rfl
      · rw [List.map_cons, ih]

theorem keys_mapValues : (mapValues f entries).map Prod.fst = entries.map Prod.fst := by
  rw [mapValues, List.map_map]
  rfl

theorem isEmpty_mapValues : (mapValues f entries).isEmpty = entries.isEmpty := by
  rw [mapValues, List.isEmpty_map]

/-- Writing changed values makes the changed map. -/
theorem ofWrites_mapValues (writes : List (Value × Value)) :
    ofWrites (mapValues f writes) = mapValues f (ofWrites writes) := by
  suffices after : ∀ start : Entries,
      (mapValues f writes).foldl (fun es w => put es w.1 w.2) (mapValues f start) =
        mapValues f (writes.foldl (fun es w => put es w.1 w.2) start) from after []
  induction writes with
  | nil => exact fun _ => rfl
  | cons w writes ih =>
      intro start
      rw [List.foldl_cons, ← ih, ← put_mapValues]
      rfl

/-- What stands in a map was written into it, or was there before. -/
theorem mem_put {e : Value × Value} (member : e ∈ put entries key v) :
    e ∈ entries ∨ e.2 = v ∧ (e.1 = key ∨ ∃ w, (e.1, w) ∈ entries) := by
  induction entries with
  | nil =>
      cases List.mem_singleton.mp member
      exact Or.inr ⟨rfl, Or.inl rfl⟩
  | cons e' rest ih =>
      obtain ⟨k, w⟩ := e'
      rw [put] at member
      split at member
      · rcases List.mem_cons.mp member with rfl | rest
        · exact Or.inr ⟨rfl, Or.inr ⟨w, List.mem_cons_self⟩⟩
        · exact Or.inl (List.mem_cons_of_mem _ rest)
      · rcases List.mem_cons.mp member with rfl | deeper
        · exact Or.inl List.mem_cons_self
        · rcases ih deeper with old | ⟨new, key | ⟨u, old⟩⟩
          · exact Or.inl (List.mem_cons_of_mem _ old)
          · exact Or.inr ⟨new, Or.inl key⟩
          · exact Or.inr ⟨new, Or.inr ⟨u, List.mem_cons_of_mem _ old⟩⟩

/-- A property of keys and one of values that hold of all writes hold in the map. -/
theorem of_mem_ofWrites (onKey onValue : Value → Prop) {writes : List (Value × Value)}
    (each : ∀ w ∈ writes, onKey w.1 ∧ onValue w.2) {e : Value × Value}
    (member : e ∈ ofWrites writes) : onKey e.1 ∧ onValue e.2 := by
  suffices after : ∀ start : Entries, (∀ e ∈ start, onKey e.1 ∧ onValue e.2) →
      ∀ e ∈ writes.foldl (fun es w => put es w.1 w.2) start, onKey e.1 ∧ onValue e.2 from
    after [] (fun _ absurd => (List.not_mem_nil absurd).elim) e member
  clear member
  induction writes with
  | nil => exact fun _ holds => holds
  | cons w writes ih =>
      intro start holds
      refine ih (fun w' member => each w' (List.mem_cons_of_mem _ member)) _ ?_
      intro e member
      have write := each w List.mem_cons_self
      rcases mem_put member with old | ⟨new, key | ⟨u, old⟩⟩
      · exact holds e old
      · exact ⟨key ▸ write.1, new ▸ write.2⟩
      · exact ⟨(holds _ old).1, new ▸ write.2⟩

end MapStyle.Entries
