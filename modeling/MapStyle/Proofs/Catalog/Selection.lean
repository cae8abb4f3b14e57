import MapStyle.Catalog
import MapStyle.Proofs.Json.Writing

/-!
# What is selected from the catalog

A part of the catalog is all of it, a group or one example; asking for anything else is the user's
mistake.  Whatever is selected can be written as JSON.

* `Catalog.select_cases` says what a selection comes to.
* `Catalog.writeProblem?_of_select` says that it can be written.
-/

namespace MapStyle.Catalog

variable {group name : Option String} {v : Value} {fault : Fault}

/-- Every group that is asked for is one of the catalog. -/
theorem mem_groups_of_select? {selected : List (String × ExampleGroup)}
    (found : select? group = some selected) : ∀ known ∈ selected, known ∈ groups := by
  unfold select? at found
  split at found
  · cases found
    exact fun _ => id
  · obtain ⟨known, isGroup, rfl⟩ := Option.map_eq_some_iff.mp found
    exact List.forall_mem_singleton.mpr (List.mem_of_find?_eq_some isGroup)

/-- An example that is found is one of the catalog. -/
theorem mem_of_find? {selected : List (String × ExampleGroup)} {wanted found : String} {e : Example}
    (known : select? group = some selected) (isFound : find? selected wanted = some (found, e)) :
    ∃ among ∈ groups, (wanted, e) ∈ among.2 := by
  obtain ⟨among, member, hit⟩ := List.exists_of_findSome?_eq_some isFound
  obtain ⟨entry, inGroup, same⟩ := Option.map_eq_some_iff.mp hit
  have isWanted : entry.1 = wanted := by simpa using List.find?_some inGroup
  cases same
  exact ⟨among, mem_groups_of_select? known among member,
    isWanted ▸ List.mem_of_find?_eq_some inGroup⟩

/-- What a selection comes to: groups, one group, an example, or a problem of the user. -/
theorem select_cases (group name : Option String) :
    (∃ selected, (∀ known ∈ selected, known ∈ groups) ∧
      (select group name).result = .ok (forgeGroups selected)) ∨
    (∃ known ∈ groups, (select group name).result = .ok (forgeGroup known.2)) ∨
    (∃ known ∈ groups, ∃ entry ∈ known.2, (select group name).result = .ok entry.2.forge) ∨
    ∃ problem, (select group name).result = .error (.usage problem) := by
  unfold select
  split
  · exact Or.inr (Or.inr (Or.inr ⟨_, rfl⟩))
  · next selected known =>
      have among := mem_groups_of_select? known
      split
      · split
        · exact Or.inr (Or.inl ⟨_, among _ List.mem_cons_self, rfl⟩)
        · exact Or.inl ⟨selected, among, rfl⟩
      · split
        · exact Or.inr (Or.inr (Or.inr ⟨_, rfl⟩))
        · next isFound =>
            obtain ⟨group, isGroup, member⟩ := mem_of_find? known isFound
            exact Or.inr (Or.inr (Or.inl ⟨group, isGroup, _, member, rfl⟩))

/-- There is a selection, or the user made a mistake. -/
theorem select_ok_or_usage (group name : Option String) :
    (∃ v, (select group name).result = .ok v) ∨
      ∃ problem, (select group name).result = .error (.usage problem) := by
  rcases select_cases group name with ⟨_, -, same⟩ | ⟨_, -, same⟩ | ⟨_, -, _, -, same⟩ | wrong
  · exact Or.inl ⟨_, same⟩
  · exact Or.inl ⟨_, same⟩
  · exact Or.inl ⟨_, same⟩
  · exact Or.inr wrong

/-! ## Writing a selection -/

theorem writeProblem?_of_mem {known : String × ExampleGroup} (isGroup : known ∈ groups)
    {entry : String × Example} (member : entry ∈ known.2) :
    Json.writeProblem? entry.2.forge = none := by
  have all : ∀ known ∈ groups, ∀ entry ∈ known.2, Json.writeProblem? entry.2.forge = none := by
    decide
  exact all known isGroup entry member

/-- A map under names can be written if its values can. -/
theorem entriesProblem?_named {α : Type} (members : List (String × α)) (value : α → Value)
    (each : ∀ m ∈ members, Json.writeProblem? (value m.2) = none) :
    Json.entriesProblem? (members.map fun m => (.str m.1, value m.2)) = none := by
  induction members with
  | nil => rfl
  | cons m members ih =>
      rw [List.forall_mem_cons] at each
      rw [List.map_cons, Json.entriesProblem?, each.1, ih each.2]
      rfl

theorem writeProblem?_forgeGroup {known : String × ExampleGroup} (isGroup : known ∈ groups) :
    Json.writeProblem? (forgeGroup known.2) = none :=
  entriesProblem?_named _ _ fun _ member => writeProblem?_of_mem isGroup member

/-- Whatever is selected can be written. -/
theorem writeProblem?_of_select (selects : (select group name).result = .ok v) :
    Json.writeProblem? v = none := by
  rcases select_cases group name with ⟨selected, among, same⟩ | ⟨known, isGroup, same⟩ |
    ⟨known, isGroup, entry, member, same⟩ | ⟨problem, same⟩ <;> cases selects.symm.trans same
  · exact entriesProblem?_named _ _ fun known member => writeProblem?_forgeGroup (among known member)
  · exact writeProblem?_forgeGroup isGroup
  · exact writeProblem?_of_mem isGroup member

end MapStyle.Catalog
