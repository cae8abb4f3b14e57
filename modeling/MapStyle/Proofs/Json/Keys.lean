import Mathlib.Data.List.Nodup
import MapStyle.Proofs.Json.Kinds

/-!
# The keys of maps that are read

A later member of the same name is written over the earlier one, so no two entries of a map that is
read have the same key.

* `Document.nodup_keys_of_read` is the statement for a file.
-/

namespace MapStyle

variable {name : Value}

/-- A write under a text keeps the keys as they are, or puts a new one at the end. -/
theorem Entries.keys_put (entries : Entries) (isText : name.isText = true) (v : Value) :
    (put entries name v).keys = entries.keys ∨
      name ∉ entries.keys ∧ (put entries name v).keys = entries.keys ++ [name] := by
  unfold keys
  induction entries with
  | nil => exact Or.inr ⟨List.not_mem_nil, rfl⟩
  | cons e rest ih =>
      obtain ⟨k, w⟩ := e
      by_cases same : k.same name
      · left
        rw [put, if_pos same]
        rfl
      · have other : name ≠ k := by
          rintro rfl
          exact same (Value.same_self_of_isText isText)
        rw [put, if_neg same]
        rcases ih with kept | ⟨isNew, atEnd⟩
        · left
          rw [List.map_cons, List.map_cons, kept]
        · right
          rw [List.map_cons, List.map_cons, atEnd, List.mem_cons, not_or]
          exact ⟨⟨other, isNew⟩, rfl⟩

theorem Entries.nodup_keys_put {entries : Entries} (distinct : entries.keys.Nodup)
    (isText : name.isText = true) (v : Value) : (put entries name v).keys.Nodup := by
  rcases keys_put entries isText v with kept | ⟨isNew, atEnd⟩
  · rwa [kept]
  · rw [atEnd]
    exact List.nodup_append.mpr ⟨distinct, List.nodup_singleton _, by
      intro key old other new same
      rw [List.mem_singleton] at new
      exact isNew (new ▸ same ▸ old)⟩

namespace Json

/-- Members that are read over entries with distinct keys leave entries with distinct keys. -/
theorem nodup_keys_of_readMembers {fuel : Nat} {before entries : Entries} {chars rest : List Char}
    (distinct : before.keys.Nodup) (reads : readMembers fuel before chars = .ok (entries, rest)) :
    entries.keys.Nodup := by
  -- each member is written over what was read before it, so that grows along the members
  induction fuel generalizing before chars with
  | zero => cases reads
  | succ fuel ih =>
      rw [readMembers] at reads
      obtain ⟨⟨name, afterName⟩, -, reads⟩ := except_bind_eq_ok.mp reads
      obtain ⟨⟨value, afterValue⟩, -, reads⟩ := except_bind_eq_ok.mp reads
      have written := Entries.nodup_keys_put distinct (Value.isText_ofSymbols name) value
      dsimp only at reads
      split at reads
      · cases reads
        exact written
      · exact ih written reads
      · cases reads

/-- A map that is read has distinct keys. -/
theorem nodup_keys_of_readValue {fuel : Nat} {chars rest : List Char} {entries : Entries}
    (reads : readValue fuel chars = .ok (.map entries, rest)) : entries.keys.Nodup := by
  have none : (Entries.keys []).Nodup := List.nodup_nil
  rcases readValue_cases reads with leaf | ⟨_, same⟩ | ⟨_, same, rfl | ⟨fuel, inner, members⟩⟩
  · cases leaf
  · cases same
  · cases same
    exact none
  · cases same
    exact nodup_keys_of_readMembers none members

end Json

/-- A map in a file has distinct keys. -/
theorem Document.nodup_keys_of_read {files : FileSystem} {path : String} {entries : Entries}
    (reads : read? files path = .ok (.map entries)) : entries.keys.Nodup := by
  obtain ⟨_, _, _, readsValue⟩ := exists_readValue_of_read? reads
  exact Json.nodup_keys_of_readValue readsValue

end MapStyle
