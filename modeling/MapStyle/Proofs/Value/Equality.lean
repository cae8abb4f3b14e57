import MapStyle.Proofs.Value.Parts
import MapStyle.Value.Map

/-!
# Equality of a value with itself

Equality inside containers is reflexive, a double without a value included, since it is known there
by its payload.  Only a double that stands on its own can differ from itself.

* `Value.same_self` is that statement, by induction over the parts of a value.
* `Value.equals_self` takes it to values on their own.
-/

namespace MapStyle.Value

/-- A map is within another if the same stands there for each of its entries. -/
theorem sameWithin_of_each {es fs : Entries}
    (each : ∀ e ∈ es, ∃ f ∈ fs, e.1.same f.1 = true ∧ e.2.same f.2 = true) :
    sameWithin es fs = true := by
  induction es with
  | nil => rfl
  | cons e es ih =>
      obtain ⟨f, among, key, value⟩ := each e List.mem_cons_self
      have found : (fs.any fun f => same e.1 f.1 && same e.2 f.2) = true :=
        List.any_eq_true.mpr ⟨f, among, Bool.and_eq_true_iff.mpr ⟨key, value⟩⟩
      rw [sameWithin, found, ih fun e' member => each e' (List.mem_cons_of_mem e member)]
      rfl

theorem sameItems_self {items : List Value} (each : ∀ v ∈ items, v.same v = true) :
    sameItems items items = true := by
  induction items with
  | nil => rfl
  | cons v items ih =>
      rw [sameItems, each v List.mem_cons_self,
        ih fun w member => each w (List.mem_cons_of_mem v member)]
      rfl

/-- Inside a container every value is the same as itself. -/
theorem same_self (v : Value) : v.same v = true := by
  induction v using children_induction with
  | step v ih =>
      have entries : ∀ es : Entries, (∀ w ∈ es.flatMap fun e => [e.1, e.2], w.same w = true) →
          sameWithin es es = true := fun es each =>
        sameWithin_of_each fun e member => ⟨e, member, forall_mem_pairs.mp each e member⟩
      cases v
      case list items | tuple items => exact sameItems_self ih
      case map es | scope es | varBindings es => simp [same, entries?, entries es ih]
      case float x => simp [same, sameScalar, Binary64.same_self]
      all_goals simp_all [same, sameScalar, wholeNumber?, children]

/-- On its own every value that is no double equals itself. -/
theorem equals_self {v : Value} (other : ∀ x, v ≠ .float x) : v.equals v = true := by
  unfold equals
  split
  · exact (other _ rfl).elim
  · exact same_self v

end MapStyle.Value
