import Mathlib.Data.List.Induction
import Mathlib.Data.List.Nodup
import MapStyle.Proofs.Value.Equality

/-!
# Maps by name

A map all of whose keys are texts is known by the names in it, in their order, and by what stands
under each of them.

* `Entries.HasNames.putName` says where a write under a name leaves the names.
* `Entries.eq_of_lookupName`: the same names in the same order with the same values make one map.
* `Entries.same_of_lookupName`: without regard to order they make equal maps.
* `Entries.lookupName_perm` and `Entries.lookupName_filter`: neither the order of entries with
  different keys nor other entries make a difference to what is found.
* `Entries.ofWrites_eq_self`: what is written under different keys stays as it is.
-/

namespace MapStyle

/-- What is left of texts without repetitions, each where it came first, is without repetitions. -/
theorem nodup_eraseDups (names : List String) : names.eraseDups.Nodup := by
  induction names using List.reverseRecOn with
  | nil => exact .nil
  | append_singleton names name ih =>
      rw [List.eraseDups_append]
      by_cases old : name ∈ names
      · have none : [name].removeAll names = [] := by simp [List.removeAll, old]
        rw [none, List.eraseDups_nil, List.append_nil]
        exact ih
      · have one : [name].removeAll names = [name] := by simp [List.removeAll, old]
        have single : [name].eraseDups = [name] := by rw [List.eraseDups_cons]; rfl
        rw [one, single]
        refine List.nodup_append.mpr ⟨ih, List.nodup_singleton name, ?_⟩
        rintro other among _ here rfl
        exact old (List.mem_singleton.mp here ▸ List.mem_eraseDups.mp among)

/-- One text more, at the end unless it came before. -/
theorem eraseDups_concat (names : List String) (name : String) :
    (names ++ [name]).eraseDups =
      if name ∈ names then names.eraseDups else names.eraseDups ++ [name] := by
  rw [List.eraseDups_append]
  split
  · next old =>
      have none : [name].removeAll names = [] := by simp [List.removeAll, old]
      rw [none, List.eraseDups_nil, List.append_nil]
  · next new =>
      have one : [name].removeAll names = [name] := by simp [List.removeAll, new]
      rw [one, List.eraseDups_cons]
      rfl

namespace Entries

variable {es fs : Entries} {names others : List String} {name : String}

/-- The keys of a map are these names, in this order. -/
def HasNames (es : Entries) (names : List String) : Prop := es.keys = names.map .str

theorem HasNames.cons_inv {e : Value × Value} (has : HasNames (e :: es) names) :
    ∃ name rest, names = name :: rest ∧ e.1 = .str name ∧ HasNames es rest := by
  unfold HasNames keys at has
  cases names with
  | nil => cases has
  | cons name rest =>
      rw [List.map_cons, List.map_cons, List.cons.injEq] at has
      exact ⟨name, rest, rfl, has.1, has.2⟩

theorem HasNames.exists_key {e : Value × Value} (has : HasNames es names) (member : e ∈ es) :
    ∃ name, e.1 = .str name := by
  have key : e.1 ∈ es.keys := List.mem_map_of_mem member
  rw [has] at key
  obtain ⟨name, -, isKey⟩ := List.mem_map.mp key
  exact ⟨name, isKey.symm⟩

theorem lookupName_cons (key : String) (v : Value) (rest : Entries) :
    lookupName ((.str key, v) :: rest) name =
      if key = name then some v else lookupName rest name := by
  unfold lookupName
  rw [lookup]
  by_cases same : key = name <;> simp [same]

theorem putName_cons (key : String) (v w : Value) (rest : Entries) :
    putName ((.str key, v) :: rest) name w =
      if key = name then (.str key, w) :: rest else (.str key, v) :: putName rest name w := by
  unfold putName
  rw [put]
  by_cases same : key = name <;> simp [same]

/-- What is found under a name stands there. -/
theorem mem_of_lookupName {v : Value} (found : lookupName es name = some v) :
    (.str name, v) ∈ es := by
  unfold lookupName at found
  induction es with
  | nil => cases found
  | cons e es ih =>
      obtain ⟨key, w⟩ := e
      rw [lookup] at found
      split at found
      · next same =>
          cases found
          rw [Value.eq_str_of_same same]
          exact List.mem_cons_self
      · exact List.mem_cons_of_mem _ (ih found)

/-- A write under a name leaves the names as they are if it is among them, and puts it at their end
otherwise. -/
theorem HasNames.putName (has : HasNames es names) (name : String) (v : Value) :
    HasNames (putName es name v) (if name ∈ names then names else names ++ [name]) := by
  induction es generalizing names with
  | nil =>
      obtain rfl : names = [] := List.map_eq_nil_iff.mp has.symm
      rfl
  | cons e es ih =>
      obtain ⟨key, w⟩ := e
      obtain ⟨first, rest, rfl, isName, hasRest⟩ := has.cons_inv
      dsimp only at isName
      subst isName
      have after := ih hasRest
      rw [putName_cons]
      by_cases same : first = name
      · rw [if_pos same, if_pos (by simp [same])]
        exact has
      · rw [if_neg same]
        have head : ∀ more : List String, HasNames (Entries.putName es name v) more →
            HasNames ((.str first, w) :: Entries.putName es name v) (first :: more) :=
          fun more others => congrArg (Value.str first :: ·) others
        by_cases old : name ∈ rest
        · rw [if_pos (List.mem_cons_of_mem _ old)]
          rw [if_pos old] at after
          exact head rest after
        · rw [if_neg (by simp [old, Ne.symm same])]
          rw [if_neg old] at after
          exact head (rest ++ [name]) after

/-- There is a value under the names of a map, and under no other. -/
theorem HasNames.isSome_iff (has : HasNames es names) :
    (lookupName es name).isSome = true ↔ name ∈ names := by
  induction es generalizing names with
  | nil =>
      obtain rfl : names = [] := List.map_eq_nil_iff.mp has.symm
      simp [lookupName, lookup]
  | cons e es ih =>
      obtain ⟨key, w⟩ := e
      obtain ⟨first, rest, rfl, isName, hasRest⟩ := has.cons_inv
      dsimp only at isName
      subst isName
      rw [lookupName_cons]
      by_cases same : first = name
      · simp [same]
      · rw [if_neg same, ih hasRest, List.mem_cons]
        simp [Ne.symm same]

/-- What stands in a map stands under its name, if no name is there twice. -/
theorem HasNames.lookupName_of_mem (has : HasNames es names) (nodup : names.Nodup)
    {e : Value × Value} (member : e ∈ es) :
    ∃ name ∈ names, e.1 = .str name ∧ lookupName es name = some e.2 := by
  induction es generalizing names with
  | nil => exact (List.not_mem_nil member).elim
  | cons e' es ih =>
      obtain ⟨key, w⟩ := e'
      obtain ⟨first, rest, rfl, isName, hasRest⟩ := has.cons_inv
      dsimp only at isName
      subst isName
      rcases List.mem_cons.mp member with rfl | deeper
      · exact ⟨first, List.mem_cons_self, rfl, by rw [lookupName_cons, if_pos rfl]⟩
      · obtain ⟨name, among, isKey, found⟩ := ih hasRest (List.nodup_cons.mp nodup).2 deeper
        have other : first ≠ name := fun same => (List.nodup_cons.mp nodup).1 (same ▸ among)
        refine ⟨name, List.mem_cons_of_mem _ among, isKey, ?_⟩
        rw [lookupName_cons, if_neg other, found]

/-- Maps in which there are equal values under each name are equal, whatever the order. -/
theorem same_of_lookupName (has : HasNames es names) (has' : HasNames fs others)
    (nodup : names.Nodup) (nodup' : others.Nodup)
    (present : ∀ name, (lookupName es name).isSome = (lookupName fs name).isSome)
    (each : ∀ name v w, lookupName es name = some v → lookupName fs name = some w →
      v.same w = true) : (Value.map es).same (.map fs) = true := by
  have length : es.length = fs.length := by
    have perm : names.Perm others := (List.perm_ext_iff_of_nodup nodup nodup').mpr fun name => by
      rw [← has.isSome_iff, ← has'.isSome_iff, present]
    have sizes := perm.length_eq
    have left := congrArg List.length has
    have right := congrArg List.length has'
    simp only [keys, List.length_map] at left right
    omega
  have within : Value.sameWithin es fs = true := by
    refine Value.sameWithin_of_each fun e member => ?_
    obtain ⟨name, -, isKey, found⟩ := has.lookupName_of_mem nodup member
    obtain ⟨w, found'⟩ := Option.isSome_iff_exists.mp
      ((present name).symm.trans (congrArg Option.isSome found))
    refine ⟨(.str name, w), mem_of_lookupName found', ?_, each name e.2 w found found'⟩
    rw [isKey]
    exact Value.same_self _
  simp [Value.same, Value.entries?, length, within]

/-- With distinct keys, what is found under a name is what stands there. -/
theorem lookupName_eq_some_iff {v : Value} (distinct : es.keys.Nodup) :
    lookupName es name = some v ↔ (.str name, v) ∈ es := by
  refine ⟨mem_of_lookupName, fun member => ?_⟩
  unfold lookupName
  induction es with
  | nil => exact (List.not_mem_nil member).elim
  | cons e rest ih =>
      obtain ⟨k, w⟩ := e
      obtain ⟨isNew, distinct⟩ := List.nodup_cons.mp distinct
      rcases List.mem_cons.mp member with first | later
      · cases first
        rw [lookup, if_pos (by rw [Value.same_str, beq_self_eq_true])]
      · have other : ¬ k.same (.str name) = true := fun same =>
          isNew (List.mem_map.mpr ⟨_, later, (Value.eq_str_of_same same).symm⟩)
        rw [lookup, if_neg other, ih distinct later]

/-- The order of entries with distinct keys makes no difference to what is found. -/
theorem lookupName_perm (distinct : es.keys.Nodup) (perm : es.Perm fs) :
    lookupName es name = lookupName fs name := by
  have distinct' : fs.keys.Nodup := (perm.map Prod.fst).nodup distinct
  refine Option.ext fun v => ?_
  rw [lookupName_eq_some_iff distinct, lookupName_eq_some_iff distinct', perm.mem_iff]

/-- Without other entries one finds the same under a name. -/
theorem lookupName_filter {keep : Value × Value → Bool}
    (kept : ∀ e ∈ es, e.1 = .str name → keep e = true) :
    lookupName (es.filter keep) name = lookupName es name := by
  unfold lookupName
  induction es with
  | nil => rfl
  | cons e rest ih =>
      obtain ⟨k, w⟩ := e
      have others := ih fun e member => kept e (List.mem_cons_of_mem _ member)
      by_cases same : k.same (.str name) = true
      · have here := kept (k, w) List.mem_cons_self (Value.eq_str_of_same same)
        rw [List.filter_cons_of_pos here, lookup, lookup, if_pos same, if_pos same]
      · rw [lookup, if_neg same, ← others]
        cases here : keep (k, w) with
        | false => rw [List.filter_cons_of_neg (by rw [here]; decide)]
        | true => rw [List.filter_cons_of_pos here, lookup, if_neg same]

/-- A write under a key that is not there goes to the end. -/
theorem put_of_new {key v : Value} (isNew : ∀ k ∈ es.keys, k.same key = false) :
    put es key v = es ++ [(key, v)] := by
  induction es with
  | nil => rfl
  | cons e es ih =>
      obtain ⟨k, w⟩ := e
      have other : k.same key = false := isNew k List.mem_cons_self
      have rest := ih fun k' member => isNew k' (List.mem_cons_of_mem k member)
      rw [put, other, rest]
      rfl

/-- Entries under keys of which no two are the same are a map as they are. -/
theorem ofWrites_eq_self (apart : es.keys.Pairwise fun k key => k.same key = false) :
    ofWrites es = es := by
  induction es using List.reverseRecOn with
  | nil => rfl
  | append_singleton es e ih =>
      rw [keys, List.map_append, List.pairwise_append] at apart
      obtain ⟨before, -, across⟩ := apart
      have earlier : es.foldl (fun entries w => put entries w.1 w.2) [] = es := ih before
      rw [ofWrites, List.foldl_append, earlier]
      exact put_of_new fun k member => across k member e.1 List.mem_cons_self

end Entries

end MapStyle
