import MapStyle.Value.Equality

/-!
# Maps

A map is the list of its entries in the order in which their keys were first written.  Two keys are
the same if they are equal values.

* `Entries.put` sets a key in place and appends a new one.
* `Entries.lookupName_putName_self` and `Entries.lookupName_putName_of_ne` say what a write under a
  name does to the view by name.
-/

namespace MapStyle

namespace Entries

/-- The value under a key. -/
def lookup : Entries → Value → Option Value
  | [], _ => none
  | (k, v) :: rest, key => if k.same key then some v else lookup rest key

def lookupName (entries : Entries) (name : String) : Option Value := lookup entries (.str name)

/-- Set a key: in place if it is there, at the end otherwise. -/
def put : Entries → Value → Value → Entries
  | [], key, value => [(key, value)]
  | (k, v) :: rest, key, value =>
    if k.same key then (k, value) :: rest else (k, v) :: put rest key value

def putName (entries : Entries) (name : String) (value : Value) : Entries :=
  put entries (.str name) value

def remove : Entries → Value → Entries
  | [], _ => []
  | (k, v) :: rest, key => if k.same key then rest else (k, v) :: remove rest key

/-- The map made by writing entries one after the other. -/
def ofWrites (writes : List (Value × Value)) : Entries :=
  writes.foldl (fun entries w => put entries w.1 w.2) []

def keys (entries : Entries) : List Value := entries.map Prod.fst

/-! ## What a write does -/

/-- The value just written under a name is found there. -/
theorem lookupName_putName_self (entries : Entries) (name : String) (value : Value) :
    lookupName (putName entries name value) name = some value := by
  unfold lookupName putName
  induction entries with
  | nil => simp [put, lookup]
  | cons e rest ih =>
    obtain ⟨k, v⟩ := e
    by_cases h : k.same (.str name)
    · simp [put, lookup, h]
    · simp [put, lookup, h, ih]

/-- A write under one name leaves every other name as it is. -/
theorem lookupName_putName_of_ne (entries : Entries) {name other : String} (value : Value)
    (h : other ≠ name) :
    lookupName (putName entries name value) other = lookupName entries other := by
  unfold lookupName putName
  induction entries with
  | nil => simp [put, lookup, Ne.symm h]
  | cons e rest ih =>
    obtain ⟨k, v⟩ := e
    by_cases hk : k.same (.str name)
    · have := Value.eq_str_of_same hk
      subst this
      simp [put, lookup, Ne.symm h]
    · by_cases ho : k.same (.str other)
      · simp [put, lookup, hk, ho]
      · simp [put, lookup, hk, ho, ih]

end Entries

end MapStyle
