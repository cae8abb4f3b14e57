import MapStyle.Proofs.Json.Data
import MapStyle.Proofs.Layer.Runs

/-!
# Records of plain data

Setters of sections and the setter of the filter forge an expression or a property value before they
store it; metadata and zooms are stored as they are.  So the record of a layer that is given data,
and expressions and property values around data, is data itself as long as none of the latter is
left in one of those three places, and only then it can be written as JSON, if no integer in it is
too long.

* `Written.isData_iff` says when a record is data, by what was last written to each place.
* `layer_record_isData` puts a new layer, calls of its setters and writing its record together.
-/

namespace MapStyle

namespace Value

/-- Data, or an expression or a property value around data. -/
def bringsData : Value → Bool
  | .expression inner | .property inner | .constant inner => inner.isData
  | v => v.isData

variable {v : Value}

theorem isStructural_of_bringsData (brings : v.bringsData = true) : v.isStructural = true := by
  have around : ∀ wrap : Value → Value, (∀ w, (wrap w).isStructuralKind = true) →
      (∀ w, (wrap w).children = [w]) → ∀ w, w.isData = true → (wrap w).isStructural = true := by
    intro wrap kind children w data
    refine isStructural_iff.mpr ⟨kind w, fun p child => ?_⟩
    rw [children, List.mem_singleton] at child
    exact child ▸ isStructural_of_isData data
  cases v with
  | expression inner => exact around .expression (fun _ => rfl) (fun _ => rfl) inner brings
  | property inner => exact around .property (fun _ => rfl) (fun _ => rfl) inner brings
  | constant inner => exact around .constant (fun _ => rfl) (fun _ => rfl) inner brings
  | _ => exact isStructural_of_isData brings

end Value

namespace Layer

variable {initial : Entries} {names : List String} {writes : Writes} {record : Entries}

/-- What is left at the top after writes is data. -/
def EndsInData (writes : Writes) : Prop :=
  ∀ key v, lastTo (.atTop key) writes = some v → v.isData = true

theorem mem_of_lastTo {target : Target} {v : Value} (last : lastTo target writes = some v) :
    (target, v) ∈ writes := by
  obtain ⟨⟨place, w⟩, found, rfl⟩ := Option.map_eq_some_iff.mp last
  obtain rfl : place = target := by simpa using List.find?_some found
  exact List.mem_reverse.mp (List.mem_of_find?_eq_some found)

namespace Written

/-- A property that maps have if their values have it holds of a record if it holds of what the
layer was made of and of what was last written to each place. -/
theorem holds {P : Value → Prop} (written : Written initial names writes record)
    (origin : Origin initial names)
    (maps : ∀ es names, Entries.HasNames es names → (∀ e ∈ es, P e.2) → P (.map es))
    (made : ∀ e ∈ initial, P e.2) (last : ∀ target v, lastTo target writes = some v → P v) :
    P (.map record) := by
  have sections : ∀ sect : Section, P (.map (sectionOf record sect.name)) := by
    intro sect
    refine maps _ _ (written.sectionOrder sect) fun e member => ?_
    obtain ⟨key, -, -, found⟩ :=
      (written.sectionOrder sect).lookupName_of_mem (nodup_eraseDups _) member
    exact last (.inSection sect key) e.2 (written.last (.inSection sect key) ▸ found)
  refine maps _ _ written.order fun e member => ?_
  obtain ⟨key, v⟩ := e
  obtain ⟨name, -, -, found⟩ :=
    written.order.lookupName_of_mem (nodup_order origin writes) member
  by_cases reached : ∃ target : Target, target.topName = name
  · obtain ⟨target, rfl⟩ := reached
    cases target with
    | inSection sect key =>
        change Entries.lookupName record sect.name = some v at found
        rw [written.sections sect] at found
        split at found <;> cases found
        exact sections sect
    | atTop key => exact last (.atTop key) v (written.last (.atTop key) ▸ found)
  · rw [written.kept name fun target same => reached ⟨target, same⟩] at found
    exact made (.str name, v) (Entries.mem_of_lookupName found)

/-- The record of a layer made of data, into whose sections only data was written, is data if and
only if what is left at its top is. -/
theorem isData_iff (written : Written initial names writes record) (origin : Origin initial names)
    (made : ∀ e ∈ initial, e.2.isData = true)
    (sections : ∀ sect key v, lastTo (.inSection sect key) writes = some v → v.isData = true) :
    (Value.map record).isData = true ↔ EndsInData writes := by
  constructor
  · intro data key v last
    rw [← written.last (.atTop key)] at last
    exact (Value.isData_map.mp data _ (Entries.mem_of_lookupName last)).2
  · intro top
    refine written.holds origin (P := fun v => v.isData = true) ?_ made fun target v last => ?_
    · intro es names has each
      refine Value.isData_map.mpr fun e member => ⟨?_, each e member⟩
      obtain ⟨name, isKey⟩ := has.exists_key member
      rw [isKey]
      rfl
    · cases target with
      | inSection sect key => exact sections sect key v last
      | atTop key => exact top key v last

/-- The integers in a record are short if those in what the layer was made of and in what was last
written to each place are. -/
theorem hasShortIntegers (written : Written initial names writes record)
    (origin : Origin initial names) (made : ∀ e ∈ initial, e.2.hasShortIntegers = true)
    (last : ∀ target v, lastTo target writes = some v → v.hasShortIntegers = true) :
    (Value.map record).hasShortIntegers = true := by
  refine written.holds origin (P := fun v => v.hasShortIntegers = true)
    (fun es names has each => ?_) made last
  refine Value.hasShortIntegers_iff.mpr
    ⟨rfl, Value.forall_mem_pairs.mpr fun e member => ⟨?_, each e member⟩⟩
  obtain ⟨name, isKey⟩ := has.exists_key member
  rw [isKey]
  rfl

/-- A record is known by what it holds if what it was made of and what was last written to each
place is. -/
theorem isStructural (written : Written initial names writes record) (origin : Origin initial names)
    (made : ∀ e ∈ initial, e.2.isStructural = true)
    (last : ∀ target v, lastTo target writes = some v → v.isStructural = true) :
    (Value.map record).isStructural = true := by
  refine written.holds origin (P := fun v => v.isStructural = true) (fun es names has each => ?_)
    made last
  refine Value.isStructural_map fun e member => ⟨?_, each e member⟩
  obtain ⟨name, isKey⟩ := has.exists_key member
  rw [isKey]
  rfl

end Written

/-- What holds of what a layer is made of holds of each value in its first record. -/
theorem forall_mem_madeOf {P : Value → Prop} {kind name source : Value} {sourceLayer : Option Value}
    (made : ∀ v ∈ [kind, name, source] ++ sourceLayer.toList, P v) :
    ∀ e ∈ madeOf kind name source sourceLayer, P e.2 := by
  intro e member
  simp only [madeOf, List.mem_append, List.mem_cons, List.mem_map, List.not_mem_nil,
    or_false] at member
  rcases member with (rfl | rfl | rfl) | ⟨v, among, rfl⟩
  · exact made name (by simp)
  · exact made kind (by simp)
  · exact made source (by simp)
  · exact made v (List.mem_append_right _ among)

end Layer

namespace Script

open Act Layer

variable {id : LayerId} {s : Session}

/-! ## What is stored -/

theorem isSteady_of_bringsData {v : Value} (brings : v.bringsData = true) :
    isSteady v = true := by
  cases v <;> first | rfl | exact Value.isStructural_of_isData brings

/-- A setter that forges stores data. -/
theorem SetterCall.isData_stored {call : SetterCall} (brings : call.value.bringsData = true)
    (forges : call.target.forges = true) : call.stored.isData = true := by
  unfold stored
  rw [forges]
  obtain ⟨field, key, value⟩ := call
  cases value <;> exact brings

theorem SetterCall.isStructural_stored {call : SetterCall} (brings : call.value.bringsData = true) :
    call.stored.isStructural = true := by
  cases forges : call.target.forges with
  | true => exact Value.isStructural_of_isData (isData_stored brings forges)
  | false =>
      unfold stored
      rw [forges]
      exact Value.isStructural_of_bringsData brings

/-- The integers in what a setter stores are among those in its value. -/
theorem SetterCall.hasShortIntegers_stored {call : SetterCall}
    (short : call.value.hasShortIntegers = true) : call.stored.hasShortIntegers = true := by
  unfold stored
  obtain ⟨field, key, value⟩ := call
  dsimp only at short ⊢
  split <;> exact short

/-- What was last written was stored by a call. -/
theorem exists_call_of_lastTo {calls : List SetterCall} {target : Target} {v : Value}
    (last : lastTo target (writesOf calls) = some v) :
    ∃ call ∈ calls, call.target = target ∧ call.stored = v := by
  obtain ⟨call, member, same⟩ := List.mem_map.mp (mem_of_lastTo last)
  cases same
  exact ⟨call, member, rfl, rfl⟩

/-- Calls whose values are data or are forged leave data at the top. -/
theorem endsInData_of_forges {calls : List SetterCall}
    (brings : ∀ call ∈ calls, call.value.bringsData = true)
    (forged : ∀ call ∈ calls, (call.value.isData || call.target.forges) = true) :
    EndsInData (writesOf calls) := by
  intro key v last
  obtain ⟨call, member, -, rfl⟩ := exists_call_of_lastTo last
  cases forges : call.target.forges with
  | true => exact SetterCall.isData_stored (brings call member) forges
  | false =>
      have data := forged call member
      rw [forges, Bool.or_false] at data
      rwa [SetterCall.stored, forges]

/-! ## Writing a record -/

/-- Ask for the JSON text of what a layer forges to. -/
def dumpLayer (id : LayerId) (indent : Int) : Act Value := do
  let record ← Act.forge (.layer id)
  (Function.tool .jsonText).run (Bound.map .value ⟨[some record, some (.int indent)], []⟩)

/-- The text is that of the map that the record is at that moment. -/
theorem exec_dumpLayer (known : id < s.layers.length)
    (structural : (Value.map (s.layers.recordOf id)).isStructural = true) (indent : Int) :
    exec (dumpLayer id indent) s =
      ((Json.writeText (.map (s.layers.recordOf id)) indent).map .str, s) := by
  have forges : exec (Act.forge (.layer id)) s = (.ok (.record id), s) := rfl
  rw [dumpLayer, exec_bind_of_ok forges, exec_jsonText, LayerStore.resolve_record known structural]

theorem exec_dumpLayer_of_room (known : id < s.layers.length)
    (structural : (Value.map (s.layers.recordOf id)).isStructural = true) {indent : Int}
    (room : Json.indentFault? indent = none) :
    let record := Value.map (s.layers.recordOf id)
    (record.isData = true ∧ record.hasShortIntegers = true →
      ∃ text, exec (dumpLayer id indent) s = (.ok (.str text), s)) ∧
    (¬ (record.isData = true ∧ record.hasShortIntegers = true) →
      ∃ problem, exec (dumpLayer id indent) s = (.error (.unserializable problem), s)) := by
  intro record
  rw [exec_dumpLayer known structural]
  constructor
  · intro writable
    obtain ⟨text, writes⟩ :=
      Json.exists_writeText_of_room (Json.writeProblem?_eq_none_iff.mpr writable) room
    exact ⟨text, by rw [writes]; rfl⟩
  · intro unwritable
    obtain ⟨problem, found⟩ := Option.ne_none_iff_exists'.mp fun none =>
      unwritable (Json.writeProblem?_eq_none_iff.mp none)
    exact ⟨problem, by rw [Json.writeText_of_problem found room]; rfl⟩

/-! ## New layers -/

/-- A new layer and calls of its setters.  A setter of a section or of the filter stores what an
expression or a property value forges to; all else is stored as it is.  If the layer is made of data
and its setters are given data, and expressions and property values around data, the record is data
unless one of the latter is left as the metadata or a zoom; there is JSON text for it, under every
indent below `2 ^ 63`, if and only if it is data without integers of too many digits, as it is if
none was given. -/
theorem layer_record_isData (kind name source : Value) (sourceLayer : Option Value) (s : Session) :
    let id := s.layers.length
    let recorded := sourceLayer.filter fun v => !(s.layers.view v).isFalsy
    ∃ s₁, exec ((Function.construct .layer).run (Bound.map .value
        ⟨[some kind, some name, some source, sourceLayer], []⟩)) s = (.ok (.layer id), s₁) ∧
      (∀ writes s₂, Calls id s₁ writes s₂ → ∀ call : SetterCall,
        exec (call.run id) s₂ =
          match exec (if call.target.forges && call.value.isForgeable then Act.forge call.value
            else pure call.value) s₂ with
          | (.ok v, s₃) => (.ok (.layer id), s₃.write id call.target v)
          | (.error fault, s₃) => (.error fault, s₃)) ∧
      ((∀ v ∈ [kind, name, source] ++ recorded.toList, v.isData = true) →
        ∀ calls : List SetterCall, (∀ call ∈ calls, call.value.bringsData = true) →
        ∃ s₂, exec (calls.mapM (SetterCall.run id)) s₁ = (.ok (calls.map fun _ => .layer id), s₂) ∧
          let record := Value.map (s₂.layers.recordOf id)
          ((∀ call ∈ calls, (call.value.isData || call.target.forges) = true) →
            record.isData = true) ∧
          (record.isData = true ↔ EndsInData (writesOf calls)) ∧
          ((∀ v ∈ [kind, name, source] ++ recorded.toList, v.hasShortIntegers = true) →
            (∀ call ∈ calls, call.value.hasShortIntegers = true) →
            record.hasShortIntegers = true) ∧
          ∀ indent : Int, indent < Nat.pow 2 63 →
            (record.isData = true ∧ record.hasShortIntegers = true →
              ∃ text, exec (dumpLayer id indent) s₂ = (.ok (.str text), s₂)) ∧
            (¬ (record.isData = true ∧ record.hasShortIntegers = true) → ∃ problem,
              exec (dumpLayer id indent) s₂ = (.error (.unserializable problem), s₂))) := by
  intro id recorded
  have origin := origin_madeOf kind name source recorded
  obtain ⟨owns, start⟩ := ownsSections_construct origin s
  refine ⟨_, exec_construct_layer kind name source sourceLayer s, ?_, ?_⟩
  · exact fun writes s₂ calls call => call.exec_run (calls.written origin owns start).1
  · intro made calls brings
    obtain ⟨s₂, answers, run⟩ := exec_mapM_run owns fun call member =>
      isSteady_of_bringsData (brings call member)
    obtain ⟨ownsAfter, written⟩ := run.written origin owns start
    have madeData := forall_mem_madeOf made
    have data := written.isData_iff origin madeData fun sect key v last => by
      obtain ⟨call, member, target, rfl⟩ := exists_call_of_lastTo last
      exact SetterCall.isData_stored (brings call member) (by rw [target]; rfl)
    -- Data or not, nothing in the record has an identity of its own, so it is written as it is.
    have structural : (Value.map (s₂.layers.recordOf id)).isStructural = true :=
      written.isStructural origin (fun e member => Value.isStructural_of_isData (madeData e member))
        fun target v last => by
          obtain ⟨call, member, -, rfl⟩ := exists_call_of_lastTo last
          exact SetterCall.isStructural_stored (brings call member)
    refine ⟨s₂, answers, fun forged => data.mpr (endsInData_of_forges brings forged), data, ?_,
      fun indent narrow =>
        exec_dumpLayer_of_room ownsAfter.known structural (Json.indentFault?_of_lt narrow)⟩
    intro madeShort short
    refine written.hasShortIntegers origin (forall_mem_madeOf madeShort) fun target v last => ?_
    obtain ⟨call, member, -, rfl⟩ := exists_call_of_lastTo last
    exact SetterCall.hasShortIntegers_stored (short call member)

/-- A layer with a color that is a property value, and with a zoom. -/
theorem layer_record_isData_color :
    let construct := (Function.construct .layer).run (Bound.map .value
      ⟨[some (.str "fill"), some (.str "a"), some (.str "s"), none], []⟩)
    let s₁ := (exec construct (.start ⟨"/", fun _ => .ok .empty, 80⟩)).2
    let calls : List SetterCall := [⟨.fillColor, "", .property (.str "red")⟩, ⟨.minZoom, "", .int 3⟩]
    let s₂ := (exec (calls.mapM (SetterCall.run 0)) s₁).2
    (Value.map (s₂.layers.recordOf 0)).isData = true ∧
      ∃ text, exec (dumpLayer 0 2) s₂ = (.ok (.str text), s₂) := by
  intro construct s₁ calls s₂
  obtain ⟨s, made, -, runs⟩ := layer_record_isData (.str "fill") (.str "a") (.str "s") none
    (.start ⟨"/", fun _ => .ok .empty, 80⟩)
  obtain rfl : s₁ = s := congrArg Prod.snd made
  obtain ⟨s', answers, data, -, short, texts⟩ := runs (by decide) calls (by decide)
  obtain rfl : s₂ = s' := congrArg Prod.snd answers
  have isData := data (by decide)
  exact ⟨isData, (texts 2 (by decide)).1 ⟨isData, short (by decide) (by decide)⟩⟩

/-- Metadata that is an expression stays one: it is not what it forges to that is stored, and there
is no JSON text for the record. -/
theorem layer_metadata_not_forged :
    let construct := (Function.construct .layer).run (Bound.map .value
      ⟨[some (.str "fill"), some (.str "a"), some (.str "s"), none], []⟩)
    let s₁ := (exec construct (.start ⟨"/", fun _ => .ok .empty, 80⟩)).2
    let array : Value := .list [.str "get", .str "x"]
    let call : SetterCall := ⟨.metadata, "", .expression array⟩
    let s₂ := (exec (call.run 0) s₁).2
    exec (Act.forge call.value) s₁ = (.ok array, s₁) ∧
      Entries.lookupName (s₂.layers.recordOf 0) "metadata" = some (.expression array) ∧
      exec (dumpLayer 0 2) s₂ =
        (.error (.unserializable (.unwritable "Expression")), s₂) :=
  ⟨rfl, rfl, rfl⟩

end Script

end MapStyle
