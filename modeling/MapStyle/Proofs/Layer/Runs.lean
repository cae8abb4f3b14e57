import MapStyle.Proofs.Layer.Keeping
import MapStyle.Proofs.Layer.Targets
import MapStyle.Proofs.Script.Evaluation

/-!
# Runs of setters

What calls of setters make of the record of a layer.  Each call writes one value to one place, the
value as it is or what it forges to, and a call that cannot forge its value writes nothing.

* `SetterCall.exec_run` is one call: it does nothing to the layer but that write.
* `Calls` are any calls of setters of one layer, with anything between them that leaves the layer
  alone; `Calls.written` says what its record is then.
* `exec_layer_calls` puts a new layer and calls of its setters together.
-/

namespace MapStyle

/-- An expression or a property value: what a setter forges. -/
def Value.isForgeable : Value → Bool
  | .expression _ | .property _ | .constant _ => true
  | _ => false

namespace Script

open Act Layer

/-! ## Calls -/

/-- Where a setter writes, if it is given a key. -/
def LayerSetter.target (key : String) : LayerSetter → Target
  | .paint => .inSection .paint key
  | .layout => .inSection .layout key
  | .visibility => .inSection .layout "visibility"
  | .textField => .inSection .layout "text-field"
  | .textSize => .inSection .layout "text-size"
  | .fillColor => .inSection .paint "fill-color"
  | .fillOpacity => .inSection .paint "fill-opacity"
  | .fillOutlineColor => .inSection .paint "fill-outline-color"
  | .lineColor => .inSection .paint "line-color"
  | .lineWidth => .inSection .paint "line-width"
  | .circleColor => .inSection .paint "circle-color"
  | .circleRadius => .inSection .paint "circle-radius"
  | .metadata => .atTop .metadata
  | .minZoom => .atTop .minZoom
  | .maxZoom => .atTop .maxZoom
  | .filter => .atTop .filter

/-- A call of a setter with a value; the key counts only for the setters of any property. -/
structure SetterCall where
  field : LayerSetter
  key : String
  value : Value

namespace SetterCall

/-- The arguments of the call. -/
def args (call : SetterCall) : Arguments :=
  match call.field with
  | .paint | .layout => ⟨[some (.str call.key), some call.value], []⟩
  | _ => ⟨[some call.value], []⟩

/-- The call, as it is made for a layer. -/
def run (id : LayerId) (call : SetterCall) : Act Value :=
  runMethod (.setter call.field) (.layer id) (call.args.map .value)

/-- Where the call writes. -/
def target (call : SetterCall) : Target := call.field.target call.key

/-- What the call writes: the value, or what it forges to. -/
def stores (call : SetterCall) : Act Value :=
  if call.target.forges && call.value.isForgeable then Act.forge call.value else pure call.value

end SetterCall

/-- A session with a value in the record of a layer. -/
def Session.write (s : Session) (id : LayerId) (target : Target) (v : Value) : Session :=
  { s with layers := s.layers.modify id fun layer => ⟨target.write layer.record v⟩ }

/-! ## What a call needs -/

/-- A layer is there, and its sections are its own, not the live records of other layers. -/
structure OwnsSections (id : LayerId) (s : Session) : Prop where
  known : id < s.layers.length
  own : ∀ (sect : Section) (other : LayerId),
    Entries.lookupName (s.layers.recordOf id) sect.name ≠ some (.record other)

variable {id : LayerId} {s s' : Session}

theorem OwnsSections.keep (owns : OwnsSections id s) (keeps : Keeps id s s') :
    OwnsSections id s' where
  known := keeps.known owns.known
  own sect other := by
    rw [keeps.record]
    exact owns.own sect other

/-- The record of a layer after a write. -/
theorem recordOf_write (known : id < s.layers.length) (target : Target) (v : Value) :
    (s.write id target v).layers.recordOf id = target.write (s.layers.recordOf id) v :=
  LayerStore.recordOf_modify_self _ known

theorem OwnsSections.write (owns : OwnsSections id s) (target : Target) (v : Value) :
    OwnsSections id (s.write id target v) where
  known := by
    change id < (s.layers.modify id _).length
    rw [List.length_modify]
    exact owns.known
  own sect other := by
    rw [recordOf_write owns.known]
    rcases target.reaches sect with ⟨key, rfl⟩ | ⟨away, -⟩
    · rw [Target.write, Entries.lookupName_putName_self]
      intro same
      cases same
    · rw [Target.lookupName_write_of_ne away]
      exact owns.own sect other

/-- A setter that forges takes out of its copy of an expression or a property value what that forges
to. -/
theorem SetterCall.exec_stores_of_forges {call : SetterCall} (forges : call.target.forges = true)
    (s : Session) :
    exec call.stores s = exec (do return (← copyProperty call.value).asPropertyValue) s := by
  have unwraps : ∀ (inner : Value) (wrap : Value → Value), (∀ v, (wrap v).asPropertyValue = v) →
      exec (copy inner) s =
        exec (do return (← (do return wrap (← copy inner) : Act Value)).asPropertyValue) s := by
    intro inner wrap held
    rw [exec_bind, exec_bind]
    rcases exec (copy inner) s with ⟨_ | v, s'⟩
    · rfl
    · exact congrArg (fun v => (Except.ok v, s')) (held v).symm
  unfold SetterCall.stores
  rw [forges]
  obtain ⟨field, key, value⟩ := call
  cases value with
  | expression inner => exact unwraps inner .expression fun _ => rfl
  | property inner => exact unwraps inner .property fun _ => rfl
  | constant inner => exact unwraps inner .constant fun _ => rfl
  | _ => rfl

theorem SetterCall.keeps_stores (call : SetterCall) (known : id < s.layers.length) :
    Keeps id s (exec call.stores s).2 := by
  cases forges : call.target.forges with
  | true =>
      rw [SetterCall.exec_stores_of_forges forges]
      exact after_bind (keeps_copyProperty known call.value) fun _ _ _ keeps => keeps
  | false =>
      unfold SetterCall.stores
      rw [forges]
      exact .refl id s

/-! ## One call -/

/-- A write into a section that is the layer's own. -/
theorem exec_writeInSection (owns : OwnsSections id s) (sect : Section) (key : String) (v : Value) :
    exec (LayerSetter.writeInSection id sect.name (.str key) v) s =
      (.ok (), s.write id (.inSection sect key) v.asPropertyValue) := by
  unfold LayerSetter.writeInSection
  rw [exec_bind_of_ok (exec_get s)]
  split
  · next other found _ => exact (owns.own sect other found).elim
  · next other found _ => exact (owns.own sect other found).elim
  · rfl
  · next isKey _ => cases isKey

/-- The write of a value to a place, as a setter gives it. -/
def writeTo (v : Value) : Target → Layer.Write
  | .inSection sect key => .inSection sect.name (.str key) v
  | .atTop .filter => .filter v
  | .atTop key => .atTop key.name v

theorem SetterCall.run_args (call : SetterCall) :
    call.field.run call.args = .ok (writeTo call.value call.target) := by
  obtain ⟨field, key, value⟩ := call
  cases field <;> rfl

theorem exec_perform_writeTo (owns : OwnsSections id s) (call : SetterCall) :
    exec (LayerSetter.perform id (writeTo call.value call.target)) s =
      match exec call.stores s with
      | (.ok v, s') => (.ok (), s'.write id call.target v)
      | (.error fault, s') => (.error fault, s') := by
  have forged : ∀ (target : Target) (next : Value → Act Unit), call.target = target →
      target.forges = true →
      (∀ v s', Keeps id s s' → exec (next v) s' = (.ok (), s'.write id target v.asPropertyValue)) →
      exec (do next (← copyProperty call.value)) s =
        match exec call.stores s with
        | (.ok v, s') => (.ok (), s'.write id target v)
        | (.error fault, s') => (.error fault, s') := by
    intro target next isTarget forges writes
    rw [SetterCall.exec_stores_of_forges (isTarget ▸ forges), exec_bind, exec_bind]
    have keeps := keeps_copyProperty owns.known call.value
    cases copied : exec (copyProperty call.value) s with
    | mk answer s₁ =>
        rw [copied] at keeps
        cases answer with
        | error fault => rfl
        | ok v => exact writes v s₁ keeps
  cases isTarget : call.target with
  | inSection sect key =>
      exact forged _ (LayerSetter.writeInSection id sect.name (.str key)) isTarget rfl
        fun v s' keeps => exec_writeInSection (owns.keep keeps) sect key v
  | atTop key =>
      cases key with
      | filter =>
          exact forged _ (fun v => changeLayer id (·.write (.filter v))) isTarget rfl
            fun _ _ _ => rfl
      | metadata | minZoom | maxZoom =>
          rw [SetterCall.stores, isTarget]
          rfl

/-- A call of a setter answers its layer, and has written one value to one place; if the value
cannot be had, the call fails and has written nothing. -/
theorem SetterCall.exec_run (owns : OwnsSections id s) (call : SetterCall) :
    exec (call.run id) s =
      match exec call.stores s with
      | (.ok v, s') => (.ok (.layer id), s'.write id call.target v)
      | (.error fault, s') => (.error fault, s') := by
  have plain : Method.setter call.field ≠ .forgeWith := fun same => nomatch same
  unfold SetterCall.run
  rw [Answers.exec_runMethod plain]
  change exec (do
    let write ← Act.ofExcept (call.field.run call.args)
    LayerSetter.perform id write
    return Value.layer id) s = _
  have writes : exec (Act.ofExcept (call.field.run call.args)) s =
      (.ok (writeTo call.value call.target), s) := by
    rw [exec_ofExcept, call.run_args]
  rw [exec_bind_of_ok writes, exec_bind, exec_perform_writeTo owns call]
  rcases exec call.stores s with ⟨_ | v, s'⟩ <;> rfl

/-! ## Any calls -/

/-- Calls of setters of a layer, from one session to another, with what they wrote: a call writes
what it stores, one that fails writes nothing, and between calls anything can happen that leaves the
layer alone. -/
inductive Calls (id : LayerId) (s : Session) : Writes → Session → Prop
  | nil : Calls id s [] s
  | call {writes : Writes} {s₁ s₂ : Session} {v : Value} (call : SetterCall) :
    Calls id s writes s₁ → exec call.stores s₁ = (.ok v, s₂) →
    Calls id s (writes ++ [(call.target, v)]) (exec (call.run id) s₁).2
  | fails {writes : Writes} {s₁ s₂ : Session} {fault : Fault} (call : SetterCall) :
    Calls id s writes s₁ → exec call.stores s₁ = (.error fault, s₂) →
    Calls id s writes (exec (call.run id) s₁).2
  | elsewhere {writes : Writes} {s₁ s₂ : Session} :
    Calls id s writes s₁ → Keeps id s₁ s₂ → Calls id s writes s₂

/-- The sections of a layer stay its own, and its record is known by what was written. -/
theorem Calls.written {initial : Entries} {names : List String} {writes : Writes}
    (calls : Calls id s writes s') (origin : Origin initial names) (owns : OwnsSections id s)
    (start : s.layers.recordOf id = initial) :
    OwnsSections id s' ∧ Written initial names writes (s'.layers.recordOf id) := by
  induction calls with
  | nil => exact ⟨owns, start ▸ .nil (start ▸ origin)⟩
  | @call writes s₁ s₂ v call _ stores ih =>
      obtain ⟨owns₁, written⟩ := ih
      have keeps := call.keeps_stores owns₁.known
      rw [stores] at keeps
      have owns₂ := owns₁.keep keeps
      have after : (exec (call.run id) s₁).2 = s₂.write id call.target v := by
        rw [call.exec_run owns₁, stores]
      rw [after]
      refine ⟨owns₂.write call.target v, ?_⟩
      rw [recordOf_write owns₂.known, keeps.record]
      exact written.write origin call.target v
  | @fails writes s₁ s₂ fault call _ stores ih =>
      obtain ⟨owns₁, written⟩ := ih
      have keeps := call.keeps_stores owns₁.known
      rw [stores] at keeps
      have after : (exec (call.run id) s₁).2 = s₂ := by
        rw [call.exec_run owns₁, stores]
      rw [after, keeps.record]
      exact ⟨owns₁.keep keeps, written⟩
  | elsewhere _ keeps ih => exact ⟨ih.1.keep keeps, keeps.record ▸ ih.2⟩

/-- One run after the other. -/
theorem Calls.trans {s₁ s₂ : Session} {writes more : Writes} (first : Calls id s writes s₁)
    (second : Calls id s₁ more s₂) : Calls id s (writes ++ more) s₂ := by
  induction second with
  | nil => rwa [List.append_nil]
  | call c _ stores ih =>
      rw [← List.append_assoc]
      exact .call c ih stores
  | fails c _ stores ih => exact .fails c ih stores
  | elsewhere _ keeps ih => exact .elsewhere ih keeps

/-! ## Calls with steady values -/

/-- A value that a layer stores as one and the same value, whatever the session is: if it is an
expression or a property value, nothing in it has an identity of its own. -/
def isSteady : Value → Bool
  | .expression v | .property v | .constant v => v.isStructural
  | _ => true

/-- What a call stores if its value is steady: the value, or the array or literal that it holds. -/
def SetterCall.stored (call : SetterCall) : Value :=
  match call.target.forges, call.value with
  | true, .expression inner | true, .property inner | true, .constant inner => inner
  | _, v => v

/-- What calls with steady values write. -/
def writesOf (calls : List SetterCall) : Writes := calls.map fun call => (call.target, call.stored)

theorem SetterCall.exec_stores {call : SetterCall} (steady : isSteady call.value = true)
    (s : Session) : exec call.stores s = (.ok call.stored, s) := by
  unfold SetterCall.stores SetterCall.stored
  cases call.target.forges with
  | false => rfl
  | true =>
      obtain ⟨field, key, value⟩ := call
      cases value <;> first | exact exec_copy_of_isStructural steady s | rfl

/-- Calls with steady values all answer their layer, and write what they store. -/
theorem exec_mapM_run {calls : List SetterCall} (owns : OwnsSections id s)
    (steady : ∀ call ∈ calls, isSteady call.value = true) :
    ∃ s', exec (calls.mapM (SetterCall.run id)) s = (.ok (calls.map fun _ => .layer id), s') ∧
      Calls id s (writesOf calls) s' := by
  induction calls generalizing s with
  | nil => exact ⟨s, rfl, .nil⟩
  | cons call calls ih =>
      have stores := SetterCall.exec_stores (steady call List.mem_cons_self) s
      have answers : exec (call.run id) s =
          (.ok (.layer id), s.write id call.target call.stored) := by
        rw [call.exec_run owns, stores]
      have one : Calls id s [(call.target, call.stored)]
          (s.write id call.target call.stored) := by
        have run : Calls id s ([] ++ [(call.target, call.stored)]) (exec (call.run id) s).2 :=
          .call call .nil stores
        rwa [answers] at run
      obtain ⟨s', answersRest, rest⟩ := ih (owns.write call.target call.stored)
        fun other member => steady other (List.mem_cons_of_mem _ member)
      refine ⟨s', ?_, one.trans rest⟩
      rw [List.mapM_cons, exec_bind_of_ok answers, exec_bind_of_ok answersRest, exec_pure]
      rfl

/-- A new layer is made of its arguments; a source layer that counts as absent is left out. -/
theorem exec_construct_layer (kind name source : Value) (sourceLayer : Option Value) (s : Session) :
    let recorded := sourceLayer.filter fun v => !(s.layers.view v).isFalsy
    exec ((Function.construct .layer).run (Bound.map .value
        ⟨[some kind, some name, some source, sourceLayer], []⟩)) s =
      (.ok (.layer s.layers.length),
        { s with layers := s.layers ++ [⟨madeOf kind name source recorded⟩] }) := by
  intro recorded
  have made : (Layer.create kind name source
      (if !(s.layers.view (Arguments.orNull sourceLayer)).isFalsy then Arguments.orNull sourceLayer
        else .null)) = ⟨madeOf kind name source recorded⟩ := by
    cases sourceLayer with
    | none => rfl
    | some v =>
        have seen : (s.layers.view v).isFalsy = false → v.isFalsy = false := by
          cases v <;> first | exact fun _ => rfl | exact id
        have filtered : recorded = if (s.layers.view v).isFalsy then none else some v := by
          unfold recorded
          cases falsy : (s.layers.view v).isFalsy <;> simp [falsy]
        rw [filtered]
        unfold Arguments.orNull Layer.create madeOf
        cases falsy : (s.layers.view v).isFalsy with
        | true => simp [falsy, show Value.null.isFalsy = true from rfl]
        | false => simp [falsy, seen falsy]
  rw [Function.run, exec_bind_of_ok (Bound.exec_values _ s), Construction.run]
  all_goals first | (rw [← made]; rfl) | rfl

/-- A new layer owns its sections. -/
theorem ownsSections_construct {initial : Entries} {names : List String}
    (origin : Origin initial names) (s : Session) :
    OwnsSections s.layers.length { s with layers := s.layers ++ [⟨initial⟩] } ∧
      LayerStore.recordOf (s.layers ++ [⟨initial⟩]) s.layers.length = initial := by
  have record : LayerStore.recordOf (s.layers ++ [⟨initial⟩]) s.layers.length = initial :=
    LayerStore.recordOf_concat ⟨initial⟩
  refine ⟨⟨by simp, fun sect other found => ?_⟩, record⟩
  change Entries.lookupName (LayerStore.recordOf (s.layers ++ [⟨initial⟩]) _) _ = _ at found
  have sections := (Written.nil origin).sections sect
  rw [record, sections] at found
  cases found

end Script

end MapStyle
