import Mathlib.Algebra.Group.Nat.Defs
import MapStyle.Proofs.Json.Data
import MapStyle.Proofs.Script.Calls
import MapStyle.Script.Eval

/-!
# Objects among data

A payload that is to be written as JSON may hold objects of the library.  There is a text for it
exactly if it holds none; otherwise the first one in the order of the document is told, under every
layout.

* `Value.Holds` says where an object stands, `Value.objects` lists all of them in order.
* `Json.MixedPayload` are the values that are meant.
* `Script.exec_dump_of_mixed` is the statement, and it says the same of output with color.
-/

namespace MapStyle

namespace Value

/-- An object of the library. -/
def isObject : Value → Bool
  | .null | .bool _ | .int _ | .float _ | .str _ | .broken _ | .list _ | .tuple _ | .map _ | .scope _
  | .record _ => false
  | _ => true

mutual

/-- The objects that stand in a value, in the order of the document.  What an object holds itself is
no part of the document. -/
def objects : Value → List Value
  | .list items | .tuple items => objectsOfItems items
  | .map es => objectsOfEntries es
  | v => if v.isObject then [v] else []

/-- The objects among the items of a list. -/
def objectsOfItems : List Value → List Value
  | [] => []
  | item :: items => objects item ++ objectsOfItems items

/-- The objects under the keys of a map. -/
def objectsOfEntries : List (Value × Value) → List Value
  | [] => []
  | (_, v) :: es => objects v ++ objectsOfEntries es

end

/-- An object stands in a value: it is the value itself, or it stands in an item of a list or under
a key of a map. -/
inductive Holds : Value → Value → Prop
  | itself {o : Value} : o.isObject = true → Holds o o
  | item {v w o : Value} {items : List Value} :
    v = .list items ∨ v = .tuple items → w ∈ items → Holds w o → Holds v o
  | entry {es : Entries} {e : Value × Value} {o : Value} : e ∈ es → Holds e.2 o → Holds (.map es) o

theorem objectsOfItems_eq (items : List Value) : objectsOfItems items = items.flatMap objects := by
  induction items with
  | nil => rfl
  | cons item items ih => rw [objectsOfItems, ih, List.flatMap_cons]

theorem objectsOfEntries_eq (es : Entries) :
    objectsOfEntries es = es.flatMap fun e => e.2.objects := by
  induction es with
  | nil => rfl
  | cons e es ih => rw [objectsOfEntries, ih, List.flatMap_cons]

theorem holds_of_mem_objects {v o : Value} (listed : o ∈ v.objects) : Holds v o := by
  induction v using children_induction with
  | step v ih =>
      cases v with
      | list items =>
          rw [objects, objectsOfItems_eq] at listed
          obtain ⟨item, member, inside⟩ := List.mem_flatMap.mp listed
          exact .item (Or.inl rfl) member (ih item member inside)
      | tuple items =>
          rw [objects, objectsOfItems_eq] at listed
          obtain ⟨item, member, inside⟩ := List.mem_flatMap.mp listed
          exact .item (Or.inr rfl) member (ih item member inside)
      | map es =>
          rw [objects, objectsOfEntries_eq] at listed
          obtain ⟨e, member, inside⟩ := List.mem_flatMap.mp listed
          exact .entry member ((forall_mem_pairs.mp ih e member).2 inside)
      | null | bool b | int n | float x | str s | broken symbols | scope es | record id => cases listed
      | _ =>
          cases List.mem_singleton.mp listed
          exact .itself rfl

theorem Holds.mem_objects {v o : Value} (holds : Holds v o) : o ∈ v.objects := by
  induction holds with
  | @itself o isObject =>
      cases o <;> first | (cases isObject; done) | exact List.mem_singleton.mpr rfl
  | item isList member _ ih =>
      rcases isList with rfl | rfl
      all_goals
        rw [objects, objectsOfItems_eq]
        exact List.mem_flatMap.mpr ⟨_, member, ih⟩
  | entry member _ ih =>
      rw [objects, objectsOfEntries_eq]
      exact List.mem_flatMap.mpr ⟨_, member, ih⟩

end Value

namespace Json

open Value

/-- A key or a number has not too many digits. -/
def Fits (v : Value) : Prop := ∀ n, v = .int n → n.natAbs < 10 ^ Text.integerDigitLimit

/-- Data in which objects of the library may stand, at any depth. -/
inductive MixedPayload : Value → Prop
  | scalar {v : Value} : v.isScalar = true → Fits v → MixedPayload v
  | list {items : List Value} : (∀ v ∈ items, MixedPayload v) → MixedPayload (.list items)
  | tuple {items : List Value} : (∀ v ∈ items, MixedPayload v) → MixedPayload (.tuple items)
  | map {es : Entries} : (∀ e ∈ es, e.1.isScalar = true ∧ Fits e.1) →
    (∀ e ∈ es, MixedPayload e.2) → MixedPayload (.map es)
  | object {v : Value} : v.isObject = true → MixedPayload v

theorem Fits.isShort {v : Value} (fits : Fits v) : v.isShort = true := by
  cases v with
  | int n =>
      refine decide_eq_true ?_
      exact (Nat.length_toDigits_le_iff (by decide) (by decide)).mpr (fits n rfl)
  | _ => rfl

/-- That an object cannot be written. -/
def objectProblem (o : Value) : WriteProblem := .unwritable o.kindName

theorem itemsProblem?_of_mixed {items : List Value}
    (each : ∀ v ∈ items, writeProblem? v = v.objects.head?.map objectProblem) :
    itemsProblem? items = (objectsOfItems items).head?.map objectProblem := by
  induction items with
  | nil => rfl
  | cons item items ih =>
      rw [List.forall_mem_cons] at each
      rw [itemsProblem?, objectsOfItems, each.1, ih each.2, List.head?_append, Option.map_or]

theorem entriesProblem?_of_mixed {es : Entries} (keys : ∀ e ∈ es, keyProblem? e.1 = none)
    (each : ∀ e ∈ es, writeProblem? e.2 = e.2.objects.head?.map objectProblem) :
    entriesProblem? es = (objectsOfEntries es).head?.map objectProblem := by
  induction es with
  | nil => rfl
  | cons e es ih =>
      rw [List.forall_mem_cons] at keys each
      rw [entriesProblem?, objectsOfEntries, keys.1, Option.none_or, each.1, ih keys.2 each.2,
        List.head?_append, Option.map_or]

/-- The only reason why a payload cannot be written is the first object in it. -/
theorem MixedPayload.writeProblem? {v : Value} (payload : MixedPayload v) :
    writeProblem? v = v.objects.head?.map objectProblem := by
  induction payload with
  | @scalar v isScalar fits =>
      have data := isData_of_isScalar isScalar
      have short := (hasShortIntegers_of_isScalar isScalar).trans fits.isShort
      rw [writeProblem?_eq_none_iff.mpr ⟨data, short⟩]
      cases v <;> first | (cases isScalar; done) | rfl
  | list _ ih | tuple _ ih => exact itemsProblem?_of_mixed ih
  | map keys _ ih =>
      refine entriesProblem?_of_mixed (fun e member => ?_) ih
      exact keyProblem?_eq_none_iff.mpr ⟨(keys e member).1, (keys e member).2.isShort⟩
  | @object v isObject => cases v <;> first | (cases isObject; done) | rfl

end Json

/-! ## Texts for payloads -/

namespace Json

variable {v : Value} {indent : Int}

/-- With room, a payload without objects has a text. -/
theorem MixedPayload.exists_writeText (payload : MixedPayload v) (none : v.objects = [])
    (room : indentFault? indent = .none) : ∃ text, writeText v indent = .ok text :=
  exists_writeText_of_room (by rw [payload.writeProblem?, none]; rfl) room

/-- With room, a payload with objects has none, and the first one is told. -/
theorem MixedPayload.writeText_of_object {o : Value} {others : List Value}
    (payload : MixedPayload v) (some : v.objects = o :: others) (room : indentFault? indent = none) :
    writeText v indent = .error (.unserializable (objectProblem o)) :=
  writeText_of_problem (by rw [payload.writeProblem?, some]; rfl) room

end Json

namespace Script

open Act

/-- Ask for the JSON text of a value. -/
def dump (v : Value) (indent : Int) : Act Value :=
  (Function.tool .jsonText).run (Bound.map .value ⟨[some v, some (.int indent)], []⟩)

/-- Ask for output of a value as JSON, in the colors of a theme if `colored` is not falsy. -/
def prepare (v : Value) (indent : Int) (colored : Value) (theme : String) : Act Value :=
  (Function.tool .prepareJson).run
    (Bound.map .value ⟨[some v, some (.int indent), some colored, some (.str theme)], []⟩)

section Runs

variable {v : Value} {indent : Int} {s : Session}

/-- Output of a value is prepared from its text, and fails as that does. -/
theorem exec_prepare (v : Value) (indent : Int) (colored : Value) (theme : String) (s : Session) :
    (∀ fault, exec (dump v indent) s = (.error fault, s) →
      exec (prepare v indent colored theme) s = (.error fault, s)) ∧
    ∀ text, exec (dump v indent) s = (.ok (.str text), s) →
      ∃ operation s', exec (prepare v indent colored theme) s =
        (.ok (.preparedOutput (.tuple [operation])), s') := by
  have runs : exec (prepare v indent colored theme) s =
      exec (prepareJsonOf (s.layers.resolve v) (.int indent) (.str theme)
        (switchOf (s.layers.view colored))) s := by
    rw [prepare, Function.run, exec_bind_of_ok (Bound.exec_values _ s)]
    rfl
  have asks : jsonTextOf (s.layers.resolve v) (.int indent) =
      Json.writeText (s.layers.resolve v) indent := rfl
  rw [dump, exec_jsonText, runs, prepareJsonOf, exec_bind, exec_ofExcept, asks]
  cases Json.writeText (s.layers.resolve v) indent with
  | error fault =>
      refine ⟨fun _ same => ?_, fun _ same => ?_⟩
      · cases same
        rfl
      · cases same
  | ok text =>
      refine ⟨fun _ same => ?_, fun _ _ => ?_⟩
      · cases same
      · cases switchOf (s.layers.view colored) <;> exact ⟨_, _, rfl⟩

/-- Text for a payload in which objects may stand.  Under an indent below `2 ^ 63` there is a text
if no object stands in the payload; otherwise the first one in the order of the document is told, by
the name of its kind, whatever the indent is.  Under a wider one only a text is written, and any
other payload fails by the indent.  Output with color or without it fails just as the text does. -/
theorem exec_dump_of_mixed (payload : Json.MixedPayload (s.layers.resolve v)) (indent : Int) :
    let w := s.layers.resolve v
    (indent < Nat.pow 2 63 →
      ((∀ o, ¬ w.Holds o) ∧ ∃ text, exec (dump v indent) s = (.ok (.str text), s)) ∨
      ∃ o fault, w.objects.head? = some o ∧ w.Holds o ∧
        exec (dump v indent) s = (.error fault, s) ∧
        fault = .unserializable (.unwritable o.kindName) ∧
        fault.message = some ("Cannot serialize output as JSON: Object of type " ++ o.kindName ++
          " is not JSON serializable")) ∧
    (Nat.pow 2 63 ≤ indent →
      (w.isText = false → exec (dump v indent) s = (.error .oversizedIndent, s)) ∧
      (w.isText = true → ∃ text, exec (dump v indent) s = (.ok (.str text), s))) ∧
    ∀ colored theme,
      (∀ fault, exec (dump v indent) s = (.error fault, s) →
        exec (prepare v indent colored theme) s = (.error fault, s)) ∧
      ∀ text, exec (dump v indent) s = (.ok (.str text), s) →
        ∃ operation s', exec (prepare v indent colored theme) s =
          (.ok (.preparedOutput (.tuple [operation])), s') := by
  intro w
  refine ⟨fun narrow => ?_, fun wide => ⟨fun other => ?_, fun isText => ?_⟩,
    fun colored theme => exec_prepare v indent colored theme s⟩
  · have room := Json.indentFault?_of_lt narrow
    rw [dump, exec_jsonText]
    cases held : w.objects with
    | nil =>
        have none : ∀ o, ¬ w.Holds o := fun o holds => nomatch held ▸ holds.mem_objects
        obtain ⟨text, writes⟩ := payload.exists_writeText held room
        exact Or.inl ⟨none, text, by rw [writes]; rfl⟩
    | cons o others =>
        have first : w.Holds o := Value.holds_of_mem_objects (held ▸ List.mem_cons_self)
        have fails := payload.writeText_of_object held room
        exact Or.inr ⟨o, _, rfl, first, by rw [fails]; rfl, rfl, rfl⟩
  · rw [dump, exec_jsonText, Json.writeText_of_no_room (Json.indentFault?_of_le wide) other]
    rfl
  · obtain ⟨text, writes⟩ := Json.exists_writeText_of_text isText indent
    exact ⟨text, by rw [dump, exec_jsonText, writes]; rfl⟩

/-- Two objects under keys that are no texts: the first one is told, on one line and on many. -/
theorem exec_dump_of_mixed_first :
    let s := Session.start ⟨"/", fun _ => .ok .empty, 80⟩
    let first := (Style.get (.str "x")).toValue
    let v : Value := .map [(.float (.nan 0), .list [.float (.infinite true), first]),
      (.null, .layer 0)]
    let fault : Fault := .unserializable (.unwritable "Expression")
    Json.MixedPayload v ∧ ∀ indent ∈ [(-1 : Int), 0, 2],
      exec (dump v indent) s = (.error fault, s) ∧
      exec (prepare v indent (.bool true) "monokai") s = (.error fault, s) := by
  intro s first v fault
  have leaf : ∀ {w : Value}, w.isScalar = true → (∀ n, w ≠ .int n) → Json.MixedPayload w :=
    fun isScalar other => .scalar isScalar fun n same => (other n same).elim
  have payload : Json.MixedPayload v := by
    refine .map ?_ ?_
    · exact List.forall_mem_cons.mpr ⟨⟨rfl, nofun⟩, List.forall_mem_singleton.mpr ⟨rfl, nofun⟩⟩
    · refine List.forall_mem_cons.mpr ⟨.list ?_, List.forall_mem_singleton.mpr (.object rfl)⟩
      exact List.forall_mem_cons.mpr ⟨leaf rfl nofun, List.forall_mem_singleton.mpr (.object rfl)⟩
  refine ⟨payload, fun indent among => ?_⟩
  have narrow : indent < Nat.pow 2 63 := by
    simp only [List.mem_cons, List.not_mem_nil, or_false] at among
    rcases among with rfl | rfl | rfl <;> decide
  obtain ⟨written, -, prepared⟩ := exec_dump_of_mixed (s := s) (v := v) payload indent
  rcases written narrow with ⟨none, -⟩ | ⟨o, _, isFirst, -, fails, rfl, -⟩
  · exact (none (.layer 0) (.entry (List.mem_cons_of_mem _ List.mem_cons_self) (.itself rfl))).elim
  · cases isFirst
    exact ⟨fails, (prepared _ _).1 _ fails⟩

/-- Under an indent that is too wide it is not the object that is told. -/
theorem exec_dump_no_room :
    let s := Session.start ⟨"/", fun _ => .ok .empty, 80⟩
    let v := (Style.get (.str "x")).toValue
    let indent : Int := 9223372036854775808
    Json.MixedPayload v ∧ v.Holds v ∧ exec (dump v indent) s = (.error .oversizedIndent, s) ∧
      ¬ ∃ problem, exec (dump v indent) s = (.error (.unserializable problem), s) := by
  intro s v indent
  have fails : exec (dump v indent) s = (.error .oversizedIndent, s) := rfl
  refine ⟨.object rfl, .itself rfl, fails, ?_⟩
  rintro ⟨problem, told⟩
  cases fails.symm.trans told

end Runs

end Script

end MapStyle
