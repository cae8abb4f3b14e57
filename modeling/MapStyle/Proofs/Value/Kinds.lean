import MapStyle.Expression.Basic
import MapStyle.Proofs.Value.Parts

/-!
# Changes that keep kinds

A change to the leaves of a value that keeps texts and the kind of every other leaf keeps whatever
is known of a value by its kind: whether it is null, whether it is an expression, and what stands
under a name if it is a map.

* `KeepsKinds.kindName_mapLeaves` says that the kind of every value is kept.
* `KeepsKinds.lookupName` finds what is changed under the same names.
-/

namespace MapStyle

variable {g : Value → Value}

/-- A change to leaves keeps texts as they are, and the kind of every leaf. -/
structure KeepsKinds (g : Value → Value) : Prop where
  text : ∀ {t : Value}, t.isText = true → g t = t
  kind : ∀ {q : Value}, q.isLeaf = true → (g q).kindName = q.kindName

namespace KeepsKinds

variable {v : Value}

theorem kindName_mapLeaves (keeps : KeepsKinds g) (v : Value) :
    (v.mapLeaves g).kindName = v.kindName := by
  cases leaf : v.isLeaf with
  | true => rw [Value.mapLeaves_of_isLeaf g leaf, keeps.kind leaf]
  | false =>
      rw [Value.mapLeaves_eq_mapChildren g leaf]
      cases v <;> rfl

/-- One such change after another. -/
theorem mapLeaves {f : Value → Value} (first : KeepsKinds f) (next : KeepsKinds g) :
    KeepsKinds fun q => (f q).mapLeaves g where
  text {t} isText := by
    rw [first.text isText, Value.mapLeaves_of_isLeaf g (Value.isLeaf_of_isText isText)]
    exact next.text isText
  kind leaf := by rw [next.kindName_mapLeaves, first.kind leaf]

/-- A value is changed into a text only if it is that text. -/
theorem mapLeaves_eq_text (keeps : KeepsKinds g) {t : Value} (isText : t.isText = true) :
    v.mapLeaves g = t ↔ v = t := by
  constructor
  · intro same
    have kind : v.kindName = "str" := by
      rw [← keeps.kindName_mapLeaves v, same]
      cases t <;> first | rfl | cases isText
    cases v with
    | str u | broken u => exact (keeps.text rfl).symm.trans same
    | _ => simp [Value.kindName] at kind
  · rintro rfl
    rw [Value.mapLeaves_of_isLeaf g (Value.isLeaf_of_isText isText), keeps.text isText]

theorem mapLeaves_eq_str (keeps : KeepsKinds g) {t : String} :
    v.mapLeaves g = .str t ↔ v = .str t :=
  keeps.mapLeaves_eq_text rfl

theorem isNull_mapLeaves (keeps : KeepsKinds g) (v : Value) : (v.mapLeaves g).isNull = v.isNull := by
  have byKind : ∀ u : Value, u.isNull = (u.kindName == "NoneType") := fun u => by cases u <;> rfl
  rw [byKind, byKind, keeps.kindName_mapLeaves]

/-- An operand is changed as the value is. -/
theorem asOperand_mapLeaves (keeps : KeepsKinds g) (v : Value) :
    (v.mapLeaves g).asOperand = v.asOperand.mapLeaves g := by
  by_cases isExpression : v.kindName = "Expression"
  · cases v <;> first | rfl | simp [Value.kindName] at isExpression
  · have kept : ∀ {u : Value}, u.kindName ≠ "Expression" → u.asOperand = u := by
      intro u other
      cases u <;> first | rfl | exact (other rfl).elim
    rw [kept isExpression, kept (keeps.kindName_mapLeaves v ▸ isExpression)]

/-- What has no entries has none after the change. -/
theorem entries?_mapLeaves_of_none (keeps : KeepsKinds g) (none : v.entries? = none)
    (notLive : ∀ id, v ≠ .record id) : (v.mapLeaves g).entries? = .none := by
  have noMap : ∀ {u : Value}, u.kindName ≠ "dict" → u.kindName ≠ "mappingproxy" →
      u.entries? = .none := by
    intro u notMap notScope
    cases u <;> first | rfl | exact (notMap rfl).elim | exact (notScope rfl).elim
  have kinds : v.kindName ≠ "dict" ∧ v.kindName ≠ "mappingproxy" := by
    cases v with
    | record id => exact (notLive id rfl).elim
    | map es | scope es => cases none
    | _ => simp [Value.kindName]
  rw [← keeps.kindName_mapLeaves] at kinds
  exact noMap kinds.1 kinds.2

/-- What is no live record does not become one. -/
theorem mapLeaves_ne_record (keeps : KeepsKinds g) (notLive : ∀ id, v ≠ .record id) (id : LayerId) :
    v.mapLeaves g ≠ .record id := by
  intro same
  have kind : (Value.record id).kindName = v.kindName := same ▸ keeps.kindName_mapLeaves v
  cases v with
  | record id' => exact notLive id' rfl
  | map es => cases same
  | _ => simp [Value.kindName] at kind

/-- A lookup by name finds the changed value. -/
theorem lookupName (keeps : KeepsKinds g) (es : Entries) (name : String) :
    Entries.lookupName (Value.mapLeavesOfPairs g es) name =
      (Entries.lookupName es name).map (Value.mapLeaves g) := by
  unfold Entries.lookupName
  induction es with
  | nil => rfl
  | cons e rest ih =>
      obtain ⟨k, v⟩ := e
      have sameKey : (k.mapLeaves g).same (.str name) = k.same (.str name) := by
        rw [Bool.eq_iff_iff]
        constructor
        · intro same
          rw [keeps.mapLeaves_eq_str.mp (Value.eq_str_of_same same)]
          exact (Value.same_str _ _).trans (beq_self_eq_true name)
        · intro same
          rw [keeps.mapLeaves_eq_str.mpr (Value.eq_str_of_same same)]
          exact (Value.same_str _ _).trans (beq_self_eq_true name)
      rw [Value.mapLeavesOfPairs, Entries.lookup, Entries.lookup, sameKey]
      split
      · rfl
      · exact ih

end KeepsKinds

end MapStyle
