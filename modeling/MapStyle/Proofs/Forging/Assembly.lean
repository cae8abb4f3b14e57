import MapStyle.Proofs.Forging.Functions
import MapStyle.Proofs.Forging.Tree

/-!
# Putting arrays together

What a form puts together depends only on what stands for its operands: `Form.placed_map` and
`Form.mapUnder_map` say so for the operands of functions and the entries of maps.  Out of plain
parts comes plain data, by `Form.assemble_isPlain`.
-/

namespace MapStyle.Script.Form

variable {vs : List Value}

/-! ## Operands in their places -/

/-- Placing operands does not look at them. -/
theorem placed_map {α β : Type} (f : StyleFunction) (positional : Nat) (names : List Nat)
    (g : α → β) (operands : List α) :
    placed f positional names (operands.map g) =
      (placed f positional names operands).map (Bound.map g) := by
  unfold placed
  rw [← List.map_take, ← List.map_drop, List.zip_map_right, ← Arity.bind_map]
  rfl

theorem mem_of_placed {α : Type} {f : StyleFunction} {positional : Nat} {names : List Nat}
    {operands : List α} {args : Bound α} (places : placed f positional names operands = some args)
    {a : α} (member : a ∈ args.given) : a ∈ operands := by
  rcases Arity.mem_of_bind places member with first | named
  · exact List.mem_of_mem_take first
  · obtain ⟨⟨name, b⟩, zipped, rfl⟩ := List.mem_map.mp named
    exact List.mem_of_mem_drop (List.of_mem_zip zipped).2

/-- Operands that fit are placed, and the function accepts them. -/
theorem placed_of_fits {held : Nat → Value} {f : StyleFunction} {positional : Nat}
    {names : List Nat} (fits : (Form.style f positional names).Fits held vs.length) :
    ∃ args, placed f positional names vs = some args ∧ f.Accepts args := by
  obtain ⟨-, args, places, accepts⟩ := fits
  have same : vs = (List.range vs.length).map fun index => vs.getD index .null := by
    refine List.ext_getElem (by simp) fun index inside _ => ?_
    rw [List.getElem_map, List.getElem_range, List.getD_eq_getElem?_getD,
      List.getElem?_eq_getElem inside, Option.getD_some]
  refine ⟨args.map fun index => vs.getD index .null, ?_, accepts.map _⟩
  conv_lhs => rw [same]
  rw [placed_map, places]
  rfl

/-! ## Pairs and maps after a change to each value -/

theorem normalized_mapValues (f : Value → Value) (ps : List (Value × Value)) :
    normalized (Entries.mapValues f ps) = Entries.mapValues f (normalized ps) := by
  rw [normalized, normalized, Entries.mapValues, Entries.mapValues, List.map_map, List.map_map]
  rfl

theorem mapUnder_map (held : Nat → Value) (keys : List Leaf) (f : Value → Value)
    (vs : List Value) :
    mapUnder held keys (vs.map f) = Entries.mapValues f (mapUnder held keys vs) := by
  rw [mapUnder, mapUnder, ← Entries.ofWrites_mapValues, Entries.mapValues, List.zip_map_right]
  rfl

/-! ## Plain arrays -/

theorem leading_isPlain (op : Operator) {parts : List Value}
    (plain : ∀ v ∈ parts, v.isPlain = true) : (Operator.leading op parts).isPlain = true := by
  rw [Operator.leading, Value.isPlain_list, List.all_cons, Bool.and_eq_true]
  exact ⟨rfl, List.all_eq_true.mpr plain⟩

theorem normalize_isPlain {key : Value} (plain : key.isPlain = true) :
    (MatchKey.normalize key).isPlain = true := by
  rcases MatchKey.normalize_cases key with kept | ⟨k, number⟩ | ⟨x, number⟩
  · rwa [kept]
  · rw [number]
    rfl
  · rw [number]
    rfl

theorem leaf_isPlain {held : Nat → Value} {l : Leaf} (plain : l.isPlain held = true) :
    (l.value held).isPlain = true := by
  cases l with
  | held index => exact plain
  | written v =>
      cases v with
      | float x => rfl
      | _ => exact plain

/-- Pairs of plain values. -/
def PlainPairs (ps : List (Value × Value)) : Prop :=
  ∀ p ∈ ps, p.1.isPlain = true ∧ p.2.isPlain = true

namespace PlainPairs

variable {held : Nat → Value} {keys : List Leaf} {ps : List (Value × Value)} {vs : List Value}

theorem inTurn (plain : PlainPairs ps) : ∀ v ∈ Form.inTurn ps, v.isPlain = true := by
  intro v member
  obtain ⟨p, inside, among⟩ := List.mem_flatMap.mp member
  rcases List.mem_cons.mp among with rfl | among
  · exact (plain p inside).1
  · cases List.mem_singleton.mp among
    exact (plain p inside).2

theorem normalized (plain : PlainPairs ps) : PlainPairs (Form.normalized ps) :=
  List.forall_mem_map.mpr fun p member =>
    ⟨normalize_isPlain (plain p member).1, (plain p member).2⟩

theorem zip (plain : ∀ key ∈ keys, key.isPlain held = true) (values : ∀ v ∈ vs, v.isPlain = true) :
    PlainPairs ((keys.map (Leaf.value held)).zip vs) := by
  intro p member
  obtain ⟨key, isKey, same⟩ := List.mem_map.mp (List.of_mem_zip member).1
  exact ⟨same ▸ leaf_isPlain (plain key isKey), values p.2 (List.of_mem_zip member).2⟩

theorem mapUnder (plain : ArePlainKeys held keys) (values : ∀ v ∈ vs, v.isPlain = true) :
    PlainPairs (Form.mapUnder held keys vs) := fun _ member =>
  Entries.of_mem_ofWrites (·.isPlain = true) (·.isPlain = true)
    (zip (fun key isKey => (plain key isKey).1) values) member

theorem lastKey (plain : PlainPairs ps) :
    (((ps.map Prod.fst).getLast?).getD .null).isPlain = true := by
  cases last : (ps.map Prod.fst).getLast? with
  | none => rfl
  | some key =>
      obtain ⟨p, inside, rfl⟩ := List.mem_map.mp (List.mem_of_getLast? last)
      exact (plain p inside).1

end PlainPairs

/-- What a form puts together from plain parts is plain. -/
theorem assemble_isPlain {held : Nat → Value} (form : Form) (parts : List Value)
    (fits : form.Fits held parts.length) (plain : ∀ v ∈ parts, v.isPlain = true) :
    (form.assemble held parts).isPlain = true := by
  have later : ∀ n, ∀ v ∈ parts.drop n, v.isPlain = true :=
    fun n v member => plain v (List.mem_of_mem_drop member)
  cases form with
  | style f positional names =>
      obtain ⟨args, places, -⟩ := placed_of_fits fits
      rw [assemble, places]
      have given : ∀ v ∈ args.given, v.isPlain = true :=
        fun v member => plain v (mem_of_placed places member)
      exact leading_isPlain f.operator (StyleFunction.operands_isPlain f given)
  | var name => rfl
  | linear => rfl
  | exponential =>
      rw [assemble, Value.isPlain_list, List.all_cons]
      exact Bool.and_eq_true_iff.mpr ⟨rfl, List.all_eq_true.mpr plain⟩
  | cubicBezier =>
      rw [assemble, Value.isPlain_list, List.all_cons]
      exact Bool.and_eq_true_iff.mpr ⟨rfl, List.all_eq_true.mpr plain⟩
  | record keys =>
      rw [assemble, Value.isPlain_map, List.all_eq_true]
      exact fun e member =>
        Bool.and_eq_true_iff.mpr (PlainPairs.mapUnder fits.2 plain e member)
  | cases finished => exact leading_isPlain .caseOf plain
  | matchOn way keys table =>
      cases parts with
      | nil => rfl
      | cons subject parts =>
          have values : ∀ v ∈ parts, v.isPlain = true :=
            fun v member => plain v (List.mem_cons_of_mem subject member)
          have dropped : ∀ n, ∀ v ∈ parts.drop n, v.isPlain = true :=
            fun n v member => values v (List.mem_of_mem_drop member)
          refine leading_isPlain .matchOn ?_
          rw [List.forall_mem_cons, List.forall_mem_append, List.forall_mem_append]
          exact ⟨plain subject List.mem_cons_self,
            ⟨(PlainPairs.zip fits.1 values).normalized.inTurn,
              (PlainPairs.mapUnder fits.2.1 (dropped _)).normalized.inTurn⟩, dropped _⟩
  | letIn names =>
      refine leading_isPlain .letIn ?_
      rw [List.forall_mem_append]
      exact ⟨(PlainPairs.mapUnder fits.2 plain).inTurn, later _⟩
  | letWith names further =>
      have first := PlainPairs.mapUnder
        (fun key member => fits.2 key (List.mem_append_left further member)) plain
      have others := PlainPairs.mapUnder
        (fun key member => fits.2 key (List.mem_append_right names member)) (later names.length)
      refine leading_isPlain .letIn ?_
      rw [List.forall_mem_append, List.forall_mem_append, List.forall_mem_singleton]
      refine ⟨⟨first.inTurn, others.inTurn⟩, leading_isPlain .var ?_⟩
      rw [List.forall_mem_singleton]
      refine PlainPairs.lastKey ?_
      split
      · exact first
      · exact others

end MapStyle.Script.Form
