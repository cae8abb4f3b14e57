import Mathlib.Logic.Relation
import MapStyle.Proofs.Shape.Rules
import MapStyle.Proofs.Value.Names

/-!
# The checks of a layer

A script checks a value as a layer in two ways: one lists all that is wrong, the other one fails
with the first of it.  Both look at the record that the value is at that moment.

* `Shape.exists_tells_of_layerProblems` says that the rules of a layer record make up the list, and
  `Shape.messages_unroll_eq` that it does not matter how deep the records in the layer are seen.
* `Shape.BesideRules` is a change to a record that no rule takes note of.
* `Script.exec_layerChecks` puts this together for the two checks.
-/

namespace MapStyle

namespace Shape

/-! ## Layers as they are seen -/

variable {store : LayerStore} {depth other : Nat} {v : Value} {record : Entries}

/-- The messages about a layer are what the rules say about its record, if records in it are
seen. -/
theorem exists_tells_of_layerProblems (deep : 2 ≤ depth)
    (isMap : (store.view v).entries? = some record) :
    ∃ said, RulesTell record said ∧
      (layerProblems (store.unroll depth v)).map LayerProblem.message = said.reduceOption := by
  obtain ⟨less, rfl⟩ : ∃ less, depth = less + 1 := ⟨depth - 1, by omega⟩
  obtain ⟨near, seen, enough, unrolled, found⟩ := store.exists_unroll_entries less isMap
  obtain ⟨shown, shows, unrolls, all⟩ := store.exists_unroll near
  have sees : store.unroll near = Value.mapLeaves shown := funext unrolls
  rw [layerProblems, unrolled]
  exact exists_tells_of_recordProblems shows (all (by omega)) (sees ▸ found)

theorem layerProblems_unroll_of_none (depth : Nat) (noMap : (store.view v).entries? = none) :
    layerProblems (store.unroll depth v) = [.notObject] := by
  rw [layerProblems, store.entries?_unroll_of_none depth noMap]

/-- How deep the records in a layer are seen makes no difference, if those in its record are. -/
theorem messages_unroll_eq (deep : 2 ≤ depth) (deepOther : 2 ≤ other) (v : Value) :
    (layerProblems (store.unroll depth v)).map LayerProblem.message =
      (layerProblems (store.unroll other v)).map LayerProblem.message := by
  cases isMap : (store.view v).entries? with
  | none => rw [layerProblems_unroll_of_none depth isMap, layerProblems_unroll_of_none other isMap]
  | some record =>
      obtain ⟨said, tell, messages⟩ := exists_tells_of_layerProblems deep isMap
      obtain ⟨again, tellAgain, messagesAgain⟩ := exists_tells_of_layerProblems deepOther isMap
      rw [messages, messagesAgain, tell.unique tellAgain fun _ _ => rfl]

/-! ## Changes that no rule takes note of -/

/-- There is a rule of a layer record for a key. -/
def IsRuled (key : Value) : Prop := ∃ rule ∈ layerRules, key = .str rule.key

/-- A change to a record that no rule takes note of: the keys come in another order, or there are
fewer or more keys without a rule. -/
inductive BesideRules : Entries → Entries → Prop
  | reorder {record other : Entries} : record.keys.Nodup → record.Perm other →
    BesideRules record other
  | remove {record : Entries} {keep : Value × Value → Bool} :
    (∀ e ∈ record, IsRuled e.1 → keep e = true) → BesideRules record (record.filter keep)
  | add {record : Entries} {keep : Value × Value → Bool} :
    (∀ e ∈ record, IsRuled e.1 → keep e = true) → BesideRules (record.filter keep) record

/-- Such changes leave what stands under the keys with a rule. -/
theorem lookupName_of_besideRules {record other : Entries}
    (changes : Relation.ReflTransGen BesideRules record other) {rule : KeyRule}
    (listed : rule ∈ layerRules) :
    Entries.lookupName other rule.key = Entries.lookupName record rule.key := by
  have ruled : ∀ {es : Entries} {keep : Value × Value → Bool},
      (∀ e ∈ es, IsRuled e.1 → keep e = true) → ∀ e ∈ es, e.1 = .str rule.key → keep e = true :=
    fun kept e member isKey => kept e member ⟨rule, listed, isKey⟩
  induction changes with
  | refl => rfl
  | tail _ change ih =>
      rw [← ih]
      cases change with
      | reorder distinct perm => exact (Entries.lookupName_perm distinct perm).symm
      | remove kept => exact Entries.lookupName_filter (ruled kept)
      | add kept => exact (Entries.lookupName_filter (ruled kept)).symm

end Shape

/-! ## The two checks -/

namespace Script

open Act Shape

/-- The checks of a layer find these messages in a value: one lists them in this order, and the
other one fails with the first of them, if there is any. -/
structure FindsInLayer (v : Value) (s : Session) (messages : List String) : Prop where
  lists : exec ((Function.tool .layerProblems).run (alone v)) s = (.ok (textList messages), s)
  passes : messages = [] → exec ((Function.tool .checkLayer).run (alone v)) s = (.ok .null, s)
  fails : ∀ first ∈ messages.head?, ∃ problem : LayerProblem, problem.message = first ∧
    exec ((Function.tool .checkLayer).run (alone v)) s = (.error (.layerShape problem), s)

/-- The messages about a value as the checks of a layer see it. -/
def layerMessages (s : Session) (v : Value) : List String :=
  (layerProblems (s.layers.unroll ToolFunction.checkDepth v)).map LayerProblem.message

/-- Both checks go by the same problems. -/
theorem findsInLayer (v : Value) (s : Session) : FindsInLayer v s (layerMessages s v) where
  lists := exec_check (by simp) v s
  passes none := by
    rw [exec_check (by simp), ToolFunction.answer, checkLayer, List.map_eq_nil_iff.mp none]
    rfl
  fails first isFirst := by
    rw [layerMessages, List.head?_map] at isFirst
    obtain ⟨problem, found, isMessage⟩ := Option.map_eq_some_iff.mp isFirst
    refine ⟨problem, isMessage, ?_⟩
    rw [exec_check (by simp), ToolFunction.answer, checkLayer, found]

/-- The checks of a layer go by the rules of a layer record alone.  About a record they find what
the rules say, at most one message for each of their keys and in their order, which is nothing
exactly if all rules are met; and they find the same after changes that no rule takes note of.
About what is no record they find one message. -/
theorem exec_layerChecks (v : Value) (s : Session) :
    (∀ record, (s.layers.view v).entries? = some record → ∃ said, RulesTell record said ∧
      FindsInLayer v s said.reduceOption ∧
      (said.reduceOption = [] ↔
        ∀ rule ∈ layerRules, rule.Met (Entries.lookupName record rule.key)) ∧
      ∀ w t other, (t.layers.view w).entries? = some other →
        Relation.ReflTransGen BesideRules record other → FindsInLayer w t said.reduceOption) ∧
    ((s.layers.view v).entries? = none → FindsInLayer v s ["Layer must be an object"]) := by
  have deep : 2 ≤ ToolFunction.checkDepth := by decide
  constructor
  · intro record isMap
    obtain ⟨said, tell, messages⟩ := exists_tells_of_layerProblems deep isMap
    refine ⟨said, tell, messages ▸ findsInLayer v s, tell.reduceOption_eq_nil_iff, ?_⟩
    intro w t other isMapToo changes
    obtain ⟨again, tellAgain, messagesAgain⟩ := exists_tells_of_layerProblems deep isMapToo
    have same : said = again :=
      tell.unique tellAgain fun rule listed => lookupName_of_besideRules changes listed
    rw [same, ← messagesAgain]
    exact findsInLayer w t
  · intro noMap
    have finds := findsInLayer v s
    rwa [layerMessages, layerProblems_unroll_of_none _ noMap] at finds

/-- Five rules of nine are broken, also with the keys in another order and one key more. -/
theorem exec_layerChecks_faulty :
    let session := Session.start ⟨"/", fun _ => .ok .empty, 80⟩
    let record : Entries := [(.str "maxzoom", .bool true), (.str "id", .int 1),
      (.str "filter", .list [.str "nope"]), (.str "type", .str "fill"), (.str "minzoom", .int 3),
      (.str "paint", .list [])]
    let other : Entries := (.str "extra", .null) :: record.reverse
    let messages := ["Layer 'id' must be a string", "Layer is missing 'source'",
      "Layer 'paint' must be an object", "Layer 'maxzoom' must be a number",
      "Layer 'filter' is invalid: Unknown expression operator 'nope'"]
    FindsInLayer (.map record) session messages ∧ FindsInLayer (.map other) session messages ∧
      FindsInLayer (.list [.map record]) session ["Layer must be an object"] := by
  intro session record other messages
  obtain ⟨said, tell, finds, -, same⟩ := (exec_layerChecks (.map record) session).1 record rfl
  have unknown : ∀ op : Operator, op.tag ≠ "nope" := fun op isTag =>
    absurd (isSome_ofTag?_iff.mpr ⟨op, isTag⟩) (by decide)
  have tells : RulesTell record _ :=
    .cons (.message (.notText rfl nofun)) <| .cons (.nothing (.there (.text "fill"))) <|
    .cons (.message (.missing rfl)) <| .cons (.nothing (.absent rfl)) <|
    .cons (.message (.notMap rfl nofun)) <| .cons (.nothing (.absent rfl)) <|
    .cons (.nothing (.there (.int 3))) <| .cons (.message (.notNumber rfl nofun)) <|
    .cons (.message (.noExpression rfl (.unknownOperator unknown))) .nil
  have isSaid : said.reduceOption = messages := by
    rw [tell.unique tells fun _ _ => rfl]
    decide
  have distinct : record.keys.Nodup := by simp [record, Entries.keys]
  have reordered : BesideRules record record.reverse :=
    .reorder distinct (List.reverse_perm record).symm
  have kept : ∀ e ∈ other, IsRuled e.1 → (!e.1.same (.str "extra")) = true := by
    rintro e - ⟨rule, listed, isKey⟩
    have ruled : ∀ rule ∈ layerRules, (rule.key == "extra") = false := by decide
    rw [isKey, Value.same_str, ruled rule listed]
    rfl
  have extended : BesideRules record.reverse other := .add kept
  rw [isSaid] at finds same
  exact ⟨finds, same (.map other) session other rfl (.tail (.single reordered) extended),
    (exec_layerChecks (.list [.map record]) session).2 rfl⟩

end Script

end MapStyle
