import MapStyle.Proofs.Shape.LayerChecks

/-!
# Lists of layers

A list of layers and a style are documents whose layers are checked one by one.  Each message about
one of them is told with the index of the layer.

* `Shape.indexedMessages` are the messages with their indices, and `Shape.messages_layersProblems`
  says that the problems of a list of layers are told so.
* `Script.exec_layerLists` takes this to the documents that a script checks, and says what it means
  for lists that are put together or changed in one place.
-/

namespace MapStyle

namespace Shape

/-! ## Messages with an index -/

section Indexed

variable (messages : Value → List String)

/-- The messages about a layer, each with the index of the layer. -/
def ownMessages (layer : Value × Nat) : List (Nat × String) :=
  (messages layer.1).map fun text => (layer.2, text)

/-- The messages about layers, one layer after the other. -/
def indexedMessages (layers : List Value) : List (Nat × String) :=
  layers.zipIdx.flatMap (ownMessages messages)

/-- A message as it is told of the layer of an index. -/
def told (message : Nat × String) : String := "layers[" ++ toString message.1 ++ "]: " ++ message.2

/-- A message about a layer that has so many others before it. -/
def raised (before : Nat) (message : Nat × String) : Nat × String := (before + message.1, message.2)

theorem indexedMessages_append (layers more : List Value) :
    indexedMessages messages (layers ++ more) =
      indexedMessages messages layers ++
        (indexedMessages messages more).map (raised layers.length) := by
  have later : more.zipIdx layers.length =
      more.zipIdx.map fun layer => (layer.1, layers.length + layer.2) := List.zipIdx_eq_map_add
  unfold indexedMessages
  rw [List.zipIdx_append, List.flatMap_append, List.map_flatMap, Nat.zero_add, later,
    List.flatMap_map]
  simp only [ownMessages, List.map_map, Function.comp_def, raised]

theorem filter_ownMessages (layer : Value) (i : Nat) :
    (ownMessages messages (layer, i)).filter (fun message => message.1 ≠ i) = [] := by
  refine List.filter_eq_nil_iff.mpr fun message member => ?_
  obtain ⟨text, -, rfl⟩ := List.mem_map.mp member
  simp

theorem filter_ownMessages_set (layers : List Value) (i first : Nat) (layer : Value) :
    ((layers.set i layer).zipIdx first).flatMap (fun layer =>
        (ownMessages messages layer).filter fun message => message.1 ≠ first + i) =
      (layers.zipIdx first).flatMap fun layer =>
        (ownMessages messages layer).filter fun message => message.1 ≠ first + i := by
  induction layers generalizing i first with
  | nil => rfl
  | cons one layers ih =>
      cases i with
      | zero =>
          rw [List.set_cons_zero, List.zipIdx_cons, List.zipIdx_cons, List.flatMap_cons,
            List.flatMap_cons, Nat.add_zero, filter_ownMessages, filter_ownMessages]
      | succ i =>
          have later : first + (i + 1) = first + 1 + i := by omega
          rw [List.set_cons_succ, List.zipIdx_cons, List.zipIdx_cons, List.flatMap_cons,
            List.flatMap_cons, later, ih]

/-- A layer in the place of another one changes no message about the others. -/
theorem filter_indexedMessages_set (layers : List Value) (i : Nat) (layer : Value) :
    (indexedMessages messages (layers.set i layer)).filter (fun message => message.1 ≠ i) =
      (indexedMessages messages layers).filter (fun message => message.1 ≠ i) := by
  have set := filter_ownMessages_set messages layers i 0 layer
  rw [Nat.zero_add] at set
  unfold indexedMessages
  rw [List.filter_flatMap, List.filter_flatMap]
  exact set

theorem indexedMessages_eq_nil_iff (layers : List Value) :
    indexedMessages messages layers = [] ↔ ∀ layer ∈ layers, messages layer = [] := by
  have each : (∀ layer ∈ layers, messages layer = []) ↔
      ∀ layer ∈ layers.zipIdx, messages layer.1 = [] := by
    conv_lhs => rw [← List.zipIdx_map_fst 0 layers]
    exact List.forall_mem_map
  rw [each, indexedMessages, List.flatMap_eq_nil_iff]
  simp only [ownMessages, List.map_eq_nil_iff]

end Indexed

/-! ## The layers of a document -/

/-- The messages about a list of layers. -/
theorem messages_layersProblems (f : Value → Value) (layers : List Value) :
    (layersProblems 0 (layers.map f)).map DocumentProblem.message =
      (indexedMessages (fun layer => (layerProblems (f layer)).map LayerProblem.message)
        layers).map told := by
  unfold indexedMessages
  generalize 0 = first
  induction layers generalizing first with
  | nil => rfl
  | cons layer layers ih =>
      rw [List.map_cons, layersProblems, List.map_append, ih, List.zipIdx_cons, List.flatMap_cons,
        List.map_append]
      simp only [ownMessages, List.map_map]
      rfl

theorem isLedByText_iff {layers : List Value} :
    isLedByText (.list layers) = true ↔ ∃ t rest, IsOfKind .text t ∧ layers = t :: rest := by
  cases layers with
  | nil => exact iff_of_false Bool.false_ne_true fun ⟨_, _, _, absurd⟩ => nomatch absurd
  | cons first rest =>
      have ofKind : first.isText = true ↔ IsOfKind .text first := isText_iff
      constructor
      · exact fun isText => ⟨first, rest, ofKind.mp isText, rfl⟩
      · rintro ⟨t, others, isText, same⟩
        cases same
        exact ofKind.mpr isText

theorem documentProblems_list {layers : List Value}
    (notLed : ∀ t rest, IsOfKind .text t → layers ≠ t :: rest) :
    documentProblems (.list layers) = layersProblems 0 layers := by
  refine if_neg fun led => ?_
  obtain ⟨t, rest, isText, same⟩ := isLedByText_iff.mp led
  exact notLed t rest isText same

theorem documentProblems_style {document : Value} {record : Entries} {layers : List Value}
    (isMap : document.entries? = some record)
    (found : Entries.lookupName record "layers" = some (.list layers)) :
    documentProblems document = layersProblems 0 layers := by
  cases document <;>
    first
    | (cases isMap; done)
    | simp only [documentProblems, isLedByText, Bool.false_eq_true, if_false, isMap, found]

end Shape

/-! ## Documents with layers -/

namespace Script

open Act Shape

/-- A document with these layers: a list of them that does not start with a text, or a map that
holds the list. -/
inductive HoldsLayers (s : Session) : Value → List Value → Prop
  | list {layers : List Value} : (∀ t rest, IsOfKind .text t → layers ≠ t :: rest) →
    HoldsLayers s (.list layers) layers
  | style {document : Value} {record : Entries} {layers : List Value} :
    (s.layers.view document).entries? = some record →
    Entries.lookupName record "layers" = some (.list layers) → HoldsLayers s document layers

/-- The check of a document lists these messages about the layers in it. -/
def FindsInLayers (document : Value) (s : Session) (found : List (Nat × String)) : Prop :=
  exec ((Function.tool .documentProblems).run (alone document)) s =
    (.ok (textList (found.map told)), s)

theorem FindsInLayer.eq_nil_iff {layer : Value} {s : Session} {messages : List String}
    (finds : FindsInLayer layer s messages) :
    messages = [] ↔ exec ((Function.tool .checkLayer).run (alone layer)) s = (.ok .null, s) := by
  refine ⟨finds.passes, fun passes => ?_⟩
  cases messages with
  | nil => rfl
  | cons first rest =>
      obtain ⟨problem, -, fails⟩ := finds.fails first rfl
      rw [passes] at fails
      cases fails

theorem HoldsLayers.findsInLayers {s : Session} {document : Value} {layers : List Value}
    (holds : HoldsLayers s document layers) :
    FindsInLayers document s (indexedMessages (layerMessages s) layers) := by
  have deep : 2 ≤ ToolFunction.checkDepth := by decide
  have seen : ∃ near, 2 ≤ near ∧
      documentProblems (s.layers.unroll ToolFunction.checkDepth document) =
        layersProblems 0 (layers.map (s.layers.unroll near)) := by
    cases holds with
    | list notLed =>
        obtain ⟨shown, shows, unrolls, -⟩ := s.layers.exists_unroll ToolFunction.checkDepth
        refine ⟨_, deep, ?_⟩
        rw [LayerStore.unroll_list]
        refine documentProblems_list fun t rest isText led => ?_
        obtain ⟨first, others, rfl, seen, -⟩ := List.map_eq_cons_iff.mp led
        rw [unrolls] at seen
        exact notLed t others isText
          (by rw [(shows.mapLeaves_eq_text (isText_iff.mpr isText)).mp seen])
    | style isMap found =>
        obtain ⟨near, seen, enough, unrolled, sees⟩ :=
          s.layers.exists_unroll_entries 2 isMap
        refine ⟨near, enough, documentProblems_style unrolled ?_⟩
        rw [sees, found, Option.map_some, LayerStore.unroll_list]
  obtain ⟨near, enough, problems⟩ := seen
  have same : (fun layer => (layerProblems (s.layers.unroll near layer)).map LayerProblem.message) =
      layerMessages s := funext fun layer => messages_unroll_eq enough deep layer
  rw [FindsInLayers, exec_check (by simp), ToolFunction.answer, Check.problems, problems,
    messages_layersProblems, same]

/-- The check of a value lists one list of messages. -/
theorem FindsInLayer.unique {layer : Value} {s : Session} {messages other : List String}
    (finds : FindsInLayer layer s messages) (again : FindsInLayer layer s other) :
    messages = other := by
  have same := finds.lists.symm.trans again.lists
  simp only [textList, Prod.mk.injEq, Except.ok.injEq, Value.list.injEq, and_true] at same
  exact List.map_injective_iff.mpr (fun _ _ => Value.str.inj) same

/-- The layers of a document are checked one by one, and each message is told with the index of its
layer.  Nothing is found exactly if every layer passes its check.  With more layers behind them the
messages about those follow, with raised indices; and with another layer in the place of one, the
messages with other indices stay. -/
theorem exec_layerLists (s : Session) :
    ∃ messages : Value → List String, (∀ layer, FindsInLayer layer s (messages layer)) ∧
      ∀ document layers, HoldsLayers s document layers →
        FindsInLayers document s (indexedMessages messages layers) ∧
        (indexedMessages messages layers = [] ↔ ∀ layer ∈ layers,
          exec ((Function.tool .checkLayer).run (alone layer)) s = (.ok .null, s)) ∧
        (∀ both more, HoldsLayers s both (layers ++ more) →
          FindsInLayers both s (indexedMessages messages layers ++
            (indexedMessages messages more).map (raised layers.length))) ∧
        ∀ changed i layer, HoldsLayers s changed (layers.set i layer) → ∃ found,
          FindsInLayers changed s found ∧
          found.filter (fun message => message.1 ≠ i) =
            (indexedMessages messages layers).filter (fun message => message.1 ≠ i) := by
  refine ⟨layerMessages s, fun layer => findsInLayer layer s, fun document layers holds =>
    ⟨holds.findsInLayers, ?_, fun both more holdsBoth => ?_, fun changed i layer holdsChanged => ?_⟩⟩
  · rw [indexedMessages_eq_nil_iff]
    exact forall₂_congr fun layer _ => (findsInLayer layer s).eq_nil_iff
  · rw [← indexedMessages_append]
    exact holdsBoth.findsInLayers
  · exact ⟨_, holdsChanged.findsInLayers, filter_indexedMessages_set _ layers i layer⟩

/-- A list of two layers with faults and the style with them, and one layer more or in the place of
the second one. -/
theorem exec_layerLists_two :
    let session := Session.start ⟨"/", fun _ => .ok .empty, 80⟩
    let fine : Value :=
      .map [(.str "id", .str "a"), (.str "type", .str "fill"), (.str "source", .str "s")]
    let faulty : Value := .map [(.str "id", .int 1), (.str "source", .str "s")]
    let style : Value := .map [(.str "version", .int 8), (.str "layers", .list [faulty, .null])]
    let found := [(0, "Layer 'id' must be a string"), (0, "Layer is missing 'type'"),
      (1, "Layer must be an object")]
    FindsInLayers (.list [faulty, .null]) session found ∧ FindsInLayers style session found ∧
      FindsInLayers (.list [faulty, .null, faulty]) session (found ++
        [(2, "Layer 'id' must be a string"), (2, "Layer is missing 'type'")]) ∧
      FindsInLayers (.list [fine]) session [] := by
  intro session fine faulty style found
  obtain ⟨messages, finds, each⟩ := exec_layerLists session
  have ofFine : messages fine = [] := (finds fine).unique (findsInLayer fine session)
  have ofFaulty : messages faulty = ["Layer 'id' must be a string", "Layer is missing 'type'"] :=
    ((finds faulty).unique (findsInLayer faulty session)).trans (by decide)
  have ofNull : messages .null = ["Layer must be an object"] :=
    (finds .null).unique (findsInLayer .null session)
  have notLed : ∀ (entries : Entries) (rest : List Value),
      HoldsLayers session (.list (.map entries :: rest)) (.map entries :: rest) :=
    fun entries rest => .list fun t others isText led => by
      cases led
      cases isText
  have list : HoldsLayers session (.list [faulty, .null]) [faulty, .null] := notLed _ _
  have ofBoth : indexedMessages messages [faulty, .null] = found := by
    simp [indexedMessages, ownMessages, ofFaulty, ofNull, found]
  obtain ⟨finds, -, more, -⟩ := each _ _ list
  refine ⟨ofBoth ▸ finds, ?_, ?_, ?_⟩
  · exact ofBoth ▸ (each style _ (.style rfl rfl)).1
  · have longer := more (.list [faulty, .null, faulty]) [faulty] (notLed _ _)
    rw [ofBoth] at longer
    simpa [indexedMessages, ownMessages, ofFaulty, raised] using longer
  · obtain ⟨finds, -⟩ := each (.list [fine]) [fine] (notLed _ _)
    simpa [indexedMessages, ownMessages, ofFine] using finds

end Script

end MapStyle
