import Mathlib.Tactic.SplitIfs
import MapStyle.Proofs.Layer.Present
import MapStyle.Proofs.Shape.Leading

/-!
# Records that are in order

The record of a layer is in order if under each key that the checks look at stands a value of the
right kind.  The checks find nothing in such a record, also if they see it with present records in
the place of live ones.

* `Layer.fits` is what must stand under a key, `Layer.InOrder` says that it does.
* `Layer.InOrder.putName`: a write of a fitting value leaves a record in order.
* `Shape.recordProblems_of_inOrder` and `Shape.documentProblems_of_inOrder` are about the checks.
-/

namespace MapStyle

/-! ## Records -/

namespace Layer

/-- The keys under which a layer has its identity and its source. -/
def identityKeys : List String := ["id", "type", "source"]

/-- Whether a value is of the kind that must stand under a key.  A layer has no key by which a style
is known. -/
def fits (key : String) (v : Value) : Bool :=
  if key ∈ identityKeys ∨ key = "source-layer" then v.isText
  else if key = "paint" ∨ key = "layout" then v.entries?.isSome
  else if key = "minzoom" ∨ key = "maxzoom" then v.isNumber
  else if key = "filter" then Shape.isExpression v
  else key != "layers"

/-- Under each key stands a value of the right kind, and under those that must be there is one. -/
structure InOrder (record : Entries) : Prop where
  fits : ∀ key v, Entries.lookupName record key = some v → fits key v = true
  identity : ∀ key ∈ identityKeys, (Entries.lookupName record key).isSome = true

variable {record : Entries}

theorem InOrder.putName (inOrder : InOrder record) {key : String} {v : Value}
    (suits : Layer.fits key v = true) : InOrder (Entries.putName record key v) where
  fits other w found := by
    by_cases same : other = key
    · subst same
      rw [Entries.lookupName_putName_self] at found
      cases found
      exact suits
    · rw [Entries.lookupName_putName_of_ne _ _ same] at found
      exact inOrder.fits other w found
  identity other isIdentity := by
    by_cases same : other = key
    · rw [same, Entries.lookupName_putName_self]
      rfl
    · rw [Entries.lookupName_putName_of_ne _ _ same]
      exact inOrder.identity other isIdentity

/-- A layer that is made of texts is in order. -/
theorem inOrder_create {kind id source : String} {sourceLayer : Value}
    (isText : sourceLayer = .null ∨ sourceLayer.isText = true) :
    InOrder (create (.str kind) (.str id) (.str source) sourceLayer).record := by
  have bare : InOrder [namedEntry "id" (.str id), namedEntry "type" (.str kind),
      namedEntry "source" (.str source)] := by
    constructor
    · intro key v found
      simp only [Entries.lookupName, namedEntry, Entries.lookup, Value.same_str] at found
      split at found
      · next same =>
          cases found
          cases LawfulBEq.eq_of_beq same
          rfl
      · split at found
        · next same =>
            cases found
            cases LawfulBEq.eq_of_beq same
            rfl
        · split at found <;> cases found
          next same =>
            cases LawfulBEq.eq_of_beq same
            rfl
    · intro key isIdentity
      simp only [identityKeys, List.mem_cons, List.not_mem_nil, or_false] at isIdentity
      rcases isIdentity with rfl | rfl | rfl <;> rfl
  unfold create
  dsimp only
  split
  · exact bare
  · next given =>
      rcases isText with rfl | isText
      · exact (given rfl).elim
      · have suits : fits "source-layer" sourceLayer = true := isText
        exact bare.putName suits

/-! ## Present records in the place of live ones -/

section Present

variable {shown : Value → Value}

/-- A value of the right kind is seen as one. -/
theorem fits_shown (shows : ShowsRecords shown) {key : String} {v : Value}
    (suits : fits key v = true) : fits key (v.mapLeaves shown) = true := by
  have scalar : ∀ q : Value, (q.isText || q.isNumber) = true → q.mapLeaves shown = q := by
    intro q isScalar
    cases q <;> first | (cases isScalar; done) | exact shows.kept _ fun _ same => nomatch same
  unfold fits at suits ⊢
  split_ifs at suits ⊢
  · rwa [scalar v (by rw [suits, Bool.true_or])]
  · cases v <;> first | (cases suits; done) | rfl
  · rwa [scalar v (by rw [suits, Bool.or_true])]
  · exact Shape.isExpression_mapLeaves shows.str suits
  · exact suits

/-- A record that is in order is seen as one. -/
theorem InOrder.mapLeavesOfPairs (inOrder : InOrder record) (shows : ShowsRecords shown) :
    InOrder (Value.mapLeavesOfPairs shown record) where
  fits key v found := by
    rw [shows.lookupName] at found
    obtain ⟨w, before, rfl⟩ := Option.map_eq_some_iff.mp found
    exact fits_shown shows (inOrder.fits key w before)
  identity key isIdentity := by
    rw [shows.lookupName, Option.isSome_map]
    exact inOrder.identity key isIdentity

/-- The live record of a layer becomes a record that is in order if that of the layer is. -/
theorem exists_unroll_record {store : LayerStore} {id : LayerId} (depth : Nat)
    (inOrder : InOrder (store.recordOf id)) :
    ∃ record, store.unroll (depth + 1) (.record id) = .map record ∧ InOrder record := by
  obtain ⟨shown, shows, unrolls, -⟩ := store.exists_unroll depth
  refine ⟨Value.mapLeavesOfPairs shown (store.recordOf id), ?_, inOrder.mapLeavesOfPairs shows⟩
  rw [LayerStore.unroll, Value.mapLeaves_of_isLeaf _ rfl]
  exact unrolls _

end Present

end Layer

/-! ## The checks of a record -/

namespace Shape

variable {record : Entries}

/-- The checks look at a record key by key, and each key of one that is in order is right. -/
theorem recordProblems_of_inOrder (inOrder : Layer.InOrder record) : recordProblems record = [] := by
  have texts : ∀ key ∈ Layer.identityKeys, requiredText record key = [] := by
    intro key isIdentity
    obtain ⟨v, found⟩ := Option.isSome_iff_exists.mp (inOrder.identity key isIdentity)
    have isText : v.isText = true := by
      have suits := inOrder.fits key v found
      rwa [Layer.fits, if_pos (Or.inl isIdentity)] at suits
    rw [requiredText, found]
    exact if_pos isText
  have sourceLayer : optionalText record "source-layer" = [] := by
    unfold optionalText
    split
    · rfl
    · next v found => exact if_pos (inOrder.fits _ v found)
  have isSection : ∀ key, key = "paint" ∨ key = "layout" → optionalSection record key = [] := by
    intro key isSection
    unfold optionalSection
    split
    · rfl
    · next v found =>
        have suits := inOrder.fits _ v found
        rcases isSection with rfl | rfl <;> exact if_pos suits
  have isZoom : ∀ key, key = "minzoom" ∨ key = "maxzoom" → optionalNumber record key = [] := by
    intro key isZoom
    unfold optionalNumber
    split
    · rfl
    · next v found =>
        have suits := inOrder.fits _ v found
        rcases isZoom with rfl | rfl <;> exact if_pos suits
  have filter : optionalFilter record "filter" = [] := by
    unfold optionalFilter
    split
    · rfl
    · next v found =>
        rw [checkExpression_of_isExpression (inOrder.fits _ v found)]
  have sections : ["paint", "layout"].flatMap (optionalSection record) = [] := by
    simp [isSection]
  have zooms : ["minzoom", "maxzoom"].flatMap (optionalNumber record) = [] := by
    simp [isZoom]
  have identity : ["id", "type", "source"].flatMap (requiredText record) = [] :=
    List.flatMap_eq_nil_iff.mpr texts
  rw [recordProblems, identity, sourceLayer, sections, zooms, filter]
  rfl

/-- A record that is in order is a layer, and not a style. -/
theorem documentProblems_of_inOrder (inOrder : Layer.InOrder record) :
    documentProblems (.map record) = [] := by
  have single : Entries.lookupName record "layers" = none := by
    rw [Option.eq_none_iff_forall_ne_some]
    intro v found
    cases inOrder.fits _ v found
  have none : layerProblems (.map record) = [] := recordProblems_of_inOrder inOrder
  have notLed : ¬ isLedByText (.map record) = true := Bool.false_ne_true
  rw [documentProblems, if_neg notLed]
  · dsimp only [Value.entries?]
    rw [single]
    dsimp only
    rw [none]
    rfl
  · intro items same
    cases same

end Shape

end MapStyle
