import MapStyle.Proofs.Shape.Rules
import MapStyle.Text.Console

/-!
# The texts of messages

The messages about a document are put together from fixed texts, the keys of layer records, indices,
and the name of an operator that is unknown.  The name is the only part that may hold anything.

* `DocumentProblem.lineFeeds_message` says that all line feeds of a message come from that name.
* `DocumentProblem.startsVisibly_message` is how a message starts.
-/

namespace MapStyle

/-! ## Line feeds -/

/-- The line feeds in a text. -/
def lineFeeds (text : String) : Nat := text.toList.count '\n'

theorem lineFeeds_append (text other : String) :
    lineFeeds (text ++ other) = lineFeeds text + lineFeeds other := by
  rw [lineFeeds, String.toList_append, List.count_append, lineFeeds, lineFeeds]

theorem lineFeeds_toString (n : Nat) : lineFeeds (toString n) = 0 := by
  refine List.count_eq_zero_of_not_mem fun member => ?_
  change '\n' ∈ n.repr.toList at member
  rw [Nat.toList_repr] at member
  exact absurd (Nat.isDigit_of_mem_toDigits (by decide) (by decide) member) (by decide)

/-! ## Starts -/

/-- A text starts with a character that a console shows and that starts no emoji code. -/
def startsVisibly (text : String) : Bool :=
  text.toList.head?.any fun c => !Text.isBlank c && !Text.isDropped c && c != ':'

theorem exists_of_startsVisibly {text : String} (starts : startsVisibly text = true) :
    ∃ c rest, text.toList = c :: rest ∧ Text.isBlank c = false ∧ Text.isDropped c = false ∧
      c ≠ ':' := by
  unfold startsVisibly at starts
  cases chars : text.toList with
  | nil =>
      rw [chars] at starts
      cases starts
  | cons c rest =>
      rw [chars, List.head?_cons, Option.any_some] at starts
      simp only [Bool.and_eq_true, Bool.not_eq_true', bne_iff_ne, ne_eq] at starts
      exact ⟨c, rest, rfl, starts.1.1, starts.1.2, starts.2⟩

theorem startsVisibly_append {text : String} (starts : startsVisibly text = true) (other : String) :
    startsVisibly (text ++ other) = true := by
  obtain ⟨c, rest, chars, -⟩ := exists_of_startsVisibly starts
  unfold startsVisibly at starts ⊢
  rw [chars] at starts
  rw [String.toList_append, chars]
  exact starts

/-! ## Problems -/

/-- The unknown operator that a problem names. -/
def ExpressionProblem.operator? : ExpressionProblem → Option String
  | .unknownOperator tag => some tag
  | .brokenOperator symbols => some (Text.escapedHalves symbols)
  | .notArray | .noOperator => none

theorem ExpressionProblem.lineFeeds_message (problem : ExpressionProblem) :
    lineFeeds problem.message = lineFeeds (problem.operator?.getD "") := by
  have named : ∀ tag, lineFeeds ("Unknown expression operator '" ++ tag ++ "'") = lineFeeds tag := by
    intro tag
    have before : lineFeeds "Unknown expression operator '" = 0 := by decide +kernel
    have behind : lineFeeds "'" = 0 := by decide
    rw [lineFeeds_append, lineFeeds_append, before, behind, Nat.zero_add, Nat.add_zero]
  cases problem with
  | notArray | noOperator => decide +kernel
  | unknownOperator tag => exact named tag
  | brokenOperator symbols => exact named (Text.escapedHalves symbols)

theorem ExpressionProblem.startsVisibly_message (problem : ExpressionProblem) :
    startsVisibly problem.message = true := by
  have starts : startsVisibly "Unknown expression operator '" = true := by decide +kernel
  cases problem with
  | notArray | noOperator => decide +kernel
  | unknownOperator tag | brokenOperator tag =>
      exact startsVisibly_append (startsVisibly_append starts _) "'"

namespace LayerProblem

/-- The unknown operator that a problem names. -/
def operator? : LayerProblem → Option String
  | .badFilter problem => problem.operator?
  | _ => none

/-- The key that a problem names, apart from the one of a filter. -/
def key? : LayerProblem → Option String
  | .missing key | .notText key | .notSection key | .notNumber key => some key
  | .notObject | .badFilter _ => none

theorem lineFeeds_message {problem : LayerProblem}
    (plain : ∀ key ∈ problem.key?, lineFeeds key = 0) :
    lineFeeds problem.message = lineFeeds (problem.operator?.getD "") := by
  have around : ∀ {before key behind : String}, lineFeeds before = 0 → lineFeeds key = 0 →
      lineFeeds behind = 0 → lineFeeds (before ++ key ++ behind) = 0 :=
    fun before key behind => by rw [lineFeeds_append, lineFeeds_append, before, key, behind]
  cases problem with
  | notObject => decide +kernel
  | missing key => exact around (by decide) (plain key rfl) (by decide)
  | notText key => exact around (by decide) (plain key rfl) (by decide)
  | notSection key => exact around (by decide) (plain key rfl) (by decide)
  | notNumber key => exact around (by decide) (plain key rfl) (by decide)
  | badFilter problem =>
      have before : lineFeeds "Layer 'filter' is invalid: " = 0 := by decide +kernel
      change lineFeeds ("Layer 'filter' is invalid: " ++ problem.message) = _
      rw [lineFeeds_append, before, Nat.zero_add, problem.lineFeeds_message]
      rfl

theorem startsVisibly_message (problem : LayerProblem) : startsVisibly problem.message = true := by
  have around : ∀ {before : String} (key behind : String), startsVisibly before = true →
      startsVisibly (before ++ key ++ behind) = true :=
    fun key behind starts => startsVisibly_append (startsVisibly_append starts key) behind
  cases problem with
  | notObject => decide +kernel
  | missing key => exact around key _ (by decide +kernel)
  | notText key => exact around key _ (by decide +kernel)
  | notSection key => exact around key _ (by decide +kernel)
  | notNumber key => exact around key _ (by decide +kernel)
  | badFilter problem =>
      have starts : startsVisibly "Layer 'filter' is invalid: " = true := by decide +kernel
      exact startsVisibly_append starts problem.message

end LayerProblem

namespace Shape

theorem mem_check {found : Option Value} {absent : List LayerProblem} {fits : Value → Bool}
    {wrong problem : LayerProblem}
    (member : problem ∈ match found with
      | none => absent
      | some value => if fits value then [] else [wrong]) :
    problem ∈ absent ∨ problem = wrong := by
  split at member
  · exact Or.inl member
  · split at member
    · cases member
    · exact Or.inr (List.mem_singleton.mp member)

/-- The check of a key names no other key. -/
theorem key_of_mem_problems {rule : KeyRule} {record : Entries} {problem : LayerProblem}
    (found : problem ∈ rule.problems record) : ∀ key ∈ problem.key?, key = rule.key := by
  have same : ∀ key ∈ some rule.key, key = rule.key := fun key isKey => (Option.some.inj isKey).symm
  unfold KeyRule.problems at found
  split at found
  · split at found
    · rcases mem_check found with missing | rfl
      · exact List.mem_singleton.mp missing ▸ same
      · exact same
    · rcases mem_check found with none | rfl
      · cases none
      · exact same
  · rcases mem_check found with none | rfl
    · cases none
    · exact same
  · rcases mem_check found with none | rfl
    · cases none
    · exact same
  · unfold optionalFilter at found
    split at found
    · cases found
    · split at found
      · cases found
      · rw [List.mem_singleton.mp found]
        exact nofun

theorem lineFeeds_of_mem_layerProblems {v : Value} {problem : LayerProblem}
    (found : problem ∈ layerProblems v) :
    lineFeeds problem.message = lineFeeds (problem.operator?.getD "") := by
  have plain : ∀ rule ∈ layerRules, lineFeeds rule.key = 0 := by decide
  refine LayerProblem.lineFeeds_message fun key isKey => ?_
  unfold layerProblems at found
  split at found
  · rw [List.mem_singleton.mp found] at isKey
    cases isKey
  · rw [recordProblems_eq] at found
    obtain ⟨rule, listed, ofRule⟩ := List.mem_flatMap.mp found
    rw [key_of_mem_problems ofRule key isKey]
    exact plain rule listed

theorem mem_layersProblems {layers : List Value} {first : Nat} {problem : DocumentProblem}
    (found : problem ∈ layersProblems first layers) :
    ∃ layer ∈ layers, ∃ index, ∃ ofLayer ∈ layerProblems layer,
      problem = .layerAt index ofLayer := by
  induction layers generalizing first with
  | nil => cases found
  | cons layer layers ih =>
      rcases List.mem_append.mp found with here | later
      · obtain ⟨ofLayer, among, rfl⟩ := List.mem_map.mp here
        exact ⟨layer, List.mem_cons_self, first, ofLayer, among, rfl⟩
      · obtain ⟨other, member, rest⟩ := ih later
        exact ⟨other, List.mem_cons_of_mem _ member, rest⟩

end Shape

namespace DocumentProblem

/-- The unknown operator that a problem names. -/
def operator? : DocumentProblem → Option String
  | .expression problem => problem.operator?
  | .layer problem | .layerAt _ problem => problem.operator?
  | .layersNotArray | .unknownDocument => none

/-- The line feeds in the name of the operator that a problem is about, if it is about one. -/
def breaks (problem : DocumentProblem) : Nat := lineFeeds (problem.operator?.getD "")

/-- All line feeds in a message stand in the name of an operator. -/
theorem lineFeeds_message {document : Value} {problem : DocumentProblem}
    (found : problem ∈ Shape.documentProblems document) :
    lineFeeds problem.message = problem.breaks := by
  have atLayer : ∀ {layers : List Value}, problem ∈ Shape.layersProblems 0 layers →
      lineFeeds problem.message = problem.breaks := by
    intro layers among
    obtain ⟨layer, -, index, ofLayer, isProblem, rfl⟩ := Shape.mem_layersProblems among
    have before : lineFeeds "layers[" = 0 := by decide
    have behind : lineFeeds "]: " = 0 := by decide
    change lineFeeds ("layers[" ++ toString index ++ "]: " ++ ofLayer.message) = _
    rw [lineFeeds_append, lineFeeds_append, lineFeeds_append, before, behind, lineFeeds_toString,
      Shape.lineFeeds_of_mem_layerProblems isProblem, Nat.zero_add]
    rfl
  unfold Shape.documentProblems at found
  split at found
  · obtain ⟨ofExpression, -, rfl⟩ := Option.map_eq_some_iff.mp (Option.mem_toList.mp found)
    exact ofExpression.lineFeeds_message
  · split at found
    · exact atLayer found
    · split at found
      · rw [List.mem_singleton.mp found]
        decide +kernel
      · split at found
        · obtain ⟨ofLayer, isProblem, rfl⟩ := List.mem_map.mp found
          exact Shape.lineFeeds_of_mem_layerProblems isProblem
        · exact atLayer found
        · rw [List.mem_singleton.mp found]
          decide +kernel

theorem startsVisibly_message (problem : DocumentProblem) :
    startsVisibly problem.message = true := by
  cases problem with
  | expression problem => exact problem.startsVisibly_message
  | layer problem => exact problem.startsVisibly_message
  | layerAt index problem =>
      have starts : startsVisibly "layers[" = true := by decide
      exact startsVisibly_append (startsVisibly_append (startsVisibly_append starts _) _) _
  | layersNotArray | unknownDocument => decide +kernel

end DocumentProblem

end MapStyle
