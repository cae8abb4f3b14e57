import MapStyle.Proofs.Forging.MatchWays

/-!
# The fallback of a match

A match can be called with its branches and its fallback, and each of them can be left out.
Branches that are left out and null stand for no branches; a fallback that is null is a fallback.

* `StandsFor` says what is given in the place of branches.
* `EndsIn` says of the array of a match that it ends in the fallback.
* `match_keeps_fallback`: with branches, no fallback is lost.  Without them the match stays open
  whatever the fallback is, and as the value of a property it is forged without it.
-/

namespace MapStyle.Script

open Act

/-! ## What is given -/

/-- A match called on a subject, with branches and a fallback unless they are left out. -/
def matchWith (subject : Value) (branches last : Option Value) : Act Value :=
  Function.run (.construct .matchOn) (Bound.map .value ⟨[some subject, branches, last], []⟩)

/-- The value of a property that is a match, called with all three. -/
def propertyMatch (subject branches last : Value) : Act Value :=
  Function.run (.property .matchOn)
    (Bound.map .value ⟨[some subject, some branches, some last], []⟩)

/-- What is given in the place of branches stands for these entries, or for no branches at all. -/
inductive StandsFor (s : Session) : Option Value → Option Entries → Prop
  | omitted : StandsFor s none none
  | null : StandsFor s (some .null) none
  | table {t : Value} {es : Entries} (holds : (s.layers.view t).entries? = some es) :
      StandsFor s (some t) (some es)

/-- A match without a fallback: one that takes branches if there are none, and otherwise one that
takes only a fallback. -/
def waitingMatch (subject : Value) (entries : Option Entries) : Value :=
  match entries with
  | none => .matchChain subject (.pairs [])
  | some es => .matchEnding subject (.pairs (Form.normalized es))

section Given

variable {s : Session} {v w t : Value} {branches : Option Value} {entries : Option Entries}
  {es : Entries}

theorem exec_branches (stands : StandsFor s branches entries) :
    exec (optionalEntries (Arguments.orNull branches)) s = (.ok entries, s) := by
  cases stands with
  | omitted | null => rfl
  | table holds => exact exec_optionalEntries holds

/-- Of a match that is called, what it has come to is left. -/
theorem exec_matchWith (stands : StandsFor s branches entries) (last : Option Value) :
    exec (matchWith v branches last) s = exec (ofProgress (Style.matchOn v entries last)) s := by
  have run : exec (matchWith v branches last) s = exec (do
      let table ← optionalEntries (Arguments.orNull branches)
      ofProgress (Style.matchOn v table last)) s := by
    cases branches <;> cases last <;> rfl
  rw [run, exec_bind_of_ok (exec_branches stands)]

/-- Of the value of a property that is a match, what the match has come to is left, forged. -/
theorem exec_propertyMatch (stands : StandsFor s (some t) entries) :
    exec (propertyMatch v t w) s = exec (do
      let array ← ofProgress (Style.matchOn v entries (some w)) >>= Act.forge
      return .property array) s :=
  exec_run_propertyMatch (exec_branches stands) v w

/-- A match without a table forges to the operator and the subject, whatever the fallback. -/
theorem assembles_openMatch (s : Session) (v w : Value) :
    Assembles s [.kept (.str "match"), .operand v]
      (exec (ofProgress (Style.matchOn v none (some w)) >>= Act.forge) s) := by
  change Assembles s (matchParts v [] []) (exec (Act.forge (.matchChain v (.pairs []))) s)
  rw [exec_forge_matchChain]
  exact (Assembles.of_parts s _).copied

end Given

/-! ## What a match ends in -/

section Ends

variable {s : Session} {v w : Value} {es : Entries}

/-- What a match has as a key can be copied if the key can be copied. -/
theorem copyable_normalize {store : LayerStore} {k : Value} (copyable : store.Copyable k) :
    store.Copyable (MatchKey.normalize k) := by
  rcases MatchKey.normalize_cases k with same | ⟨n, same⟩ | ⟨x, same⟩ <;> rw [same]
  · exact copyable
  · exact .of_isStructural store rfl
  · refine .of_parts rfl fun p part => ?_
    obtain rfl := List.mem_singleton.mp part
    rfl

theorem copyable_entryParts {store : LayerStore} (subject : store.Copyable v)
    (each : ∀ e ∈ es, store.Copyable e.1 ∧ store.Copyable e.2) (last : store.Copyable w) :
    ∀ p ∈ entryParts v es [w], store.Copyable p.value :=
  forall_matchParts (.of_isStructural store rfl) subject
    (List.forall_mem_map.mpr fun e member =>
      ⟨copyable_normalize (each e member).1, (each e member).2⟩)
    (List.forall_mem_singleton.mpr last)

/-- An outcome is the array of a match with these branches, and the fallback is in its place. -/
structure EndsIn (s : Session) (outcome : Except Fault Value × Session) (subject : Value)
    (es : Entries) (last : Value) : Prop where
  /-- There is an array unless something that it is made of cannot be copied. -/
  answers : s.layers.Copyable subject → (∀ e ∈ es, s.layers.Copyable e.1 ∧ s.layers.Copyable e.2) →
    s.layers.Copyable last → ∃ array s', outcome = (.ok array, s')
  /-- In the array stand the parts of the match with the fallback behind them, which makes three
  items more than two for each branch. -/
  assembles : Assembles s (entryParts subject es [last]) outcome
  ends : ∀ {array s'}, outcome = (.ok array, s') → ∃ items item, array = .list items ∧
    items.length = 2 * es.length + 3 ∧ items.getLast? = some item ∧
      (ArrayPart.operand last).IsItem item

theorem EndsIn.of_assembles {outcome : Except Fault Value × Session}
    (assembles : Assembles s (entryParts v es [w]) outcome) : EndsIn s outcome v es w where
  answers subject each last := by
    obtain ⟨array, s', answered, -, -⟩ := assembles.copyable (copyable_entryParts subject each last)
    exact ⟨array, s', answered⟩
  assembles := assembles
  ends := by
    intro array s' answered
    obtain ⟨items, rfl, stand⟩ := assembles.items answered
    have length : items.length = 2 * es.length + 3 := by
      rw [← stand.length_eq, entryParts, length_matchParts, Form.normalized, List.length_map,
        List.length_singleton]
    have backwards := List.rel_reverse stand
    rw [entryParts, ← matchParts_concat, List.reverse_concat] at backwards
    obtain ⟨item, front, isItem, -, same⟩ := List.forall₂_cons_left_iff.mp backwards
    have last : items.getLast? = some item := by
      rw [List.getLast?_eq_head?_reverse, same, List.head?_cons]
    exact ⟨items, item, rfl, length, last, isItem⟩

end Ends

/-- A match that is called with branches and a fallback is an expression, and the fallback is in its
place, in the expression and in what it forges to. -/
structure KeepsFallback (s : Session) (subject branches : Value) (es : Entries) (last : Value) :
    Prop where
  finishes : ∃ array : Act Value,
    exec (matchWith subject (some branches) (some last)) s =
      exec (do return .expression (← array)) s ∧
    EndsIn s (exec array s) subject es last
  forges : EndsIn s (exec (matchWith subject (some branches) (some last) >>= Act.forge) s) subject es
    last
  asProperty : EndsIn s (exec (propertyMatch subject branches last >>= Act.forge) s) subject es last

/-- What is given in the place of branches decides about a fallback.  With a map, however many
branches are in it, the match is finished, and as it is and as the value of a property it forges to
an array that ends in the fallback, whatever that is; only without a fallback it waits for one.
Without a map the match stays open to branches and nothing is left of the fallback: it waits for one
as if there were none, and the value of a property forges to the operator and the subject alone.

In a script the three can be given by position or by name. -/
theorem match_keeps_fallback {s : Session} {v : Value} {branches : Option Value}
    {entries : Option Entries} (stands : StandsFor s branches entries) :
    (∀ {t es}, branches = some t → entries = some es → ∀ w, KeepsFallback s v t es w) ∧
    exec (matchWith v branches none) s = (.ok (waitingMatch v entries), s) ∧
    (entries = none → ∀ w,
      exec (matchWith v branches (some w)) s = (.ok (waitingMatch v none), s) ∧
      ∀ t, branches = some t → Assembles s [.kept (.str "match"), .operand v]
        (exec (propertyMatch v t w >>= Act.forge) s)) ∧
    ∀ {scope names terms namedTerms args named last}, List.Forall₂ (Answers scope s) terms args →
      List.Forall₂ (Answers scope s) namedTerms named →
      (Arity.exactly 3).bind args (names.zip named) = some ⟨[some v, branches, last], []⟩ →
      exec (eval scope (.call (.construct .matchOn) terms ((Answers.parameters names).zip namedTerms)))
        s = exec (matchWith v branches last) s := by
  refine ⟨?_, ?_, ?_, ?_⟩
  · rintro t es rfl rfl w
    have finishes := (exec_matchWith (v := v) stands (some w)).trans
      (Answers.exec_ofProgress_finished v es w s)
    have array := assembles_finishedMatch s v es w
    refine ⟨⟨_, finishes, .of_assembles array⟩, .of_assembles ?_, .of_assembles ?_⟩
    · exact array.forged .expression (fun _ => rfl) finishes
    · exact (assembles_ofProgress s v es w).forged .property (fun _ => rfl)
        (exec_propertyMatch stands)
  · rw [exec_matchWith stands]
    cases entries <;> rfl
  · rintro rfl w
    refine ⟨(exec_matchWith stands _).trans rfl, ?_⟩
    rintro t rfl
    exact (assembles_openMatch s v w).forged .property (fun _ => rfl) (exec_propertyMatch stands)
  · exact fun each eachNamed binds => Answers.exec_call (.construct .matchOn) _ each eachNamed binds

/-- Two branches with null as the fallback, and a fallback that is given by name, without
branches. -/
theorem match_keeps_fallback_null :
    let s := Session.start ⟨"/", fun _ => .ok .empty, 80⟩
    let field := (Style.get (.str "k")).toValue
    let es : Entries := [(.str "1", .str "a"), (.str "b", field)]
    let EndsInNull (outcome : Except Fault Value × Session) : Prop :=
      ∃ items s', outcome = (.ok (.list items), s') ∧ items.length = 7 ∧ items.getLast? = some .null
    EndsInNull (exec (matchWith field (some (.map es)) (some .null) >>= Act.forge) s) ∧
    EndsInNull (exec (propertyMatch field (.map es) .null >>= Act.forge) s) ∧
    exec (eval [] (.call (.construct .matchOn) [.constant field] [(⟨2, 2⟩, .constant .null)])) s =
      (.ok (.matchChain field (.pairs [])), s) := by
  intro s field es EndsInNull
  obtain ⟨kept, -, -⟩ := match_keeps_fallback (s := s) (v := field) (.table (t := .map es) rfl)
  obtain ⟨-, forges, asProperty⟩ := kept rfl rfl .null
  obtain ⟨-, -, dropped, calls⟩ := match_keeps_fallback (s := s) (v := field) .omitted
  have plain : ∀ e ∈ es, e.1.isStructural = true ∧ e.2.isStructural = true := by decide
  have endsInNull : ∀ {outcome}, EndsIn s outcome field es .null → EndsInNull outcome := by
    intro outcome ends
    obtain ⟨array, s', forged⟩ := ends.answers (.of_isStructural _ rfl) (fun e member =>
      ⟨.of_isStructural _ (plain e member).1, .of_isStructural _ (plain e member).2⟩)
      (.of_isStructural _ rfl)
    obtain ⟨items, item, rfl, length, last, _, _, w, stands, isCopy⟩ := ends.ends forged
    cases stands
    rw [isCopy.eq_of_isStructural rfl] at last
    exact ⟨items, s', forged, length, last⟩
  have called := @calls [] [2] [.constant field] [.constant .null] [field] [.null] (some .null)
    (.cons (Answers.constant rfl) .nil) (.cons (Answers.constant rfl) .nil) rfl
  exact ⟨endsInNull forges, endsInNull asProperty, called.trans (dropped rfl .null).1⟩

/-- Without branches a fallback is lost: the match is not finished, and the value of a property
forges to an array without it. -/
theorem match_drops_fallback :
    let s := Session.start ⟨"/", fun _ => .ok .empty, 80⟩
    let field : Term := .call (.style .get) [.constant (.str "k")] []
    let given : List Term := [field, .constant .null, .constant (.int 0)]
    (∃ a, exec (eval [] (.call (.construct .matchOn) given [])) s = (.ok a, s) ∧
      ∀ array, a ≠ .expression array) ∧
    ∃ items, exec (eval [] (CallTree.forgeTerm (.call (.property .matchOn) given []))) s =
      (.ok (.list items), s) ∧ items.length ≠ 3 ∧ items.getLast? ≠ some (.int 0) := by
  intro s field given
  have answers : List.Forall₂ (Answers [] s) given
      [(Style.get (.str "k")).toValue, .null, .int 0] :=
    .cons rfl (.cons (Answers.constant rfl) (.cons (Answers.constant rfl) .nil))
  have run := Answers.exec_call (.property .matchOn) [] answers .nil rfl
  have forges : Forges [] s (.call (.property .matchOn) given []) _ :=
    .of_object .property (fun _ => rfl) (fun _ => rfl) (run.trans (exec_propertyMatch .null))
      (assembles_openMatch s _ (.int 0))
  refine ⟨⟨.matchChain (Style.get (.str "k")).toValue (.pairs []), rfl, nofun⟩,
    [.str "match", .list [.str "get", .str "k"]], forges.outcome_eq (by decide), by decide, ?_⟩
  rw [List.getLast?_cons_cons, List.getLast?_singleton]
  nofun

end MapStyle.Script
