import MapStyle.Proofs.Forging.Forms
import MapStyle.Proofs.Script.Copies
import MapStyle.Proofs.Script.Tables

/-!
# Ways to write a match

The same match can be written branch by branch, with a table for the last branches or for all of
them, as one call, from the expression that it is on, or as the value of a property.  Whatever the
subject, the results and the fallback are, all of these forge to the same array.

* `MatchParts` are the terms that a match is written with, `MatchWriting` the ways to do it.
* `Forges` says that a term forges to the array of some parts, and `entryParts` are those of a
  match.
* `match_forges` compares the ways.
-/

namespace MapStyle

namespace Script

open Act

/-! ## What a term forges to -/

/-- A term forges to the array of some parts. -/
def Forges (scope : Entries) (s : Session) (term : Term) (ps : List ArrayPart) : Prop :=
  Assembles s ps (exec (eval scope (CallTree.forgeTerm term)) s)

namespace Forges

variable {scope : Entries} {s : Session} {term : Term} {ps : List ArrayPart} {act : Act Value}

/-- A term forges to a copy of the array that its object holds. -/
theorem of_object (wrap : Value → Value)
    (has : ∀ v, Method.arity? .forge (wrap v) = some (.exactly 0))
    (forges : ∀ v, Act.forge (wrap v) = copy v)
    (makes : exec (eval scope term) s = exec (do return wrap (← act)) s)
    (assembles : Assembles s ps (exec act s)) : Forges scope s term ps := by
  rw [Forges, Answers.exec_forgeTerm makes]
  · exact assembles.forged wrap forges rfl
  · intro v s' made
    obtain ⟨c, s₁, -, rest⟩ := bind_eq_ok.mp made
    cases rest
    exact has c

theorem of_expression (makes : exec (eval scope term) s = exec (do return .expression (← act)) s)
    (assembles : Assembles s ps (exec act s)) : Forges scope s term ps :=
  of_object .expression (fun _ => rfl) (fun _ => rfl) makes assembles

end Forges

/-! ## Writing a match -/

/-- The terms that a match is written with: its subject, its branches as far as they are given one
by one, a table of the others, a table of all of them, and its fallback.  The branches of the first
table are also given as terms of their own. -/
structure MatchParts where
  subject : Term
  first : List (Term × Term)
  rest : List (Term × Term)
  restTable : Term
  table : Term
  last : Term

/-- The ways to write a match. -/
inductive MatchWriting where
  | byBranch | withTable | withWholeTable | calledWithTable | atOnce | onExpression | asProperty
deriving DecidableEq

/-- A match on a subject can be written in a way: only an expression has a method for it. -/
def MatchWriting.Applies (subject : Value) : MatchWriting → Prop
  | .onExpression => ∃ array, subject = .expression array
  | _ => True

namespace MatchParts

variable (parts : MatchParts)

/-- A match that is opened on its subject. -/
def opened : Term := .call (.construct .matchOn) [parts.subject] []

/-- Branches added to a match, one by one. -/
def branchSteps (chain : Term) (entries : List (Term × Term)) : Term :=
  entries.foldl (fun chain entry => .method .branch "branch" chain [entry.1, entry.2] []) chain

/-- All branches of a table added to a match. -/
def tableStep (chain table : Term) : Term := .method .branches "branches" chain [table] []

/-- A match to which all branches are added one by one. -/
def allBranches : Term := branchSteps parts.opened (parts.first ++ parts.rest)

/-- A match written in a way. -/
def term (way : MatchWriting) : Term :=
  match way with
  | .byBranch => Form.matchEnd parts.allBranches [parts.last]
  | .withTable =>
    Form.matchEnd (tableStep (branchSteps parts.opened parts.first) parts.restTable) [parts.last]
  | .withWholeTable => Form.matchEnd (tableStep parts.opened parts.table) [parts.last]
  | .calledWithTable =>
    Form.matchEnd (.call (.construct .matchOn) [parts.subject, parts.table] []) [parts.last]
  | .atOnce => .call (.construct .matchOn) [parts.subject, parts.table, parts.last] []
  | .onExpression =>
    Form.matchEnd (.method .matchOn "match" parts.subject [parts.table] []) [parts.last]
  | .asProperty => .call (.property .matchOn) [parts.subject, parts.table, parts.last] []

end MatchParts

/-- The terms of a match have values, and the two ways to give the entries give the same. -/
structure MatchParts.Answer (parts : MatchParts) (scope : Entries) (s : Session)
    (subject : Value) (es fs : Entries) (last : Value) : Prop where
  subject : Answers scope s parts.subject subject
  first : AnswersEntries scope s parts.first es
  rest : AnswersEntries scope s parts.rest fs
  restTable : AnswersTable scope s parts.restTable fs
  table : AnswersTable scope s parts.table (es ++ fs)
  last : Answers scope s parts.last last

/-! ## Steps of a match -/

section Steps

variable {scope : Entries} {s : Session} {chain subject table last : Term} {v w : Value}
  {es fs : Entries} {parts : MatchParts}

/-- The parts of a match with these entries, and with a fallback if there is one: the keys stand as
a match has them. -/
def entryParts (subject : Value) (entries : Entries) (last : List Value) : List ArrayPart :=
  matchParts subject (Form.normalized entries) last

theorem assembles_finishedMatch (s : Session) (v : Value) (es : Entries) (w : Value) :
    Assembles s (entryParts v es [w])
      (exec (finishedArray (matchParts v (Form.normalized es) []) w) s) := by
  rw [entryParts, ← matchParts_concat]
  exact .finished s _ w

/-- A chain with some entries, to which branches can be added. -/
def Opens (scope : Entries) (s : Session) (chain : Term) (v : Value) (es : Entries) : Prop :=
  Answers scope s chain (.matchChain v (.pairs (Form.normalized es)))

/-- A chain with some entries, which takes only a fallback. -/
def Closes (scope : Entries) (s : Session) (chain : Term) (v : Value) (es : Entries) : Prop :=
  Answers scope s chain (.matchEnding v (.pairs (Form.normalized es)))

/-- Each branch goes behind those that are there. -/
theorem Opens.branchSteps {terms : List (Term × Term)} (opens : Opens scope s chain v es)
    (each : AnswersEntries scope s terms fs) :
    Opens scope s (MatchParts.branchSteps chain terms) v (es ++ fs) := by
  induction each generalizing chain es with
  | nil =>
      rw [List.append_nil]
      exact opens
  | @cons term e terms fs both _ ih =>
      have longer : Opens scope s (.method .branch "branch" chain [term.1, term.2] []) v
          (es ++ [e]) := by
        rw [Opens, Form.normalized, List.map_append]
        exact Answers.branch opens both.1 both.2
      rw [List.append_cons]
      exact ih longer

/-- All branches of a table go behind those that are there. -/
theorem Opens.tableStep (opens : Opens scope s chain v es) (answers : AnswersTable scope s table fs) :
    Closes scope s (MatchParts.tableStep chain table) v (es ++ fs) := by
  rw [Closes, Form.normalized, List.map_append]
  exact Answers.branches opens answers

/-- A chain to which branches can be added makes an expression, with a fallback or without. -/
theorem Opens.forges_build (opens : Opens scope s chain v es) :
    Forges scope s (Form.matchEnd chain []) (entryParts v es []) :=
  .of_expression (Answers.exec_buildMatch opens) (.of_parts s _)

theorem Opens.forges_fallback (opens : Opens scope s chain v es) (answers : Answers scope s last w) :
    Forges scope s (Form.matchEnd chain [last]) (entryParts v es [w]) :=
  .of_expression (Answers.exec_fallback opens answers) (assembles_finishedMatch s v es w)

theorem Closes.forges_fallback (closes : Closes scope s chain v es)
    (answers : Answers scope s last w) :
    Forges scope s (Form.matchEnd chain [last]) (entryParts v es [w]) :=
  .of_expression (Answers.exec_closingFallback closes answers) (assembles_finishedMatch s v es w)

/-- Opened with a table, a match takes only a fallback, by whatever it is opened. -/
theorem closes_of_table (answers : AnswersTable scope s table es)
    (runs : ∀ t, Answers scope s table t → exec (eval scope chain) s =
      exec (do ofProgress (Style.matchOn v (← optionalEntries t) none)) s) :
    Closes scope s chain v es := by
  obtain ⟨t, answersTable, holds⟩ := answers
  refine (runs t answersTable).trans ?_
  rw [exec_bind_of_ok (exec_optionalEntries holds)]
  rfl

theorem forges_atOnce (answersSubject : Answers scope s subject v)
    (answersTable : AnswersTable scope s table es) (answersLast : Answers scope s last w) :
    Forges scope s (.call (.construct .matchOn) [subject, table, last] []) (entryParts v es [w]) :=
  .of_expression (Answers.exec_matchAtOnce answersSubject answersTable answersLast)
    (assembles_finishedMatch s v es w)

/-- The value of a property that is a match is what the match has come to, forged. -/
theorem exec_run_propertyMatch {t : Value} {entries : Option Entries}
    (looked : exec (optionalEntries t) s = (.ok entries, s)) (v w : Value) :
    exec (Function.run (.property .matchOn) (Bound.map .value ⟨[some v, some t, some w], []⟩)) s =
      exec (do
        let array ← ofProgress (Style.matchOn v entries (some w)) >>= Act.forge
        return .property array) s := by
  change exec ((optionalEntries t >>= fun table => ofProgress (Style.matchOn v table (some w)) >>=
    Act.forge) >>= fun array => pure (Value.property array)) s = _
  rw [bind_assoc, exec_bind_of_ok looked]

/-- A match that has come to its end is forged to its array. -/
theorem assembles_ofProgress (s : Session) (v : Value) (es : Entries) (w : Value) :
    Assembles s (entryParts v es [w])
      (exec (ofProgress (Style.matchOn v (some es) (some w)) >>= Act.forge) s) :=
  (assembles_finishedMatch s v es w).forged .expression (fun _ => rfl)
    (Answers.exec_ofProgress_finished v es w s)

theorem forges_asProperty (answersSubject : Answers scope s subject v)
    (answersTable : AnswersTable scope s table es) (answersLast : Answers scope s last w) :
    Forges scope s (.call (.property .matchOn) [subject, table, last] []) (entryParts v es [w]) := by
  obtain ⟨t, answersTable, holds⟩ := answersTable
  exact .of_object .property (fun _ => rfl) (fun _ => rfl)
    ((Answers.exec_call (.property .matchOn) [] (.cons answersSubject
      (.cons answersTable (.cons answersLast .nil))) .nil rfl).trans
        (exec_run_propertyMatch (exec_optionalEntries holds) v w)) (assembles_ofProgress s v es w)

end Steps

/-! ## All ways -/

/-- All ways to write a match agree.  Each of them forges to an array in which stand the operator,
the subject, all keys as a match has them with their results, in the order of the entries and
without losing or merging any, and the fallback, where operands that are expressions are forged; and
the match without its fallback forges to an array with the same parts but the last. -/
theorem match_forges {scope : Entries} {s : Session} {parts : MatchParts} {subject last : Value}
    {es fs : Entries} (answers : parts.Answer scope s subject es fs last) :
    (∀ way : MatchWriting, way.Applies subject →
      Forges scope s (parts.term way) (entryParts subject (es ++ fs) [last])) ∧
    Forges scope s (Form.matchEnd parts.allBranches []) (entryParts subject (es ++ fs) []) := by
  have opened : Opens scope s parts.opened subject [] := Answers.matchStart answers.subject
  have allBranches : Opens scope s parts.allBranches subject (es ++ fs) :=
    opened.branchSteps (List.rel_append answers.first answers.rest)
  refine ⟨fun way applies => ?_, allBranches.forges_build⟩
  cases way with
  | byBranch => exact allBranches.forges_fallback answers.last
  | withTable =>
      have first := opened.branchSteps answers.first
      exact (first.tableStep answers.restTable).forges_fallback answers.last
  | withWholeTable => exact (opened.tableStep answers.table).forges_fallback answers.last
  | calledWithTable =>
      refine (closes_of_table answers.table fun t answersTable => ?_).forges_fallback answers.last
      exact Answers.exec_call (.construct .matchOn) []
        (.cons answers.subject (.cons answersTable .nil)) .nil rfl
  | atOnce => exact forges_atOnce answers.subject answers.table answers.last
  | onExpression =>
      obtain ⟨array, rfl⟩ := applies
      refine (closes_of_table answers.table fun t answersTable => ?_).forges_fallback answers.last
      have asFunction : ∀ table, Expression.matchOn ⟨array⟩ table =
          Style.matchOn (.expression array) table none := fun table => by cases table <;> rfl
      refine (Answers.exec_method answers.subject (.cons answersTable .nil) (by decide) rfl
        rfl).trans ?_
      change exec (do ofProgress (Expression.matchOn ⟨array⟩ (← optionalEntries t))) s = _
      simp only [asFunction]
  | asProperty => exact forges_asProperty answers.subject answers.table answers.last

/-- Two keys that denote the same number, and null as the fallback. -/
theorem match_forges_same_keys :
    let session := Session.start ⟨"/", fun _ => .ok .empty, 80⟩
    let field := Style.get (.str "x")
    let one : Value × Value := (.str "1", .str "a")
    let same : Value × Value := (.str "1.0", .str "b")
    let entry (e : Value × Value) := (Term.constant e.1, Term.constant e.2)
    let parts : MatchParts := ⟨.constant field.toValue, [entry one], [entry same],
      .constant (.map [same]), .constant (.map [one, same]), .constant .null⟩
    let array := Value.list [.str "match", .list [.str "get", .str "x"], .int 1, .str "a", .int 1,
      .str "b", .null]
    parts.Answer [] session field.toValue [one] [same] .null ∧
      ∀ way, Answers [] session (CallTree.forgeTerm (parts.term way)) array := by
  intro session field one same entry parts array
  have written : parts.Answer [] session field.toValue [one] [same] .null :=
    { subject := Answers.constant rfl
      first := .cons ⟨Answers.constant rfl, Answers.constant rfl⟩ .nil
      rest := .cons ⟨Answers.constant rfl, Answers.constant rfl⟩ .nil
      restTable := ⟨_, Answers.constant rfl, rfl⟩
      table := ⟨_, Answers.constant rfl, rfl⟩
      last := Answers.constant rfl }
  refine ⟨written, fun way => ?_⟩
  have applies : way.Applies field.toValue := by
    cases way with
    | onExpression => exact ⟨_, rfl⟩
    | _ => trivial
  exact ((match_forges written).1 way applies).outcome_eq (by decide)

end Script

end MapStyle
