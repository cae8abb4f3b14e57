import MapStyle.Proofs.Script.Acts

/-!
# What an act can answer

`Act.Yields` is a postcondition for the answers of an act, whatever the session is that it starts
in. What comes before the last step of an act may answer anything, so most acts are taken apart from
behind.
-/

namespace MapStyle.Script.Act

variable {α β : Type}

/-- Every answer of an act, with the session after it, has a property. -/
def Yields (act : Act α) (post : α → Session → Prop) : Prop :=
  ∀ ⦃s a s'⦄, exec act s = (.ok a, s') → post a s'

namespace Yields

variable {post : α → Session → Prop}

theorem pure {a : α} (holds : ∀ s, post a s) : Yields (pure a) post := by
  rintro s b s' answers
  cases answers
  exact holds s

theorem throw {fault : Fault} : Yields (throw fault) post := by
  rintro s a s' answers
  cases answers

theorem bind {act : Act β} {next : β → Act α} (after : ∀ b, Yields (next b) post) :
    Yields (act >>= next) post := by
  rintro s a s' answers
  obtain ⟨b, s₁, -, rest⟩ := bind_eq_ok.mp answers
  exact after b rest

/-- The answer of the first step has a property that the rest needs. -/
theorem bind_of {act : Act β} {next : β → Act α} {between : β → Prop}
    (first : Yields act fun b _ => between b) (after : ∀ b, between b → Yields (next b) post) :
    Yields (act >>= next) post := by
  rintro s a s' answers
  obtain ⟨b, s₁, before, rest⟩ := bind_eq_ok.mp answers
  exact after b (first before) rest

theorem ofExcept {answer : Except Fault α} (holds : ∀ a, answer = .ok a → ∀ s, post a s) :
    Yields (ofExcept answer) post := by
  rintro s a s' answers
  rw [exec_ofExcept] at answers
  exact holds a (congrArg Prod.fst answers) s'

theorem ofLogged {logged : Logged (Except Fault α)}
    (holds : ∀ a, logged.result = .ok a → ∀ s, post a s) : Yields (ofLogged logged) post :=
  bind fun _ => ofExcept holds

/-- What each step of a list answers has a property. -/
theorem mapM {f : β → Act α} {each : α → Prop} {items : List β}
    (step : ∀ b ∈ items, Yields (f b) fun a _ => each a) :
    Yields (items.mapM f) fun answers _ => ∀ a ∈ answers, each a := by
  induction items with
  | nil => exact .pure fun _ => nofun
  | cons b items ih =>
      rw [List.mapM_cons]
      refine bind_of (step b List.mem_cons_self) fun a first => ?_
      refine bind_of (ih fun b' member => step b' (List.mem_cons_of_mem b member)) fun as rest => ?_
      exact .pure fun _ => List.forall_mem_cons.mpr ⟨first, rest⟩

end Yields

end MapStyle.Script.Act
