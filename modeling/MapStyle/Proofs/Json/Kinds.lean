import MapStyle.Files.Document
import MapStyle.Proofs.Script.Acts
import MapStyle.Proofs.Value.Parts

/-!
# What the reader reads

A document that is read is a text, a word, a number, a list or a map; the reader makes no objects of
the library.

* `Json.readValue_cases` says what a value that is read can be.
* `Document.noExpression_of_load` says of a file that it holds no expression.
-/

namespace MapStyle

/-- A value that is no expression. -/
def NoExpression (v : Value) : Prop := ∀ w, v ≠ .expression w

namespace Json

theorem isLeaf_of_mem_words {word : List Char × Value} (known : word ∈ words) :
    word.2.isLeaf = true := by
  have all : ∀ word ∈ words, word.2.isLeaf = true := by decide
  exact all word known

/-- What is neither a text nor a list nor a map has no parts. -/
theorem isLeaf_of_readScalar {chars rest : List Char} {v : Value}
    (reads : readScalar chars = .ok (v, rest)) : v.isLeaf = true := by
  unfold readScalar at reads
  split at reads
  · next found isWord =>
      cases reads
      obtain ⟨word, known, same⟩ := Option.map_eq_some_iff.mp isWord
      cases same
      exact isLeaf_of_mem_words (List.mem_of_find?_eq_some known)
  · split at reads
    · obtain ⟨value, denotes, same⟩ := except_bind_eq_ok.mp reads
      cases same
      unfold NumberText.value at denotes
      split at denotes
      · split at denotes <;> cases denotes
        rfl
      · cases denotes
        rfl
    · cases reads

/-- A value that is read has no parts, or it is a list, or a map whose members were read one after
the other. -/
theorem readValue_cases {fuel : Nat} {chars rest : List Char} {v : Value}
    (reads : readValue fuel chars = .ok (v, rest)) :
    v.isLeaf = true ∨ (∃ items, v = .list items) ∨ ∃ entries, v = .map entries ∧
      (entries = [] ∨ ∃ fuel inner, readMembers fuel [] inner = .ok (entries, rest)) := by
  cases fuel with
  | zero => cases reads
  | succ fuel =>
      unfold readValue at reads
      -- the first character decides: a quote, a bracket, a brace or something else
      split at reads
      · split at reads
        · obtain ⟨_, -, same⟩ := except_bind_eq_ok.mp reads
          cases same
          exact Or.inl (Value.isLeaf_of_isText (Value.isText_ofSymbols _))
        · split at reads
          · split at reads
            · cases reads
              exact Or.inr (Or.inl ⟨_, rfl⟩)
            · obtain ⟨_, -, same⟩ := except_bind_eq_ok.mp reads
              cases same
              exact Or.inr (Or.inl ⟨_, rfl⟩)
          · split at reads
            · split at reads
              · cases reads
                exact Or.inr (Or.inr ⟨_, rfl, Or.inl rfl⟩)
              · obtain ⟨⟨members, after⟩, readsMembers, same⟩ := except_bind_eq_ok.mp reads
                cases same
                exact Or.inr (Or.inr ⟨_, rfl, Or.inr ⟨_, _, readsMembers⟩⟩)
            · exact Or.inl (isLeaf_of_readScalar reads)
      · cases reads

/-- A text that is read is one value with blanks around it. -/
theorem exists_readValue_of_read {chars : List Char} {v : Value} (reads : read chars = .ok v) :
    ∃ fuel inner rest, readValue fuel inner = .ok (v, rest) := by
  unfold read at reads
  split at reads
  · next value all =>
      cases reads
      unfold readAll at all
      split at all
      · cases all
      · obtain ⟨⟨value, rest⟩, first, last⟩ := except_bind_eq_ok.mp all
        dsimp only at last
        split at last <;> cases last
        exact ⟨_, _, rest, first⟩
  · cases reads
  · cases reads

end Json

namespace Document

variable {files : FileSystem} {path : String} {v : Value}

theorem exists_readValue_of_read? (reads : read? files path = .ok v) :
    ∃ fuel inner rest, Json.readValue fuel inner = .ok (v, rest) := by
  unfold read? ofBytes at reads
  split at reads
  · cases reads
  · split at reads
    · cases reads
    · split at reads
      · next value readsText =>
          cases reads
          exact Json.exists_readValue_of_read readsText
      · cases reads

theorem noExpression_of_load (loads : load files path = .ok v) : NoExpression v := by
  unfold load at loads
  cases reads : read? files path with
  | error failure =>
      rw [reads] at loads
      cases loads
  | ok value =>
      rw [reads] at loads
      cases loads
      obtain ⟨_, _, _, readsValue⟩ := exists_readValue_of_read? reads
      rintro w rfl
      rcases Json.readValue_cases readsValue with leaf | ⟨_, same⟩ | ⟨_, same, -⟩
      · cases leaf
      · cases same
      · cases same

end Document

end MapStyle
