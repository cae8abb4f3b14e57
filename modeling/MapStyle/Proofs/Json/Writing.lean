import MapStyle.Json.Writer
import MapStyle.Proofs.Script.Acts
import MapStyle.Proofs.Value.Parts

/-!
# What can be written

Whether a value can be written as JSON does not depend on the layout: it is the first key or part,
in the order of the document, that has no text.

* `Json.writeProblem?` finds that part, without writing anything.
* `Json.writes_or_fails` says that the writer fails with just this problem, under every indent and
  at every depth.
-/

namespace MapStyle.Json

/-- Why a key has no text. -/
def keyProblem? (key : Value) : Option WriteProblem :=
  match writeKey key with
  | .ok _ => none
  | .error problem => some problem

/-- Why an integer has no text. -/
def integerProblem? (n : Int) : Option WriteProblem :=
  if Text.integerDigitLimit < (decimalDigits n.natAbs).length then some .oversizedInteger else none

mutual

/-- The first reason in a value why it cannot be written. -/
def writeProblem? : Value → Option WriteProblem
  | .null | .bool _ | .float _ | .str _ | .broken _ => none
  | .int n => integerProblem? n
  | .list items | .tuple items => itemsProblem? items
  | .map es => entriesProblem? es
  | .record _ => some .circular
  | other => some (.unwritable other.kindName)

/-- The first reason among the items of a list. -/
def itemsProblem? : List Value → Option WriteProblem
  | [] => none
  | item :: items => (writeProblem? item).or (itemsProblem? items)

/-- The first reason among the entries of a map, in which each key comes before its value. -/
def entriesProblem? : List (Value × Value) → Option WriteProblem
  | [] => none
  | (key, v) :: es => ((keyProblem? key).or (writeProblem? v)).or (entriesProblem? es)

end

/-- A text, or failure with a problem. -/
def WritesOrFails (result : Except WriteProblem (List Char)) : Option WriteProblem → Prop
  | none => ∃ chars, result = .ok chars
  | some problem => result = .error problem

variable {indent depth : Nat}

theorem writeInteger_writesOrFails (n : Int) :
    WritesOrFails (writeInteger n) (integerProblem? n) := by
  unfold writeInteger integerProblem?
  rcases Nat.lt_or_ge Text.integerDigitLimit (decimalDigits n.natAbs).length with long | short
  · rw [if_neg (Nat.not_le.mpr long), if_pos long]
    rfl
  · rw [if_pos short, if_neg (Nat.not_lt.mpr short)]
    exact ⟨_, rfl⟩

theorem writeKey_writesOrFails (key : Value) : WritesOrFails (writeKey key) (keyProblem? key) := by
  unfold keyProblem?
  cases writeKey key with
  | ok chars => exact ⟨chars, rfl⟩
  | error problem => rfl

theorem WritesOrFails.bind {first : Except WriteProblem (List Char)} {p q : Option WriteProblem}
    {next : List Char → Except WriteProblem (List Char)} (here : WritesOrFails first p)
    (there : ∀ chars, WritesOrFails (next chars) q) : WritesOrFails (first >>= next) (p.or q) := by
  cases p with
  | none =>
      obtain ⟨chars, rfl⟩ := here
      rw [Option.none_or]
      exact there chars
  | some problem =>
      obtain rfl := here
      rfl

theorem WritesOrFails.map {first : Except WriteProblem (List Char)} {p : Option WriteProblem}
    (here : WritesOrFails first p) (f : List Char → List Char) :
    WritesOrFails (first >>= fun chars => pure (f chars)) p := by
  rw [← Option.or_none (o := p)]
  exact here.bind fun chars => ⟨f chars, rfl⟩

/-- A value that is written or fails, at every depth. -/
def Settles (indent : Nat) (v : Value) : Prop :=
  ∀ depth, WritesOrFails (write indent depth v) (writeProblem? v)

theorem items_writesOrFails {items : List Value} (each : ∀ v ∈ items, Settles indent v)
    (depth : Nat) : WritesOrFails (writeItems indent depth items) (itemsProblem? items) := by
  induction items with
  | nil => exact ⟨[], rfl⟩
  | cons item items ih =>
      rw [List.forall_mem_cons] at each
      cases items with
      | nil =>
          rw [itemsProblem?, itemsProblem?, Option.or_none]
          exact each.1 depth
      | cons next items =>
          have others := ih each.2
          rw [writeItems, itemsProblem?]
          · exact (each.1 depth).bind fun first => others.map fun rest =>
              first ++ separator indent depth ++ rest
          · exact nofun

theorem entries_writesOrFails {es : List (Value × Value)} (each : ∀ e ∈ es, Settles indent e.2)
    (depth : Nat) : WritesOrFails (writeEntries indent depth es) (entriesProblem? es) := by
  induction es with
  | nil => exact ⟨[], rfl⟩
  | cons e es ih =>
      obtain ⟨key, v⟩ := e
      rw [List.forall_mem_cons] at each
      rw [writeEntries, entriesProblem?, Option.or_assoc]
      refine (writeKey_writesOrFails key).bind fun name => (each.1 depth).bind fun first => ?_
      cases es with
      | nil => exact ⟨_, rfl⟩
      | cons next es =>
          exact (ih each.2).map fun rest =>
            name ++ [':', ' '] ++ first ++ separator indent depth ++ rest

/-- A value is written, or it cannot be written for the first reason there is, whatever the indent
and the depth are. -/
theorem writes_or_fails (indent depth : Nat) (v : Value) :
    WritesOrFails (write indent depth v) (writeProblem? v) := by
  -- the parts of a value are written one level deeper, so the depth is not fixed in the induction
  suffices settles : Settles indent v from settles depth
  clear depth
  induction v using Value.children_induction with
  | step v ih =>
      intro depth
      cases v with
      | null | bool b | float x | str s | broken symbols => exact ⟨_, rfl⟩
      | int n =>
          rw [write, writeProblem?]
          exact writeInteger_writesOrFails n
      | list items | tuple items =>
          cases items with
          | nil => exact ⟨_, rfl⟩
          | cons item items =>
              rw [write, writeProblem?]
              exact (items_writesOrFails ih (depth + 1)).map fun inner =>
                '[' :: (lineBreak indent (depth + 1) ++ inner ++ lineBreak indent depth ++ [']'])
      | map es =>
          cases es with
          | nil => exact ⟨_, rfl⟩
          | cons e es =>
              have values := fun e member => (Value.forall_mem_pairs.mp ih e member).2
              rw [write, writeProblem?]
              exact (entries_writesOrFails values (depth + 1)).map fun inner =>
                '\x7b' :: (lineBreak indent (depth + 1) ++ inner ++ lineBreak indent depth ++
                  ['\x7d'])
      | _ => rfl

/-- A value without problems has a text under every indent for which there is room. -/
theorem exists_writeText_of_room {v : Value} {indent : Int} (writable : writeProblem? v = none)
    (room : indentFault? indent = none) : ∃ text, writeText v indent = .ok text := by
  have writes := writes_or_fails indent.toNat 0 v
  rw [writable] at writes
  obtain ⟨chars, writes⟩ := writes
  unfold writeText
  split
  · exact ⟨_, rfl⟩
  · exact ⟨_, rfl⟩
  · next fault => cases room.symm.trans fault
  · rw [writes]
    exact ⟨_, rfl⟩

/-- There is room for every indent below `2 ^ 63`, and for no other. -/
theorem indentFault?_of_lt {indent : Int} (narrow : indent < Nat.pow 2 63) :
    indentFault? indent = none := by
  have greatest : greatestWidth = Nat.pow 2 63 - 1 := rfl
  rw [indentFault?, if_neg]
  omega

theorem indentFault?_of_le {indent : Int} (wide : Nat.pow 2 63 ≤ indent) :
    indentFault? indent = some .oversizedIndent := by
  have greatest : greatestWidth = Nat.pow 2 63 - 1 := rfl
  rw [indentFault?, if_pos]
  omega

/-- A text needs no indent, so it is written under every one. -/
theorem exists_writeText_of_text {v : Value} (isText : v.isText = true) (indent : Int) :
    ∃ text, writeText v indent = .ok text := by
  cases v <;> first | exact ⟨_, rfl⟩ | cases isText

/-- Where there is no room for the indent, nothing but a text is written, whatever it holds. -/
theorem writeText_of_no_room {v : Value} {indent : Int} {fault : Fault}
    (noRoom : indentFault? indent = some fault) (other : v.isText = false) :
    writeText v indent = .error fault := by
  unfold writeText
  split
  · cases other
  · cases other
  · next found => cases noRoom.symm.trans found; rfl
  · next room => cases room.symm.trans noRoom

/-- A value with a problem has no text, and the problem is what is reported. -/
theorem writeText_of_problem {v : Value} {problem : WriteProblem} {indent : Int}
    (unwritable : writeProblem? v = some problem) (room : indentFault? indent = none) :
    writeText v indent = .error (.unserializable problem) := by
  have fails : write indent.toNat 0 v = .error problem := by
    simpa [unwritable, WritesOrFails] using writes_or_fails indent.toNat 0 v
  unfold writeText
  split
  · cases unwritable
  · cases unwritable
  · next fault => cases room.symm.trans fault
  · rw [fails]

end MapStyle.Json
