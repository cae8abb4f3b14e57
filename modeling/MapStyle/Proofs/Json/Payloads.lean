import MapStyle.Proofs.Json.Kinds
import MapStyle.Proofs.Json.Scalars

/-!
# Plain payloads are read as they were written

A payload is made of null, booleans, integers, texts, lists and maps under distinct names.  Both
layouts of it, on one line and with every item on a line of its own, are read back to the same
payload, and the reader stops where the text of the payload ends.

* `Json.Payload` are the values that are meant.
* `Json.Written` says what a text must be for the writer and the reader to agree on it.
* `Json.Payload.isWritten` is the statement, by induction over the payload.
-/

namespace MapStyle.Json

/-- A map under names. -/
def named (members : List (String × Value)) : Entries := members.map fun m => (.str m.1, m.2)

/-- Plain data without doubles: its integers have not too many digits, and the names of each map
are distinct. -/
inductive Payload : Value → Prop
  | null : Payload .null
  | bool (b : Bool) : Payload (.bool b)
  | int (n : Int) : n.natAbs < 10 ^ Text.integerDigitLimit → Payload (.int n)
  | str (s : String) : Payload (.str s)
  | list (items : List Value) : (∀ v ∈ items, Payload v) → Payload (.list items)
  | map (members : List (String × Value)) : (members.map Prod.fst).Nodup →
    (∀ m ∈ members, Payload m.2) → Payload (.map (named members))

/-! ## Blanks between items -/

/-- Blanks only. -/
def Blank (gap : List Char) : Prop := ∀ c ∈ gap, isSpace c = true

theorem skipSpace_append {gap rest : List Char} (blank : Blank gap) :
    skipSpace (gap ++ rest) = skipSpace rest := List.dropWhile_append_of_pos blank

/-- Blanks are skipped up to the first other character. -/
theorem skipSpace_cons {c : Char} {rest : List Char} (other : isSpace c = false) :
    skipSpace (c :: rest) = c :: rest := List.dropWhile_cons_of_neg (by simp [other])

theorem blank_lineBreak (indent depth : Nat) : Blank (lineBreak indent depth) := by
  unfold lineBreak
  split
  · exact nofun
  · refine List.forall_mem_cons.mpr ⟨rfl, fun c member => ?_⟩
    rw [List.eq_of_mem_replicate member]
    rfl

/-- Between two items stand a comma and blanks. -/
theorem separator_eq (indent depth : Nat) :
    ∃ gap, separator indent depth = ',' :: gap ∧ Blank gap := by
  unfold separator
  split
  · exact ⟨[' '], rfl, List.forall_mem_singleton.mpr rfl⟩
  · exact ⟨_, rfl, blank_lineBreak indent depth⟩

/-- A character that belongs to no number. -/
theorem EndsNumber.of_head {c : Char}
    (other : Text.isAsciiDigit c = false ∧ c ≠ '.' ∧ c ≠ 'e' ∧ c ≠ 'E') (rest : List Char) : EndsNumber (c :: rest) := by
  rintro d same
  cases same
  exact other

/-- A number ends where a line break or the bracket after it begins. -/
theorem endsNumber_lineBreak (indent depth : Nat) {bracket : Char} {rest : List Char}
    (isBracket : EndsNumber (bracket :: rest)) :
    EndsNumber (lineBreak indent depth ++ bracket :: rest) := by
  unfold lineBreak
  split
  · exact isBracket
  · exact .of_head (by decide) _

/-- A character that ends no line that is not meant to end: there are line feeds only under an
indent, and no carriage returns. -/
def KeepsLines (indent : Nat) (c : Char) : Prop := c ≠ '\r' ∧ (indent = 0 → c ≠ '\n')

theorem EndsNoLine.keepsLines {c : Char} (endsNoLine : EndsNoLine c) (indent : Nat) :
    KeepsLines indent c := ⟨endsNoLine.2, fun _ => endsNoLine.1⟩

theorem keepsLines_lineBreak (indent depth : Nat) :
    ∀ c ∈ lineBreak indent depth, KeepsLines indent c := by
  unfold lineBreak
  split
  · exact nofun
  · next indented =>
      refine List.forall_mem_cons.mpr ⟨⟨by decide, fun none => (indented none).elim⟩, ?_⟩
      intro c member
      rw [List.eq_of_mem_replicate member]
      exact ⟨by decide, fun _ => by decide⟩

theorem keepsLines_separator (indent depth : Nat) :
    ∀ c ∈ separator indent depth, KeepsLines indent c := by
  have comma : KeepsLines indent ',' := ⟨by decide, fun _ => by decide⟩
  unfold separator
  split
  · exact List.forall_mem_cons.mpr
      ⟨comma, List.forall_mem_singleton.mpr ⟨by decide, fun _ => by decide⟩⟩
  · exact List.forall_mem_cons.mpr ⟨comma, keepsLines_lineBreak indent depth⟩

/-- What stands between two brackets, on lines of its own, keeps the lines if each part does. -/
theorem keepsLines_enclosed {indent : Nat} {opening closing : Char} {inner : List Char}
    (opens : KeepsLines indent opening) (closes : KeepsLines indent closing)
    (each : ∀ c ∈ inner, KeepsLines indent c) (depth depth' : Nat) :
    ∀ c ∈ opening :: (lineBreak indent depth ++ inner ++ lineBreak indent depth' ++ [closing]),
      KeepsLines indent c := by
  simp only [List.forall_mem_cons, List.forall_mem_append]
  exact ⟨opens, ⟨⟨keepsLines_lineBreak _ _, each⟩, keepsLines_lineBreak _ _⟩, closes, nofun⟩

/-! ## Steps of the reader -/

section Steps

variable {fuel : Nat} {s s' s'' rest : List Char} {v : Value}

theorem readItems_last (item : readValue fuel s = .ok (v, s'))
    (bracket : skipSpace s' = ']' :: rest) : readItems (fuel + 1) s = .ok ([v], rest) := by
  rw [readItems, except_bind_eq_ok]
  refine ⟨_, item, ?_⟩
  dsimp only
  rw [bracket]
  rfl

theorem readItems_more {vs : List Value} (item : readValue fuel s = .ok (v, s'))
    (comma : skipSpace s' = ',' :: s'') (others : readItems fuel (skipSpace s'') = .ok (vs, rest)) :
    readItems (fuel + 1) s = .ok (v :: vs, rest) := by
  rw [readItems, except_bind_eq_ok]
  refine ⟨_, item, ?_⟩
  dsimp only
  rw [comma]
  exact except_bind_eq_ok.mpr ⟨_, others, rfl⟩

theorem readMembers_last {before : Entries} {name : List Text.Symbol}
    (key : readName s = .ok (name, s')) (item : readValue fuel s' = .ok (v, s''))
    (bracket : skipSpace s'' = '\x7d' :: rest) :
    readMembers (fuel + 1) before s =
      .ok (Entries.put before (.ofSymbols name) v, rest) := by
  rw [readMembers, except_bind_eq_ok]
  refine ⟨_, key, except_bind_eq_ok.mpr ⟨_, item, ?_⟩⟩
  dsimp only
  rw [bracket]
  rfl

theorem readMembers_more {before entries : Entries} {name : List Text.Symbol} {s₃ : List Char}
    (key : readName s = .ok (name, s')) (item : readValue fuel s' = .ok (v, s''))
    (comma : skipSpace s'' = ',' :: s₃)
    (others : readMembers fuel (Entries.put before (.ofSymbols name) v) (skipSpace s₃) =
      .ok (entries, rest)) :
    readMembers (fuel + 1) before s = .ok (entries, rest) := by
  rw [readMembers, except_bind_eq_ok]
  refine ⟨_, key, except_bind_eq_ok.mpr ⟨_, item, ?_⟩⟩
  dsimp only
  rw [comma]
  exact others

/-- A list that is not empty is read item by item. -/
theorem readValue_list {items : List Value} {inner : List Char} (blanks : skipSpace s = inner)
    (notEmpty : ∀ more, inner ≠ ']' :: more) (reads : readItems fuel inner = .ok (items, rest)) :
    readValue (fuel + 1) ('[' :: s) = .ok (.list items, rest) := by
  rw [readValue, if_neg (by decide), if_pos rfl, blanks]
  split
  · next more => exact (notEmpty more rfl).elim
  · exact except_bind_eq_ok.mpr ⟨_, reads, rfl⟩

/-- A map that is not empty is read member by member. -/
theorem readValue_map {entries : Entries} {inner : List Char} (blanks : skipSpace s = inner)
    (notEmpty : ∀ more, inner ≠ '\x7d' :: more)
    (reads : readMembers fuel [] inner = .ok (entries, rest)) :
    readValue (fuel + 1) ('\x7b' :: s) = .ok (.map entries, rest) := by
  rw [readValue, if_neg (by decide), if_neg (by decide), if_pos rfl, blanks]
  split
  · next more => exact (notEmpty more rfl).elim
  · exact except_bind_eq_ok.mpr ⟨_, reads, rfl⟩

/-- A name is read with the colon and the blank after it. -/
theorem readName_write (name : List Char) (noSpace : skipSpace rest = rest) :
    readName (writeChars name ++ ([':', ' '] ++ rest)) = .ok (name.map .char, rest) := by
  have colon : skipSpace (':' :: ' ' :: rest) = ':' :: ' ' :: rest := skipSpace_cons (by decide)
  have blank : skipSpace (' ' :: rest) = rest := noSpace
  rw [writeChars, List.cons_append, List.append_assoc, List.singleton_append, readName, if_pos rfl,
    except_bind_eq_ok]
  refine ⟨_, readString_write name _, ?_⟩
  dsimp only [List.cons_append, List.nil_append]
  rw [colon]
  change Except.ok (name.map Text.Symbol.char, skipSpace (' ' :: rest)) = _
  rw [blank]

end Steps

/-! ## Values -/

/-- The first character of a value. -/
def StartsValue (chars : List Char) : Prop :=
  ∃ c cs, chars = c :: cs ∧ isSpace c = false ∧ c ≠ ']' ∧ c ≠ '\uFEFF'

/-- A text that is written for a value: it starts as a value does, it has line ends only where they
are meant, and it is read as the value, whatever follows that ends it. -/
structure Written (indent : Nat) (chars : List Char) (v : Value) : Prop where
  starts : StartsValue chars
  keepsLines : ∀ c ∈ chars, KeepsLines indent c
  reads : ∀ fuel rest, EndsNumber rest → 2 * chars.length ≤ fuel + 1 →
    readValue fuel (chars ++ rest) = .ok (v, rest)

section Values

variable {indent : Nat}

/-- A word is written and read as it is. -/
theorem written_word {chars : List Char} {v : Value}
    (isWord : chars = "null".toList ∧ v = .null ∨ ∃ b, chars = writeBool b ∧ v = .bool b) :
    Written indent chars v := by
  have enough : ∀ {fuel : Nat} {chars : List Char}, 0 < chars.length →
      2 * chars.length ≤ fuel + 1 → ∃ fuel', fuel = fuel' + 1 := by
    intro fuel chars some long
    exact Nat.exists_eq_succ_of_ne_zero (by omega)
  rcases isWord with ⟨rfl, rfl⟩ | ⟨_ | _, rfl, rfl⟩
  all_goals
    refine ⟨⟨_, _, rfl, by decide, by decide, by decide⟩, ?_, fun fuel rest _ long => ?_⟩
    · intro c member
      exact EndsNoLine.keepsLines (endsNoLine_of_all (by decide) c member) indent
    · obtain ⟨fuel, rfl⟩ := enough (by decide) long
      rfl

theorem writeInteger_of_fits {n : Int} (fits : n.natAbs < 10 ^ Text.integerDigitLimit) :
    writeInteger n = .ok (integerDigits n) :=
  if_pos ((Nat.length_toDigits_le_iff (by decide) (by decide)).mpr fits)

theorem written_integer {n : Int} (fits : n.natAbs < 10 ^ Text.integerDigitLimit) :
    Written indent (integerDigits n) (.int n) := by
  have start : ∃ c cs, integerDigits n = c :: cs ∧ (Text.isAsciiDigit c = true ∨ c = '-') ∧
      ∀ d ∈ cs, Text.isAsciiDigit d = true := by
    obtain ⟨d, ds, digits, -⟩ := head_decimalDigits n.natAbs
    have all := isAsciiDigit_decimalDigits n.natAbs
    unfold integerDigits
    split
    · exact ⟨'-', _, rfl, Or.inr rfl, all⟩
    · rw [digits] at all ⊢
      exact ⟨d, ds, rfl, Or.inl (all d List.mem_cons_self),
        fun c member => all c (List.mem_cons_of_mem d member)⟩
  have other : ∀ {c d : Char}, Text.isAsciiDigit c = true ∨ c = '-' → Text.isAsciiDigit d = false →
      d ≠ '-' → c ≠ d := by
    rintro c d (digit | rfl) noDigit noSign rfl
    · rw [noDigit] at digit
      cases digit
    · exact noSign rfl
  obtain ⟨c, cs, same, first, others⟩ := start
  have keeps : ∀ {d : Char}, Text.isAsciiDigit d = true ∨ d = '-' → KeepsLines indent d := fun isPart =>
    ⟨other isPart (by decide) (by decide), fun _ => other isPart (by decide) (by decide)⟩
  refine ⟨⟨c, cs, same, ?_, other first (by decide) (by decide), other first (by decide) (by decide)⟩,
    ?_, fun fuel rest ends long => ?_⟩
  · simp only [isSpace, Bool.or_eq_false_iff, beq_eq_false_iff_ne]
    exact ⟨⟨⟨other first (by decide) (by decide), other first (by decide) (by decide)⟩,
      other first (by decide) (by decide)⟩, other first (by decide) (by decide)⟩
  · rw [same]
    exact List.forall_mem_cons.mpr ⟨keeps first, fun d member => keeps (Or.inl (others d member))⟩
  -- a digit or a sign opens no text, no list and no map, so the reader takes it for a scalar
  · have scalar := readScalar_integer fits ends
    rw [same, List.length_cons] at long
    obtain ⟨fuel, rfl⟩ : ∃ fuel', fuel = fuel' + 1 := Nat.exists_eq_succ_of_ne_zero (by omega)
    rw [same, List.cons_append] at scalar ⊢
    rw [readValue, if_neg (other first (by decide) (by decide)),
      if_neg (other first (by decide) (by decide)), if_neg (other first (by decide) (by decide)),
      scalar]

theorem written_text (s : List Char) : Written indent (writeChars s) (.str (String.ofList s)) where
  starts := ⟨_, _, rfl, by decide, by decide, by decide⟩
  keepsLines := fun c member => (endsNoLine_writeChars member).keepsLines indent
  reads := by
    intro fuel rest _ long
    obtain ⟨fuel, rfl⟩ : ∃ fuel', fuel = fuel' + 1 := by
      refine Nat.exists_eq_succ_of_ne_zero ?_
      rw [writeChars, List.length_cons] at long
      omega
    rw [writeChars, List.cons_append, List.append_assoc, List.singleton_append, readValue,
      if_pos rfl, readString_write, ← Value.ofSymbols_map_char]
    rfl

/-! ## Lists -/

/-- A text that is written for the items of a list. -/
structure WrittenItems (indent : Nat) (chars : List Char) (items : List Value) : Prop where
  starts : StartsValue chars
  keepsLines : ∀ c ∈ chars, KeepsLines indent c
  reads : ∀ fuel gap rest, Blank gap → EndsNumber (gap ++ ']' :: rest) → 2 * chars.length ≤ fuel →
    readItems fuel (chars ++ (gap ++ ']' :: rest)) = .ok (items, rest)

/-- A value that is written at any depth. -/
def IsWritten (indent : Nat) (v : Value) : Prop :=
  ∀ depth, ∃ chars, write indent depth v = .ok chars ∧ Written indent chars v

theorem StartsValue.append {chars : List Char} (starts : StartsValue chars) (more : List Char) :
    StartsValue (chars ++ more) := by
  obtain ⟨c, cs, rfl, start⟩ := starts
  exact ⟨c, cs ++ more, rfl, start⟩

theorem StartsValue.skipSpace {chars : List Char} (starts : StartsValue chars) :
    skipSpace chars = chars := by
  obtain ⟨c, cs, rfl, noSpace, -⟩ := starts
  exact skipSpace_cons noSpace

theorem StartsValue.length_pos {chars : List Char} (starts : StartsValue chars) :
    0 < chars.length := by
  obtain ⟨c, cs, rfl, -⟩ := starts
  exact Nat.succ_pos _

theorem writtenItems_single {first : List Char} {item : Value} (written : Written indent first item) :
    WrittenItems indent first [item] where
  starts := written.starts
  keepsLines := written.keepsLines
  reads := by
    intro fuel gap rest blank ends long
    obtain ⟨fuel, rfl⟩ : ∃ fuel', fuel = fuel' + 1 :=
      Nat.exists_eq_succ_of_ne_zero (by have := written.starts.length_pos; omega)
    refine readItems_last (written.reads fuel _ ends (by omega)) ?_
    rw [skipSpace_append blank, skipSpace_cons (by decide)]

theorem writtenItems_cons {first gap others : List Char} {item : Value} {items : List Value}
    (written : Written indent first item) (writtenItems : WrittenItems indent others items)
    (blank : Blank gap) (keeps : ∀ c ∈ ',' :: gap, KeepsLines indent c) :
    WrittenItems indent (first ++ (',' :: gap) ++ others) (item :: items) where
  starts := (written.starts.append _).append _
  keepsLines := List.forall_mem_append.mpr
    ⟨List.forall_mem_append.mpr ⟨written.keepsLines, keeps⟩, writtenItems.keepsLines⟩
  reads := by
    intro fuel after rest blankAfter ends long
    have some := written.starts.length_pos
    obtain ⟨fuel, rfl⟩ : ∃ fuel', fuel = fuel' + 1 :=
      Nat.exists_eq_succ_of_ne_zero (by
        simp only [List.length_append, List.length_cons] at long
        omega)
    simp only [List.length_append, List.length_cons] at long
    rw [List.append_assoc, List.append_assoc, List.cons_append]
    refine readItems_more (written.reads fuel _ (.of_head (by decide) _) (by omega))
      (skipSpace_cons (by decide)) ?_
    rw [skipSpace_append blank, (writtenItems.starts.append _).skipSpace]
    exact writtenItems.reads fuel after rest blankAfter ends (by omega)

/-- The items of a list are written if each of them is. -/
theorem exists_writeItems {item : Value} {items : List Value}
    (each : ∀ v ∈ item :: items, IsWritten indent v) (depth : Nat) :
    ∃ inner, writeItems indent depth (item :: items) = .ok inner ∧
      WrittenItems indent inner (item :: items) := by
  induction items generalizing item with
  | nil =>
      obtain ⟨first, writes, written⟩ := each item List.mem_cons_self depth
      exact ⟨first, writes, writtenItems_single written⟩
  | cons next items ih =>
      obtain ⟨first, writes, written⟩ := each item List.mem_cons_self depth
      obtain ⟨others, writesOthers, writtenOthers⟩ :=
        ih fun v member => each v (List.mem_cons_of_mem _ member)
      obtain ⟨gap, same, blank⟩ := separator_eq indent depth
      refine ⟨first ++ separator indent depth ++ others, ?_, ?_⟩
      · rw [writeItems, writes, writesOthers]
        · rfl
        · exact nofun
      · rw [same]
        exact writtenItems_cons written writtenOthers blank (same ▸ keepsLines_separator indent depth)

/-- A list is written and read as it is. -/
theorem isWritten_list {items : List Value} (each : ∀ v ∈ items, IsWritten indent v) :
    IsWritten indent (.list items) := by
  intro depth
  have open' : KeepsLines indent '[' := ⟨by decide, fun _ => by decide⟩
  have close : KeepsLines indent ']' := ⟨by decide, fun _ => by decide⟩
  cases items with
  | nil =>
      refine ⟨_, rfl, ⟨_, _, rfl, by decide, by decide, by decide⟩, ?_, fun fuel rest _ long => ?_⟩
      · exact List.forall_mem_cons.mpr ⟨open', List.forall_mem_singleton.mpr close⟩
      · obtain ⟨fuel, rfl⟩ : ∃ fuel', fuel = fuel' + 1 :=
          Nat.exists_eq_succ_of_ne_zero (by simp only [List.length_cons] at long; omega)
        rfl
  | cons item items =>
      obtain ⟨inner, writes, writtenItems⟩ := exists_writeItems each (depth + 1)
      refine ⟨_, by rw [write, writes]; rfl, ⟨_, _, rfl, by decide, by decide, by decide⟩, ?_,
        fun fuel rest _ long => ?_⟩
      · exact keepsLines_enclosed open' close writtenItems.keepsLines _ _
      · simp only [List.length_cons, List.length_append] at long
        obtain ⟨fuel, rfl⟩ : ∃ fuel', fuel = fuel' + 1 := Nat.exists_eq_succ_of_ne_zero (by omega)
        simp only [List.cons_append, List.append_assoc, List.nil_append]
        have ends : EndsNumber (lineBreak indent depth ++ ']' :: rest) :=
          endsNumber_lineBreak indent depth (.of_head (by decide) rest)
        refine readValue_list
          ((skipSpace_append (blank_lineBreak _ _)).trans (writtenItems.starts.append _).skipSpace) ?_
          (writtenItems.reads fuel _ rest (blank_lineBreak _ _) ends (by omega))
        intro more same
        obtain ⟨c, cs, rfl, -, notBracket, -⟩ := writtenItems.starts
        exact notBracket (List.cons.inj same).1

/-! ## Maps -/

/-- A text that is written for the members of a map. -/
structure WrittenMembers (indent : Nat) (chars : List Char) (members : List (String × Value)) :
    Prop where
  starts : StartsValue chars
  isName : ∀ more, chars ≠ '\x7d' :: more
  keepsLines : ∀ c ∈ chars, KeepsLines indent c
  reads : ∀ fuel before gap rest, ((before ++ members).map Prod.fst).Nodup → Blank gap →
    EndsNumber (gap ++ '\x7d' :: rest) → 2 * chars.length ≤ fuel →
    readMembers fuel (named before) (chars ++ (gap ++ '\x7d' :: rest)) =
      .ok (named (before ++ members), rest)

/-- A name that is not in a map yet is written at its end. -/
theorem putName_named {before : List (String × Value)} {name : String} {v : Value}
    (isNew : name ∉ before.map Prod.fst) :
    Entries.putName (named before) name v = named (before ++ [(name, v)]) := by
  unfold Entries.putName named
  induction before with
  | nil => rfl
  | cons m before ih =>
      rw [List.map_cons, List.mem_cons, not_or] at isNew
      have other : (Value.str m.1).same (.str name) = false := by
        rw [Value.same_str]
        exact beq_false_of_ne (Ne.symm isNew.1)
      rw [List.map_cons, Entries.put, if_neg (by rw [other]; exact Bool.false_ne_true), ih isNew.2]
      rfl

/-- The text of one member: its name, a colon and its value. -/
def memberChars (name : String) (value : List Char) : List Char :=
  writeChars name.toList ++ [':', ' '] ++ value

theorem startsValue_memberChars (name : String) (value : List Char) :
    StartsValue (memberChars name value) := ⟨_, _, rfl, by decide, by decide, by decide⟩

theorem keepsLines_memberChars {value : List Char} (name : String)
    (keeps : ∀ c ∈ value, KeepsLines indent c) : ∀ c ∈ memberChars name value, KeepsLines indent c :=
  List.forall_mem_append.mpr ⟨List.forall_mem_append.mpr
    ⟨fun _ member => (endsNoLine_writeChars member).keepsLines indent,
      List.forall_mem_cons.mpr ⟨⟨by decide, fun _ => by decide⟩,
        List.forall_mem_singleton.mpr ⟨by decide, fun _ => by decide⟩⟩⟩, keeps⟩

theorem length_memberChars (name : String) (value : List Char) :
    value.length + 4 ≤ (memberChars name value).length := by
  simp only [memberChars, writeChars, List.length_append, List.length_cons, List.length_nil]
  omega

/-- The name of a member is read with the colon after it. -/
theorem readName_memberChars {name : String} {value : List Char} (starts : StartsValue value)
    (rest : List Char) :
    readName (memberChars name value ++ rest) = .ok (name.toList.map .char, value ++ rest) := by
  rw [memberChars, List.append_assoc, List.append_assoc]
  exact readName_write name.toList (starts.append rest).skipSpace

/-- The next name of a map whose names are distinct is new. -/
theorem isNew_of_nodup {before members : List (String × Value)} {name : String} {v : Value}
    (distinct : ((before ++ (name, v) :: members).map Prod.fst).Nodup) :
    name ∉ before.map Prod.fst := by
  rw [List.map_append, List.nodup_append] at distinct
  intro member
  exact distinct.2.2 name member name List.mem_cons_self rfl

theorem writtenMembers_single {value : List Char} {v : Value} (name : String)
    (written : Written indent value v) :
    WrittenMembers indent (memberChars name value) [(name, v)] where
  starts := startsValue_memberChars name value
  isName := nofun
  keepsLines := keepsLines_memberChars name written.keepsLines
  reads := by
    intro fuel before gap rest distinct blank ends long
    have := length_memberChars name value
    obtain ⟨fuel, rfl⟩ : ∃ fuel', fuel = fuel' + 1 := Nat.exists_eq_succ_of_ne_zero (by omega)
    rw [← putName_named (isNew_of_nodup distinct),
      readMembers_last (readName_memberChars written.starts _) (written.reads fuel _ ends (by omega))
        ((skipSpace_append blank).trans (skipSpace_cons (by decide))), Value.ofSymbols_map_char,
      String.ofList_toList]
    rfl

theorem writtenMembers_cons {value gap others : List Char} {v : Value}
    {members : List (String × Value)} (name : String) (written : Written indent value v)
    (writtenMembers : WrittenMembers indent others members) (blank : Blank gap)
    (keeps : ∀ c ∈ ',' :: gap, KeepsLines indent c) :
    WrittenMembers indent (memberChars name value ++ (',' :: gap) ++ others)
      ((name, v) :: members) where
  starts := ((startsValue_memberChars name value).append _).append _
  isName := nofun
  keepsLines := List.forall_mem_append.mpr
    ⟨List.forall_mem_append.mpr ⟨keepsLines_memberChars name written.keepsLines, keeps⟩,
      writtenMembers.keepsLines⟩
  reads := by
    intro fuel before after rest distinct blankAfter ends long
    have := length_memberChars name value
    simp only [List.length_append, List.length_cons] at long
    obtain ⟨fuel, rfl⟩ : ∃ fuel', fuel = fuel' + 1 := Nat.exists_eq_succ_of_ne_zero (by omega)
    have assoc : before ++ (name, v) :: members = (before ++ [(name, v)]) ++ members := by
      rw [List.append_assoc, List.singleton_append]
    rw [List.append_assoc, List.append_assoc, List.cons_append]
    refine readMembers_more (readName_memberChars written.starts _)
      (written.reads fuel _ (.of_head (by decide) _) (by omega)) (skipSpace_cons (by decide)) ?_
    have named := putName_named (v := v) (isNew_of_nodup distinct)
    rw [Entries.putName] at named
    rw [skipSpace_append blank, (writtenMembers.starts.append _).skipSpace, Value.ofSymbols_map_char,
      String.ofList_toList, named, assoc]
    exact writtenMembers.reads fuel _ after rest (assoc ▸ distinct) blankAfter ends (by omega)

/-- The members of a map are written if the values of them are. -/
theorem exists_writeEntries {member : String × Value} {members : List (String × Value)}
    (each : ∀ m ∈ member :: members, IsWritten indent m.2) (depth : Nat) :
    ∃ inner, writeEntries indent depth (named (member :: members)) = .ok inner ∧
      WrittenMembers indent inner (member :: members) := by
  induction members generalizing member with
  | nil =>
      obtain ⟨value, writes, written⟩ := each member List.mem_cons_self depth
      refine ⟨_, ?_, writtenMembers_single member.1 written⟩
      rw [named, List.map_cons, List.map_nil, writeEntries, writeKey, writes]
      rfl
  | cons next members ih =>
      obtain ⟨value, writes, written⟩ := each member List.mem_cons_self depth
      obtain ⟨others, writesOthers, writtenOthers⟩ :=
        ih fun m isMember => each m (List.mem_cons_of_mem _ isMember)
      obtain ⟨gap, same, blank⟩ := separator_eq indent depth
      refine ⟨memberChars member.1 value ++ separator indent depth ++ others, ?_, ?_⟩
      · rw [named, List.map_cons] at writesOthers ⊢
        rw [List.map_cons, writeEntries, writeKey, writes, writesOthers]
        rfl
      · rw [same]
        exact writtenMembers_cons member.1 written writtenOthers blank
          (same ▸ keepsLines_separator indent depth)

/-- A map under distinct names is written and read as it is. -/
theorem isWritten_map {members : List (String × Value)} (distinct : (members.map Prod.fst).Nodup)
    (each : ∀ m ∈ members, IsWritten indent m.2) : IsWritten indent (.map (named members)) := by
  intro depth
  have open' : KeepsLines indent '\x7b' := ⟨by decide, fun _ => by decide⟩
  have close : KeepsLines indent '\x7d' := ⟨by decide, fun _ => by decide⟩
  cases members with
  | nil =>
      refine ⟨_, rfl, ⟨_, _, rfl, by decide, by decide, by decide⟩, ?_, fun fuel rest _ long => ?_⟩
      · exact List.forall_mem_cons.mpr ⟨open', List.forall_mem_singleton.mpr close⟩
      · obtain ⟨fuel, rfl⟩ : ∃ fuel', fuel = fuel' + 1 :=
          Nat.exists_eq_succ_of_ne_zero (by simp only [List.length_cons] at long; omega)
        rfl
  | cons member members =>
      obtain ⟨inner, writes, writtenMembers⟩ := exists_writeEntries each (depth + 1)
      refine ⟨_, by rw [named, List.map_cons] at writes ⊢; rw [write, writes]; rfl,
        ⟨_, _, rfl, by decide, by decide, by decide⟩, ?_, fun fuel rest _ long => ?_⟩
      · exact keepsLines_enclosed open' close writtenMembers.keepsLines _ _
      · simp only [List.length_cons, List.length_append] at long
        obtain ⟨fuel, rfl⟩ : ∃ fuel', fuel = fuel' + 1 := Nat.exists_eq_succ_of_ne_zero (by omega)
        simp only [List.cons_append, List.append_assoc, List.nil_append]
        have ends : EndsNumber (lineBreak indent depth ++ '\x7d' :: rest) :=
          endsNumber_lineBreak indent depth (.of_head (by decide) rest)
        refine readValue_map
          ((skipSpace_append (blank_lineBreak _ _)).trans
            (writtenMembers.starts.append _).skipSpace) ?_
          (writtenMembers.reads fuel [] _ rest distinct (blank_lineBreak _ _) ends (by omega))
        intro more same
        obtain ⟨c, cs, rfl, -⟩ := writtenMembers.starts
        exact writtenMembers.isName cs (by rw [(List.cons.inj same).1])

/-! ## Payloads -/

/-- A payload is written at any depth under any indent, and read as it is. -/
theorem Payload.isWritten {v : Value} (payload : Payload v) (indent : Nat) : IsWritten indent v := by
  induction payload with
  | null => exact fun depth => ⟨_, rfl, written_word (Or.inl ⟨rfl, rfl⟩)⟩
  | bool b => exact fun depth => ⟨_, rfl, written_word (Or.inr ⟨b, rfl, rfl⟩)⟩
  | int n fits => exact fun depth => ⟨_, writeInteger_of_fits fits, written_integer fits⟩
  | str s =>
      refine fun depth => ⟨_, rfl, ?_⟩
      have written : Written indent (writeChars s.toList) (.str (String.ofList s.toList)) :=
        written_text s.toList
      rwa [String.ofList_toList] at written
  | list items _ ih => exact isWritten_list ih
  | map members distinct _ ih => exact isWritten_map distinct ih

end Values

end MapStyle.Json
