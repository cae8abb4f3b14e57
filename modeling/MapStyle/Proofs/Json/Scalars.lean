import Mathlib.Algebra.Group.Nat.Defs
import Mathlib.Data.List.Basic
import Mathlib.Tactic.SplitIfs
import MapStyle.Json.Reader
import MapStyle.Json.Writer

/-!
# Texts and integers are read as they were written

What is written between quotes has every quote, backslash and control character behind a backslash,
so the reader finds the closing quote where the writer put it.  The digits of an integer end where
something else than a digit, a point or an exponent stands.

* `Json.readString_write` is the statement for texts.
* `Json.readScalar_integer` is the statement for integers.
* `Json.endsNoLine_writeChars`: a text has no line end between its quotes.
-/

namespace MapStyle.Json

/-! ## Characters -/

/-- A control character that is written by its number takes two digits after two zeros. -/
theorem hex_of_control : ∀ n < 32,
    Text.hex 4 n = ['0', '0', Nat.digitChar (n / 16), Nat.digitChar (n % 16)] := by
  decide

theorem hexDigit_digitChar : ∀ k < 16, Text.hexDigit? (Nat.digitChar k) = some k := by
  decide

theorem hexFour_hex {n : Nat} (control : n < 32) (rest : List Char) :
    hexFour? (Text.hex 4 n ++ rest) = some (n, rest) := by
  have zero : Text.hexDigit? '0' = some 0 := rfl
  have upper := hexDigit_digitChar (n / 16) (by omega)
  have lower := hexDigit_digitChar (n % 16) (by omega)
  have value : ((0 * 16 + 0) * 16 + n / 16) * 16 + n % 16 = n := by omega
  rw [hex_of_control n control]
  simp only [List.cons_append, List.nil_append, hexFour?, zero, upper, lower, Option.bind_eq_bind,
    Option.bind_some, Option.pure_def, value]

theorem symbolOf_control {c : Char} (control : c.toNat < 32) : symbolOf c.toNat = .char c := by
  unfold symbolOf isHighHalf isLowHalf
  rw [if_neg]
  · rw [Char.ofNat_toNat]
  · simp only [Bool.or_eq_true, Bool.and_eq_true, decide_eq_true_eq]
    omega

/-- A control character that is written by its number is read from it. -/
theorem readUnicode_hex {c : Char} (control : c.toNat < 32) {rest : List Char} (more : rest ≠ []) :
    readUnicode (Text.hex 4 c.toNat ++ rest) = .ok (.char c, rest) := by
  have long : ¬ (Text.hex 4 c.toNat ++ rest).length ≤ 4 := by
    rw [hex_of_control _ control, List.length_append]
    have := List.length_pos_iff.mpr more
    simp only [List.length_cons, List.length_nil]
    omega
  have noHalf : isHighHalf c.toNat = false := by
    unfold isHighHalf
    simp only [Bool.and_eq_false_iff, decide_eq_false_iff_not]
    omega
  unfold readUnicode
  rw [if_neg long, hexFour_hex control]
  dsimp only
  split
  · rw [noHalf, Bool.false_and, if_neg Bool.false_ne_true, symbolOf_control control]
  · rw [symbolOf_control control]

/-- A letter for a control character is read as that character. -/
theorem escapeLetter_of_controlLetter {c letter : Char} (isLetter : controlLetter? c = some letter) :
    letter ≠ 'u' ∧ escapeLetter? letter = some c := by
  unfold controlLetter? at isLetter
  split_ifs at isLetter with same same same same same <;> cases isLetter <;> subst same <;> decide

/-- What stands after a backslash is read as the character that it was written for. -/
theorem readEscape_of_escapeLetter {opening : Nat} {c letter : Char} (rest : List Char)
    (notNumber : letter ≠ 'u') (stands : escapeLetter? letter = some c) :
    readEscape opening (letter :: rest) = .ok (.char c, rest) := by
  unfold readEscape
  split
  · next absurd => cases absurd
  · next same =>
      cases same
      exact (notNumber rfl).elim
  · next same =>
      cases same
      rw [stands]

theorem readChars_backslash {opening fuel : Nat} {c : Char} {escaped rest : List Char}
    (reads : readEscape opening escaped = .ok (.char c, rest)) :
    readChars opening (fuel + 1) ('\\' :: escaped) = do
      let (symbols, rest') ← readChars opening fuel rest
      return (.char c :: symbols, rest') := by
  rw [readChars, if_neg (by decide), if_pos rfl, reads]
  rfl

/-- One character between quotes is read as it was written. -/
theorem readChars_writeChar {opening fuel : Nat} {c : Char} {rest : List Char} (more : rest ≠ []) :
    readChars opening (fuel + 1) (writeChar c ++ rest) = do
      let (symbols, rest') ← readChars opening fuel rest
      return (.char c :: symbols, rest') := by
  unfold writeChar
  split
  · next quoted =>
      refine readChars_backslash (readEscape_of_escapeLetter rest ?_ ?_)
      · rintro rfl
        exact absurd quoted (by decide)
      · rcases quoted with rfl | rfl <;> rfl
  · next plain =>
      split
      · next letter isLetter =>
          obtain ⟨notNumber, stands⟩ := escapeLetter_of_controlLetter isLetter
          exact readChars_backslash (readEscape_of_escapeLetter rest notNumber stands)
      · split
        · next control =>
            exact readChars_backslash (readUnicode_hex control more)
        · next visible =>
            rw [List.singleton_append, readChars, if_neg (fun same => plain (Or.inl same)),
              if_neg (fun same => plain (Or.inr same)), if_neg visible]

/-- A text is read up to its closing quote. -/
theorem readChars_write {opening fuel : Nat} {s rest : List Char} (enough : s.length < fuel) :
    readChars opening fuel (s.flatMap writeChar ++ '\x22' :: rest) = .ok (s.map .char, rest) := by
  induction s generalizing fuel with
  | nil =>
      obtain ⟨fuel, rfl⟩ := Nat.exists_eq_succ_of_ne_zero (Nat.ne_zero_of_lt enough)
      rfl
  | cons c s ih =>
      obtain ⟨fuel, rfl⟩ := Nat.exists_eq_succ_of_ne_zero (Nat.ne_zero_of_lt enough)
      rw [List.flatMap_cons, List.append_assoc, readChars_writeChar (by simp),
        ih (Nat.lt_of_succ_lt_succ enough)]
      rfl

theorem length_writeChar_pos (c : Char) : 0 < (writeChar c).length := by
  unfold writeChar
  split
  · exact Nat.succ_pos _
  · split
    · exact Nat.succ_pos _
    · split <;> exact Nat.succ_pos _

/-- What is written between quotes is at least as long as the text. -/
theorem length_le_flatMap_writeChar (s : List Char) : s.length ≤ (s.flatMap writeChar).length := by
  induction s with
  | nil => exact Nat.le_refl _
  | cons c s ih =>
      rw [List.flatMap_cons, List.length_append, List.length_cons]
      have := length_writeChar_pos c
      omega

/-- A text that was written is read as it was. -/
theorem readString_write (s rest : List Char) :
    readString (s.flatMap writeChar ++ '\x22' :: rest) = .ok (s.map .char, rest) := by
  refine readChars_write ?_
  have := length_le_flatMap_writeChar s
  rw [List.length_append]
  omega

/-! ## Line ends -/

/-- A character that ends no line. -/
def EndsNoLine (c : Char) : Prop := c ≠ '\n' ∧ c ≠ '\r'

theorem endsNoLine_of_controlLetter {c letter : Char} (isLetter : controlLetter? c = some letter) :
    EndsNoLine letter := by
  unfold controlLetter? at isLetter
  split_ifs at isLetter <;> cases isLetter <;> exact ⟨by decide, by decide⟩

theorem endsNoLine_of_all {s : List Char} (all : (s.all fun c => c != '\n' && c != '\r') = true) :
    ∀ c ∈ s, EndsNoLine c := by
  intro c member
  simpa [EndsNoLine] using List.all_eq_true.mp all c member

theorem endsNoLine_hex (n : Nat) (control : n < 32) : ∀ c ∈ Text.hex 4 n, EndsNoLine c := by
  have all : ∀ n < 32, ((Text.hex 4 n).all fun c => c != '\n' && c != '\r') = true := by decide
  exact endsNoLine_of_all (all n control)

theorem endsNoLine_writeChar {c d : Char} (member : d ∈ writeChar c) : EndsNoLine d := by
  have backslash : EndsNoLine '\\' := ⟨by decide, by decide⟩
  unfold writeChar at member
  split at member
  · next quoted =>
      rcases List.mem_pair.mp member with rfl | rfl
      · exact backslash
      · rcases quoted with rfl | rfl <;> exact ⟨by decide, by decide⟩
  · split at member
    · next letter isLetter =>
        rcases List.mem_pair.mp member with rfl | rfl
        · exact backslash
        · exact endsNoLine_of_controlLetter isLetter
    · next noLetter =>
        split at member
        · next control =>
            rcases List.mem_cons.mp member with rfl | member
            · exact backslash
            · rcases List.mem_cons.mp member with rfl | member
              · exact ⟨by decide, by decide⟩
              · exact endsNoLine_hex _ control d member
        · cases List.mem_singleton.mp member
          constructor <;> rintro rfl <;> cases noLetter

/-- A text that is written between quotes stands on one line. -/
theorem endsNoLine_writeChars {s : List Char} {d : Char} (member : d ∈ writeChars s) :
    EndsNoLine d := by
  unfold writeChars at member
  have quote : EndsNoLine '\x22' := ⟨by decide, by decide⟩
  rcases List.mem_cons.mp member with rfl | member
  · exact quote
  · rcases List.mem_append.mp member with inner | closing
    · obtain ⟨c, -, inChar⟩ := List.mem_flatMap.mp inner
      exact endsNoLine_writeChar inChar
    · cases List.mem_singleton.mp closing
      exact quote

/-! ## Integers -/

theorem digit_digitChar : ∀ k < 10, Text.asciiDigit? (Nat.digitChar k) = some k := by
  decide

/-- The digits of a number, one after the other: the last one stands for the remainder. -/
theorem decimalDigits_induction {motive : Nat → List Char → Prop}
    (single : ∀ n < 10, motive n [Nat.digitChar n])
    (more : ∀ n, 10 ≤ n → motive (n / 10) (decimalDigits (n / 10)) →
      motive n (decimalDigits (n / 10) ++ [Nat.digitChar (n % 10)])) (n : Nat) :
    motive n (decimalDigits n) := by
  induction n using Nat.strongRecOn with
  | ind n ih =>
      rcases Nat.lt_or_ge n 10 with small | large
      · rw [decimalDigits, Nat.toDigits_of_lt_base small]
        exact single n small
      · rw [decimalDigits, Nat.toDigits_of_base_le (by decide) large]
        exact more n large (ih (n / 10) (by omega))

/-- The digits of a number are digits. -/
theorem isAsciiDigit_decimalDigits (n : Nat) :
    ∀ c ∈ decimalDigits n, Text.isAsciiDigit c = true := by
  have isDigit : ∀ k < 10, Text.isAsciiDigit (Nat.digitChar k) = true := fun k small => by
    rw [Text.isAsciiDigit, digit_digitChar k small]
    rfl
  induction n using decimalDigits_induction with
  | single n small => exact List.forall_mem_singleton.mpr (isDigit n small)
  | more n large ih =>
      exact List.forall_mem_append.mpr
        ⟨ih, List.forall_mem_singleton.mpr (isDigit _ (Nat.mod_lt _ (by decide)))⟩

/-- The digits of a number denote it. -/
theorem digitsValue_decimalDigits (n : Nat) : Text.digitsValue (decimalDigits n) = n := by
  unfold Text.digitsValue
  induction n using decimalDigits_induction with
  | single n small =>
      rw [List.foldl_cons, List.foldl_nil, digit_digitChar n small, Option.getD_some]
      omega
  | more n large ih =>
      rw [List.foldl_append, ih, List.foldl_cons, List.foldl_nil,
        digit_digitChar _ (Nat.mod_lt _ (by decide)), Option.getD_some]
      omega

/-- A number that is not zero has no zero in front. -/
theorem head_decimalDigits (n : Nat) :
    ∃ d ds, decimalDigits n = d :: ds ∧ (d = '0' → ds = []) := by
  have notZero : ∀ k < 10, Nat.digitChar k = '0' → k = 0 := by decide
  have front : ∃ d ds, decimalDigits n = d :: ds ∧ (d = '0' → n = 0) := by
    induction n using decimalDigits_induction with
    | single n small => exact ⟨_, [], rfl, notZero n small⟩
    | more n large ih =>
        obtain ⟨d, ds, digits, zero⟩ := ih
        refine ⟨d, ds ++ [Nat.digitChar (n % 10)], by rw [digits]; rfl, fun isZero => ?_⟩
        have := zero isZero
        omega
  obtain ⟨d, ds, digits, zero⟩ := front
  refine ⟨d, ds, digits, fun isZero => ?_⟩
  rw [zero isZero] at digits
  exact (List.cons.inj digits).2.symm

/-- What cannot belong to the integer before it. -/
def EndsNumber (rest : List Char) : Prop :=
  ∀ c ∈ rest.head?, Text.isAsciiDigit c = false ∧ c ≠ '.' ∧ c ≠ 'e' ∧ c ≠ 'E'

theorem takeWhile_digits {digits rest : List Char} (all : ∀ c ∈ digits, Text.isAsciiDigit c = true)
    (ends : EndsNumber rest) : (digits ++ rest).takeWhile Text.isAsciiDigit = digits ∧
      (digits ++ rest).dropWhile Text.isAsciiDigit = rest := by
  have none : rest.takeWhile Text.isAsciiDigit = [] ∧ rest.dropWhile Text.isAsciiDigit = rest := by
    cases rest with
    | nil => exact ⟨rfl, rfl⟩
    | cons c rest =>
        have noDigit := (ends c rfl).1
        exact ⟨List.takeWhile_cons_of_neg (by simp [noDigit]),
          List.dropWhile_cons_of_neg (by simp [noDigit])⟩
  rw [List.takeWhile_append_of_pos all, List.dropWhile_append_of_pos all, none.1, none.2]
  exact ⟨List.append_nil _, rfl⟩

theorem readWhole_decimalDigits (n : Nat) {rest : List Char} (ends : EndsNumber rest) :
    readWhole? (decimalDigits n ++ rest) = some (decimalDigits n, rest) := by
  obtain ⟨d, ds, digits, zero⟩ := head_decimalDigits n
  obtain ⟨taken, dropped⟩ := takeWhile_digits (isAsciiDigit_decimalDigits n) ends
  unfold readWhole?
  split
  · next same =>
      rw [digits] at same ⊢
      obtain ⟨rfl, tail⟩ := List.cons.inj same
      rw [zero rfl] at tail ⊢
      rw [← tail]
      rfl
  · rw [taken, dropped, digits]
    rfl

theorem readNumber_integerDigits (n : Int) {rest : List Char} (ends : EndsNumber rest) :
    readNumber? (integerDigits n ++ rest) =
      some (⟨decide (n < 0), decimalDigits n.natAbs, none, none⟩, rest) := by
  have noFraction : readFraction rest = (none, rest) := by
    unfold readFraction
    split
    · exact ((ends _ rfl).2.1 rfl).elim
    · rfl
  have noExponent : readExponent rest = (none, rest) := by
    unfold readExponent
    split
    · next c _ =>
        rw [if_neg]
        rintro (rfl | rfl)
        · exact (ends _ rfl).2.2.1 rfl
        · exact (ends _ rfl).2.2.2 rfl
    · rfl
  obtain ⟨d, ds, digits, -⟩ := head_decimalDigits n.natAbs
  have isDigit : Text.isAsciiDigit d = true :=
    isAsciiDigit_decimalDigits n.natAbs d (by rw [digits]; exact List.mem_cons_self)
  have whole := readWhole_decimalDigits n.natAbs ends
  unfold readNumber? integerDigits
  by_cases sign : n < 0
  · rw [if_pos sign]
    simp only [List.cons_append, whole, noFraction, noExponent, sign, decide_true]
  · rw [if_neg sign]
    have unsigned : ∀ rest', decimalDigits n.natAbs ++ rest ≠ '-' :: rest' := by
      intro rest' same
      rw [digits] at same
      cases (List.cons.inj same).1
      cases isDigit
    simp only [whole, noFraction, noExponent, sign, decide_false]

/-- The start of an integer: a digit, or a minus with a digit after it, as far as there is one. -/
def startsInteger : List Char → Bool
  | [] => true
  | c :: rest => Text.isAsciiDigit c || (c == '-' && rest.head?.all Text.isAsciiDigit)

theorem startsInteger_integerDigits (n : Int) (rest : List Char) :
    startsInteger (integerDigits n ++ rest) = true := by
  obtain ⟨d, ds, digits, -⟩ := head_decimalDigits n.natAbs
  have isDigit : Text.isAsciiDigit d = true :=
    isAsciiDigit_decimalDigits n.natAbs d (by rw [digits]; exact List.mem_cons_self)
  unfold integerDigits
  rw [digits]
  split
  · exact isDigit
  · rw [List.cons_append, startsInteger, isDigit, Bool.true_or]

theorem startsInteger_of_append {w t : List Char} (starts : startsInteger (w ++ t) = true) :
    startsInteger w = true := by
  cases w with
  | nil => rfl
  | cons c w =>
      cases w with
      | nil => cases digit : Text.isAsciiDigit c <;> simp_all [startsInteger]
      | cons d w => exact starts

/-- No word begins as an integer does. -/
theorem readWord_integerDigits (n : Int) (rest : List Char) :
    readWord? (integerDigits n ++ rest) = none := by
  have noWord : words.all (fun word => !startsInteger word.1) = true := by decide
  unfold readWord?
  rw [Option.map_eq_none_iff, List.find?_eq_none]
  intro word known isPrefix
  obtain ⟨t, same⟩ := List.isPrefixOf_iff_prefix.mp isPrefix
  have starts := startsInteger_of_append (same ▸ startsInteger_integerDigits n rest)
  have not := List.all_eq_true.mp noWord word known
  rw [starts] at not
  cases not

/-- An integer of not too many digits is read as it was written. -/
theorem readScalar_integer {n : Int} (fits : n.natAbs < 10 ^ Text.integerDigitLimit)
    {rest : List Char} (ends : EndsNumber rest) :
    readScalar (integerDigits n ++ rest) = .ok (.int n, rest) := by
  have short : (decimalDigits n.natAbs).length ≤ Text.integerDigitLimit :=
    (Nat.length_toDigits_le_iff (by decide) (by decide)).mpr fits
  have signed : Binary64.signed (decide (n < 0)) n.natAbs = n := by
    unfold Binary64.signed
    split
    · next sign =>
        have := of_decide_eq_true sign
        omega
    · next sign =>
        have := of_decide_eq_false (Bool.not_eq_true _ ▸ sign)
        omega
  unfold readScalar
  rw [readWord_integerDigits, readNumber_integerDigits n ends]
  dsimp only [NumberText.value]
  rw [if_pos short, digitsValue_decimalDigits, signed]
  rfl

end MapStyle.Json
