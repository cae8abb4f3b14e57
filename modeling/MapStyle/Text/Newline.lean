/-!
# Line ends

A text file may end its lines by a line feed, a carriage return, or both.  Reading a file turns each
of them into one line feed, so that positions count characters after that.
-/

namespace MapStyle.Text

/-- The text with every line end written as one line feed. -/
def unifyLineEnds : List Char → List Char
  | [] => []
  | '\r' :: '\n' :: rest => '\n' :: unifyLineEnds rest
  | '\r' :: rest => '\n' :: unifyLineEnds rest
  | c :: rest => c :: unifyLineEnds rest

/-- The number of the line that position `index` lies in, counted from one. -/
def lineOf (s : List Char) (index : Nat) : Nat := (s.take index).count '\n' + 1

/-- The number of the column that position `index` lies in, counted from one. -/
def columnOf (s : List Char) (index : Nat) : Nat :=
  ((s.take index).reverse.takeWhile (· ≠ '\n')).length + 1

/-- A text without carriage returns is left as it is. -/
theorem unifyLineEnds_of_not_mem {s : List Char} (h : '\r' ∉ s) : unifyLineEnds s = s := by
  induction s with
  | nil => rfl
  | cons c rest ih =>
    simp only [List.mem_cons, not_or] at h
    rw [unifyLineEnds, ih h.2]
    · intro _ hc
      exact absurd hc.symm h.1
    · exact fun hc => h.1 hc.symm

end MapStyle.Text
