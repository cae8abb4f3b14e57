import MapStyle.Config.Basic
import MapStyle.Report.Lines
import MapStyle.Proofs.Json.Payloads

/-!
# Files of written payloads

A file that holds the text of a payload, with a line feed at its end or without one, is loaded as
the payload.  It does not matter under which indent the text was written.

* `Document.read_eq_ok` goes from the bytes of a file to its value.
* `Json.writeText_reads_back` is the statement for payloads.
-/

namespace MapStyle

/-- The bytes of a text are read as the text. -/
theorem fromUTF8_toUTF8 (text : String) : String.fromUTF8? text.toUTF8 = some text := by
  rw [String.toUTF8_eq_toByteArray, String.fromUTF8?, dif_pos text.isValidUTF8]
  rfl

/-- A file without carriage returns is loaded as what its text is read as. -/
theorem Document.read_eq_ok {files : FileSystem} {path text : String} {v : Value}
    (holds : files.read path = .ok text.toUTF8) (noReturn : '\r' ∉ text.toList)
    (reads : Json.readAll text.toList = .ok v) : Document.read? files path = .ok v := by
  rw [Document.read?, holds]
  dsimp only
  rw [Document.ofBytes, fromUTF8_toUTF8]
  dsimp only
  rw [Text.unifyLineEnds_of_not_mem noReturn, Json.read, reads]

namespace Json

variable {indent : Nat} {v : Value}

/-- A whole text is read as the value that it was written for, with a line feed at its end or
without one. -/
theorem readAll_written {chars rest : List Char} (written : Written indent chars v)
    (blank : Blank rest) (ends : EndsNumber rest) : readAll (chars ++ rest) = .ok v := by
  have done : skipSpace rest = [] := by
    have skipped : skipSpace (rest ++ []) = skipSpace [] := skipSpace_append blank
    rwa [List.append_nil] at skipped
  obtain ⟨c, cs, same, -, -, noMark⟩ := written.starts
  unfold readAll
  split
  · next mark =>
      rw [same] at mark
      exact (noMark (List.cons.inj mark).1).elim
  · rw [(written.starts.append rest).skipSpace, except_bind_eq_ok]
    refine ⟨_, written.reads _ rest ends ?_, ?_⟩
    · rw [List.length_append]
      omega
    · dsimp only
      rw [done]
      rfl

/-- The text of a payload is read as the payload. -/
theorem readAll_of_writes {chars : List Char} (payload : Payload v)
    (writes : write indent 0 v = .ok chars) : readAll chars = .ok v := by
  obtain ⟨text, writesText, written⟩ := payload.isWritten indent 0
  cases writes.symm.trans writesText
  have reads : readAll (chars ++ []) = .ok v := readAll_written written nofun nofun
  rwa [List.append_nil] at reads

/-- A file that holds what is written for a payload is loaded as the payload. -/
theorem load_of_writes {files : FileSystem} {path text : String} (payload : Payload v)
    (writes : write indent 0 v = .ok text.toList) (holds : files.read path = .ok text.toUTF8)
    (noReturn : '\r' ∉ text.toList) : Document.load files path = .ok v := by
  rw [Document.load, Document.read_eq_ok holds noReturn (readAll_of_writes payload writes)]
  rfl

/-- A payload has a text under every indent for which there is room, and that is the only text that
is ever written for it. -/
theorem exists_writeText (payload : Payload v) (indent : Int) :
    ∃ chars, Written indent.toNat chars v ∧
      (indentFault? indent = none → writeText v indent = .ok (String.ofList chars)) ∧
      ∀ text, writeText v indent = .ok text → text = String.ofList chars := by
  obtain ⟨chars, writes, written⟩ := payload.isWritten indent.toNat 0
  refine ⟨chars, written, fun room => ?_, fun text writesText => ?_⟩
  · unfold writeText
    split
    · cases writes
      rfl
    · cases writes
      rfl
    · next fault => cases room.symm.trans fault
    · rw [writes]
  · unfold writeText at writesText
    split at writesText
    · cases writes
      cases writesText
      rfl
    · cases writes
      cases writesText
      rfl
    · cases writesText
    · rw [writes] at writesText
      cases writesText
      rfl

/-- What is written is read back.  Under an indent for which there is room a payload has a text; the
text stands on one line unless the indent is positive; and a file that holds the text, with or
without a line feed at its end, is loaded as the payload, is checked as the payload, and is the
config that the payload is if it is a map. -/
theorem writeText_reads_back {v : Value} (payload : Payload v) (indent : Int) :
    (indentFault? indent = none → ∃ text, writeText v indent = .ok text) ∧
      ∀ text, writeText v indent = .ok text →
        (indent ≤ 0 → '\n' ∉ text.toList ∧ '\r' ∉ text.toList) ∧
          ∀ (files : FileSystem) (path ending : String), ending = "" ∨ ending = "\n" →
            files.read path = .ok (text ++ ending).toUTF8 →
            Document.load files path = .ok v ∧
              (Check.files files [path]).result = .ok [⟨path, Check.problems v⟩] ∧
              ∀ entries, v = .map entries → Config.ofFile files path = .ok (entries, false) := by
  obtain ⟨chars, written, room, only⟩ := exists_writeText payload indent
  refine ⟨fun none => ⟨_, room none⟩, fun text writes => ?_⟩
  obtain rfl := only text writes
  refine ⟨fun flat => ?_, fun files path ending isEnding holds => ?_⟩
  · rw [String.toList_ofList]
    exact ⟨fun member => (written.keepsLines _ member).2 (Int.toNat_of_nonpos flat) rfl,
      fun member => (written.keepsLines _ member).1 rfl⟩
  · have blank : Blank ending.toList := by
      rcases isEnding with rfl | rfl
      · exact nofun
      · exact List.forall_mem_singleton.mpr rfl
    have ends : EndsNumber ending.toList := by
      rcases isEnding with rfl | rfl
      · exact nofun
      · exact .of_head (by decide) []
    have text : (String.ofList chars ++ ending).toList = chars ++ ending.toList := by
      rw [String.toList_append, String.toList_ofList]
    have noReturn : '\r' ∉ chars ++ ending.toList := by
      rw [List.mem_append, not_or]
      refine ⟨fun member => (written.keepsLines _ member).1 rfl, ?_⟩
      rcases isEnding with rfl | rfl <;> decide
    have reads : Document.read? files path = .ok v :=
      Document.read_eq_ok holds (text ▸ noReturn) (text ▸ readAll_written written blank ends)
    have loads : Document.load files path = .ok v := by
      rw [Document.load, reads]
      rfl
    refine ⟨loads, ?_, ?_⟩
    · rw [Check.files, Check.documents, loads]
      rfl
    · rintro entries rfl
      rw [Config.ofFile, reads]

/-- A map with a list in it, whose file ends with a line feed. -/
theorem writeText_reads_back_map :
    let v : Value := .map [(.str "a\n", .list [.int (-10), .null, .str "é\x22"])]
    let text := "\x7b\n  \x22a\\n\x22: [\n    -10,\n    null,\n    \x22é\\\x22\x22\n  ]\n\x7d"
    let files : FileSystem := ⟨"/", fun _ => .ok (text ++ "\n").toUTF8, 80⟩
    Payload v ∧ Document.load files "style.json" = .ok v := by
  intro v text files
  have fits : (-10 : Int).natAbs < 10 ^ Text.integerDigitLimit :=
    Nat.lt_of_lt_of_le (by decide : 10 < 10 ^ 2) (Nat.pow_le_pow_right (by decide) (by decide))
  have payload : Payload v := by
    refine .map [("a\n", _)] (List.nodup_cons.mpr ⟨nofun, List.nodup_nil⟩)
      (List.forall_mem_singleton.mpr ?_)
    refine .list _ (List.forall_mem_cons.mpr ⟨.int _ fits, List.forall_mem_cons.mpr ⟨.null, ?_⟩⟩)
    exact List.forall_mem_singleton.mpr (.str _)
  have reads := (writeText_reads_back payload 2).2 text rfl
  exact ⟨payload, (reads.2 files "style.json" "\n" (Or.inr rfl) rfl).1⟩

end Json

end MapStyle
