import MapStyle.Config.Basic

/-!
# Files that cannot be used

A file that cannot be used is the user's problem, and is told as such, but for three reasons that
both loaders of files let through as they are: no path can hold the name, the bytes are no text, or
an integer has too many digits.

* `Document.Escapes` are the three reasons, by what stands in the file system.
* `Document.handled_iff` and `Config.loadFile_cases` say that every other file is loaded or told.
* `load_and_ofFile` says what both loaders make of a file, for every state of the file system.
-/

namespace MapStyle

namespace Document

/-- The faults of a path that no loader turns into a problem of the user. -/
inductive Escapes (files : FileSystem) (path : String) : Fault → Prop
  | badPath : files.read path = .error .badPath → Escapes files path .badPath
  | undecodable {content : ByteArray} :
    files.read path = .ok content → String.fromUTF8? content = none →
    Escapes files path .undecodable
  | oversizedInteger {content : ByteArray} {text : String} :
    files.read path = .ok content → String.fromUTF8? content = some text →
    Json.read (Text.unifyLineEnds text.toList) = .error .oversizedInteger →
    Escapes files path .oversizedInteger

/-- A result, or a problem that is told to the user. -/
def Handled {α : Type} (result : Except Fault α) : Prop :=
  (∃ a, result = .ok a) ∨ ∃ problem, result = .error (.usage problem)

/-- Whether there is a result or a problem that is told. -/
def isHandled {α : Type} : Except Fault α → Bool
  | .ok _ | .error (.usage _) => true
  | .error _ => false

theorem isHandled_iff {α : Type} {result : Except Fault α} :
    isHandled result = true ↔ Handled result := by
  unfold isHandled
  split
  · next a => exact ⟨fun _ => Or.inl ⟨a, rfl⟩, fun _ => rfl⟩
  · next problem => exact ⟨fun _ => Or.inr ⟨problem, rfl⟩, fun _ => rfl⟩
  · next fault notUsage =>
      refine ⟨nofun, ?_⟩
      rintro (⟨a, same⟩ | ⟨problem, same⟩)
      · cases same
      · exact (notUsage problem (Except.error.inj same)).elim

instance {α : Type} (result : Except Fault α) : Decidable (Handled result) :=
  decidable_of_iff _ isHandled_iff

variable {files : FileSystem} {path : String} {fault : Fault}

theorem not_handled_of_escapes {α : Type} (escapes : Escapes files path fault) :
    ¬ Handled (.error fault : Except Fault α) := by
  rintro (⟨a, same⟩ | ⟨problem, same⟩)
  · cases same
  · cases escapes <;> cases same

/-- The failures that a loader lets through. -/
def Failure.escape? : Failure → Option Fault
  | .file .badPath => some .badPath
  | .undecodable => some .undecodable
  | .text .oversizedInteger => some .oversizedInteger
  | _ => none

/-- A fault that escapes is the one of a failure that a loader lets through. -/
theorem escapes_iff :
    Escapes files path fault ↔
      ∃ failure, read? files path = .error failure ∧ failure.escape? = some fault := by
  unfold read? ofBytes
  constructor
  · rintro (refused | ⟨holds, noText⟩ | ⟨holds, decodes, tooLong⟩)
    · exact ⟨.file .badPath, by simp only [refused], rfl⟩
    · exact ⟨.undecodable, by simp only [holds, noText], rfl⟩
    · exact ⟨.text .oversizedInteger, by simp only [holds, decodes, tooLong], rfl⟩
  · rintro ⟨failure, reads, escapes⟩
    split at reads
    · next problem refused =>
        cases reads
        cases problem <;> cases escapes
        exact .badPath refused
    · next content holds =>
        split at reads
        · next noText =>
            cases reads
            cases escapes
            exact .undecodable holds noText
        · next text decodes =>
            split at reads
            · cases reads
            · next failure fails =>
                cases reads
                cases failure <;> cases escapes
                exact .oversizedInteger holds decodes fails

theorem Failure.toFault_of_escape {failure : Failure} (escapes : failure.escape? = some fault) :
    failure.toFault path = fault := by
  unfold escape? at escapes
  split at escapes <;> cases escapes <;> rfl

/-- A failure that does not escape is told. -/
theorem Failure.toFault_of_no_escape {failure : Failure} (told : failure.escape? = none) :
    ∃ problem, failure.toFault path = .usage problem := by
  unfold toFault
  split
  · exact ⟨_, rfl⟩
  · exact ⟨_, rfl⟩
  · cases told
  · exact ⟨_, rfl⟩
  · cases told
  · exact ⟨_, rfl⟩
  · cases told

theorem load_of_escapes (escapes : Escapes files path fault) : load files path = .error fault := by
  obtain ⟨failure, reads, escapes⟩ := escapes_iff.mp escapes
  rw [load, reads]
  exact congrArg Except.error (failure.toFault_of_escape escapes)

theorem read?_cases (told : ∀ fault, ¬ Escapes files path fault) :
    (∃ v, read? files path = .ok v) ∨
      ∃ failure, read? files path = .error failure ∧ failure.escape? = none := by
  cases reads : read? files path with
  | ok v => exact Or.inl ⟨v, rfl⟩
  | error failure =>
      refine Or.inr ⟨failure, rfl, Option.eq_none_iff_forall_ne_some.mpr fun fault escapes => ?_⟩
      exact told fault (escapes_iff.mpr ⟨failure, reads, escapes⟩)

/-- A file is handled if and only if nothing escapes. -/
theorem handled_iff : Handled (load files path) ↔ ∀ fault, ¬ Escapes files path fault := by
  constructor
  · intro handled fault escapes
    rw [load_of_escapes escapes] at handled
    exact not_handled_of_escapes escapes handled
  · intro told
    rcases read?_cases told with ⟨v, reads⟩ | ⟨failure, reads, told⟩
    · exact Or.inl ⟨v, by rw [load, reads]; rfl⟩
    · obtain ⟨problem, same⟩ := failure.toFault_of_no_escape told
      exact Or.inr ⟨problem, by rw [load, reads, ← same]; rfl⟩

theorem read?_of_missing (missing : files.read path = .error .missing) :
    read? files path = .error (.file .missing) := by
  rw [read?, missing]

theorem read?_eq_missing_iff :
    read? files path = .error (.file .missing) ↔ files.read path = .error .missing := by
  refine ⟨fun reads => ?_, read?_of_missing⟩
  unfold read? ofBytes at reads
  split at reads
  · next problem refused =>
      cases reads
      exact refused
  · split at reads
    · cases reads
    · split at reads <;> cases reads

end Document

namespace Config

open Document

variable {files : FileSystem} {path name : String} {fault : Fault}

theorem ofFile_of_escapes (escapes : Escapes files path fault) :
    ofFile files path = .error fault := by
  obtain ⟨failure, reads, escapes⟩ := escapes_iff.mp escapes
  rw [ofFile, reads]
  unfold Failure.escape? at escapes
  split at escapes <;> cases escapes <;> rfl

theorem ofFile_of_map {entries : Entries} (reads : read? files path = .ok (.map entries)) :
    ofFile files path = .ok (entries, false) := by
  rw [ofFile, reads]

theorem ofFile_of_missing (missing : files.read path = .error .missing) :
    ofFile files path = .ok ([], false) := by
  rw [ofFile, read?_of_missing missing]

/-- A file that is there and holds no map is malformed, unless something escapes. -/
theorem ofFile_of_other (told : ∀ fault, ¬ Escapes files path fault)
    (there : files.read path ≠ .error .missing)
    (noMap : ∀ entries, read? files path ≠ .ok (.map entries)) :
    ofFile files path = .ok ([], true) := by
  rcases read?_cases told with ⟨v, reads⟩ | ⟨failure, reads, told⟩
  · rw [ofFile, reads]
    split
    · next entries same => exact (noMap entries (reads.trans same)).elim
    · rfl
    all_goals next same => cases same
  · rw [ofFile, reads]
    match failure, told with
    | .file .missing, _ => exact (there (read?_eq_missing_iff.mp reads)).elim
    | .file .denied, _ | .file .notDirectory, _ | .file .isDirectory, _ | .file .nameTooLong, _
    | .file (.refused ..), _ | .file (.unfinished ..), _ | .text (.malformed _), _ => rfl

/-- A config file is read, as malformed or not, unless something escapes. -/
theorem ofFile_cases (told : ∀ fault, ¬ Escapes files path fault) :
    ∃ config malformed, ofFile files path = .ok (config, malformed) := by
  by_cases missing : files.read path = .error .missing
  · exact ⟨_, _, ofFile_of_missing missing⟩
  · by_cases isMap : ∃ entries, read? files path = .ok (.map entries)
    · obtain ⟨entries, reads⟩ := isMap
      exact ⟨_, _, ofFile_of_map reads⟩
    · exact ⟨_, _, ofFile_of_other told missing fun entries reads => isMap ⟨entries, reads⟩⟩

theorem loadFile_of_entries {config : Entries}
    (reads : ofFile files (Location.resolve files.workingDirectory name) = .ok (config, false)) :
    loadFile files name = ⟨warnings config,
      .ok ⟨Location.resolve files.workingDirectory name, settings config⟩⟩ := by
  dsimp only [loadFile]
  rw [reads]

/-- A config file that a user named is loaded or told to be malformed, unless something escapes. -/
theorem loadFile_cases
    (told : ∀ fault, ¬ Escapes files (Location.resolve files.workingDirectory name) fault) :
    (∃ config, (loadFile files name).result = .ok config) ∨
      (loadFile files name).result = .error (.usage .malformedConfig) := by
  obtain ⟨config, malformed, reads⟩ := ofFile_cases told
  cases malformed with
  | true =>
      right
      dsimp only [loadFile]
      rw [reads]
  | false => exact Or.inl ⟨_, congrArg Logged.result (loadFile_of_entries reads)⟩

end Config

/-- What becomes of a file, for every state of the file system at its path.  A fault that escapes is
let through by both loaders.  If none does, the file is loaded or told to the user; as a config it
is empty if it is missing, what it holds if that is a map, and malformed otherwise; and a config
file that leads there is loaded, or told to be malformed. -/
theorem load_and_ofFile (files : FileSystem) (path : String) :
    (∀ fault, Document.Escapes files path fault →
      Document.load files path = .error fault ∧ Config.ofFile files path = .error fault) ∧
    ((∀ fault, ¬ Document.Escapes files path fault) →
      Document.Handled (Document.load files path) ∧
      (files.read path = .error .missing → Config.ofFile files path = .ok ([], false)) ∧
      (∀ entries, Document.read? files path = .ok (.map entries) →
        Config.ofFile files path = .ok (entries, false)) ∧
      (files.read path ≠ .error .missing →
        (∀ entries, Document.read? files path ≠ .ok (.map entries)) →
        Config.ofFile files path = .ok ([], true)) ∧
      ∀ name, Location.resolve files.workingDirectory name = path →
        (∃ config, (Config.loadFile files name).result = .ok config) ∨
          (Config.loadFile files name).result = .error (.usage .malformedConfig)) := by
  refine ⟨fun fault escapes => ?_, fun told => ⟨?_, ?_, ?_, ?_, ?_⟩⟩
  · exact ⟨Document.load_of_escapes escapes, Config.ofFile_of_escapes escapes⟩
  · exact Document.handled_iff.mpr told
  · exact Config.ofFile_of_missing
  · exact fun entries => Config.ofFile_of_map
  · exact Config.ofFile_of_other told
  · rintro name rfl
    exact Config.loadFile_cases told

/-- A file of one byte that starts no character is neither loaded nor told, by neither loader. -/
theorem load_not_handled :
    let files := FileTree.toFileSystem ⟨"/work", 1, [(["x.json"], .bytes ⟨#[0xff]⟩)]⟩
    Document.load files "x.json" = .error .undecodable ∧
      ¬ Document.Handled (Document.load files "x.json") ∧
      Config.ofFile files "x.json" = .error .undecodable := by
  intro files
  have holds : files.read "x.json" = .ok ⟨#[0xff]⟩ := by rfl
  have noText : String.fromUTF8? ⟨#[0xff]⟩ = none := by rfl
  have escapes : Document.Escapes files "x.json" .undecodable := .undecodable holds noText
  exact ⟨Document.load_of_escapes escapes,
    fun handled => Document.handled_iff.mp handled _ escapes, Config.ofFile_of_escapes escapes⟩

end MapStyle
