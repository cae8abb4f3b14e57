import Mathlib.Data.List.TakeWhile
import Mathlib.Tactic.SplitIfs
import MapStyle.CommandLine.Options

/-!
# The grammar of options

A line of arguments is made of options, of the values that some of them take, and of positional
arguments.  `Scans` says so by one rule for each kind of argument, and `scan_eq_some_iff` says that
`scan` accepts the lines of this grammar and reads them so.
-/

namespace MapStyle

/-! ## Cutting an argument at the equals sign -/

namespace Text

theorem cutAt_of_not_mem {separator : Char} {s : List Char} (absent : separator ∉ s) :
    cutAt separator s = (s, none) := by
  have all : ∀ c ∈ s, decide (c ≠ separator) = true := fun c member =>
    decide_eq_true fun same => absent (same ▸ member)
  rw [cutAt, List.dropWhile_eq_nil_iff.mpr all]

theorem cutAt_append {separator : Char} {name : List Char} (absent : separator ∉ name)
    (text : List Char) : cutAt separator (name ++ separator :: text) = (name, some text) := by
  have all : ∀ c ∈ name, decide (c ≠ separator) = true := fun c member =>
    decide_eq_true fun same => absent (same ▸ member)
  have stops : decide (separator ≠ separator) = false := by simp
  rw [cutAt, List.dropWhile_append_of_pos all, List.takeWhile_append_of_pos all, List.dropWhile,
    stops]
  dsimp only
  rw [List.takeWhile, stops, List.append_nil]

/-- A text without the separator is not cut; another one is put together again from its two
parts. -/
theorem cutAt_cases (separator : Char) (s : List Char) :
    (separator ∉ s ∧ cutAt separator s = (s, none)) ∨
      ∃ name text, separator ∉ name ∧ s = name ++ separator :: text ∧
        cutAt separator s = (name, some text) := by
  by_cases member : separator ∈ s
  · obtain ⟨name, text, rfl, absent⟩ := List.eq_append_cons_of_mem member
    exact Or.inr ⟨name, text, absent, rfl, cutAt_append absent text⟩
  · exact Or.inl ⟨member, cutAt_of_not_mem member⟩

theorem of_cutAt_eq_none {separator : Char} {s name : List Char}
    (cut : cutAt separator s = (name, none)) : separator ∉ s ∧ name = s := by
  rcases cutAt_cases separator s with ⟨absent, whole⟩ | ⟨_, _, _, _, parts⟩
  · exact ⟨absent, congrArg Prod.fst (cut.symm.trans whole)⟩
  · cases cut.symm.trans parts

theorem of_cutAt_eq_some {separator : Char} {s name text : List Char}
    (cut : cutAt separator s = (name, some text)) :
    separator ∉ name ∧ s = name ++ separator :: text := by
  rcases cutAt_cases separator s with ⟨_, whole⟩ | ⟨_, _, absent, same, parts⟩
  · cases cut.symm.trans whole
  · cases cut.symm.trans parts
    exact ⟨absent, same⟩

end Text

namespace CommandLine

variable {α : Type} {form? : String → Option (OptionForm α)}

/-- An argument that is read as an option. -/
def IsOption (argument : String) : Prop :=
  argument ≠ "--" ∧ looksLikeOption argument.toList = true

/-- A word with a value attached to it by an equals sign. -/
def attached (word text : String) : String := word ++ "=" ++ text

theorem toList_attached (word text : String) :
    (attached word text).toList = word.toList ++ '=' :: text.toList := by
  rw [attached, String.toList_append, String.toList_append, List.append_assoc]
  rfl

/-- The lines of options and positional arguments that a table of options allows. -/
inductive Scans (form? : String → Option (OptionForm α)) : List String → Scanned α → Prop
  | done : Scans form? [] ⟨[], []⟩
  | separator (rest : List String) : Scans form? ("--" :: rest) ⟨[], rest⟩
  | flag {word : String} {item : α} {rest : List String} {s : Scanned α} :
    IsOption word → '=' ∉ word.toList → form? word = some (.flag item) →
    Scans form? rest s → Scans form? (word :: rest) (s.withOption item)
  | attached {word text : String} {make : String → α} {rest : List String} {s : Scanned α} :
    IsOption (attached word text) → '=' ∉ word.toList → form? word = some (.taking make) →
    Scans form? rest s → Scans form? (attached word text :: rest) (s.withOption (make text))
  | separate {word text : String} {make : String → α} {rest : List String} {s : Scanned α} :
    IsOption word → '=' ∉ word.toList → form? word = some (.taking make) →
    Scans form? rest s → Scans form? (word :: text :: rest) (s.withOption (make text))
  | positional {argument : String} {rest : List String} {s : Scanned α} :
    looksLikeOption argument.toList = false →
    Scans form? rest s → Scans form? (argument :: rest) (s.withArgument argument)

/-! ## One argument at a time -/

section Steps

variable {word text argument : String} {rest : List String} {item : α} {make : String → α}

theorem scan_separator (rest : List String) : scan form? ("--" :: rest) = some ⟨[], rest⟩ := by
  rw [scan, if_pos rfl]

theorem scan_flag (isOption : IsOption word) (bare : '=' ∉ word.toList)
    (form : form? word = some (.flag item)) :
    scan form? (word :: rest) = (scan form? rest).map (·.withOption item) := by
  rw [scan, if_neg isOption.1, if_pos isOption.2, Text.cutAt_of_not_mem bare]
  dsimp only
  rw [String.ofList_toList, form]

theorem scan_attached (isOption : IsOption (attached word text)) (bare : '=' ∉ word.toList)
    (form : form? word = some (.taking make)) :
    scan form? (attached word text :: rest) =
      (scan form? rest).map (·.withOption (make text)) := by
  rw [scan, if_neg isOption.1, if_pos isOption.2, toList_attached, Text.cutAt_append bare]
  dsimp only
  rw [String.ofList_toList, form]
  dsimp only
  rw [String.ofList_toList]

theorem scan_separate (isOption : IsOption word) (bare : '=' ∉ word.toList)
    (form : form? word = some (.taking make)) :
    scan form? (word :: text :: rest) = (scan form? rest).map (·.withOption (make text)) := by
  rw [scan, if_neg isOption.1, if_pos isOption.2, Text.cutAt_of_not_mem bare]
  dsimp only
  rw [String.ofList_toList, form]

theorem scan_positional (plain : looksLikeOption argument.toList = false) :
    scan form? (argument :: rest) = (scan form? rest).map (·.withArgument argument) := by
  have notSeparator : argument ≠ "--" := by
    rintro rfl
    cases plain
  rw [scan, if_neg notSeparator, if_neg (Bool.eq_false_iff.mp plain)]

end Steps

/-- A word that is not cut is its own name. -/
theorem bare_of_cut {word : String} {name : List Char}
    (cut : Text.cutAt '=' word.toList = (name, none)) :
    '=' ∉ word.toList ∧ String.ofList name = word := by
  obtain ⟨bare, rfl⟩ := Text.of_cutAt_eq_none cut
  exact ⟨bare, String.ofList_toList⟩

/-- A word that is cut has a value attached to its name. -/
theorem attached_of_cut {argument : String} {name text : List Char}
    (cut : Text.cutAt '=' argument.toList = (name, some text)) :
    '=' ∉ (String.ofList name).toList ∧
      argument = attached (String.ofList name) (String.ofList text) := by
  obtain ⟨absent, same⟩ := Text.of_cutAt_eq_some cut
  refine ⟨by rwa [String.toList_ofList], String.toList_inj.mp ?_⟩
  rw [toList_attached, String.toList_ofList, String.toList_ofList, same]

/-- A line is accepted, with what is read from it, just as the grammar says. -/
theorem scan_eq_some_iff {arguments : List String} {scanned : Scanned α} :
    scan form? arguments = some scanned ↔ Scans form? arguments scanned := by
  constructor
  · intro scans
    -- the cases are those of the scan: one for each rule, and three in which nothing is accepted
    fun_induction scan form? arguments generalizing scanned with
    | case1 =>
        cases scans
        exact .done
    | case2 rest =>
        cases scans
        exact .separator rest
    | case3 | case5 | case7 => cases scans
    | case4 rest word notSeparator looks name item form cut ih =>
        obtain ⟨s, scansRest, rfl⟩ := Option.map_eq_some_iff.mp scans
        obtain ⟨bare, same⟩ := bare_of_cut cut
        exact .flag ⟨notSeparator, looks⟩ bare (same ▸ form) (ih scansRest)
    | case6 rest argument notSeparator looks name make text form cut ih =>
        obtain ⟨s, scansRest, rfl⟩ := Option.map_eq_some_iff.mp scans
        obtain ⟨bare, rfl⟩ := attached_of_cut cut
        exact .attached ⟨notSeparator, looks⟩ bare form (ih scansRest)
    | case8 word notSeparator looks name make form text rest cut ih =>
        obtain ⟨s, scansRest, rfl⟩ := Option.map_eq_some_iff.mp scans
        obtain ⟨bare, same⟩ := bare_of_cut cut
        exact .separate ⟨notSeparator, looks⟩ bare (same ▸ form) (ih scansRest)
    | case9 rest argument notSeparator looks ih =>
        obtain ⟨s, scansRest, rfl⟩ := Option.map_eq_some_iff.mp scans
        exact .positional (Bool.eq_false_iff.mpr looks) (ih scansRest)
  · intro scans
    induction scans with
    | done => rfl
    | separator rest => exact scan_separator rest
    | flag isOption bare form _ ih => rw [scan_flag isOption bare form, ih]; rfl
    | attached isOption bare form _ ih => rw [scan_attached isOption bare form, ih]; rfl
    | separate isOption bare form _ ih => rw [scan_separate isOption bare form, ih]; rfl
    | positional plain _ ih => rw [scan_positional plain, ih]; rfl

/-! ## Arguments after options -/

/-- Positional arguments can follow a line of options. -/
theorem Scans.append_positional {options files : List String} {s : Scanned α}
    (scans : Scans form? options s) (noOther : s.arguments = [])
    (positional : ∀ file ∈ files, looksLikeOption file.toList = false) :
    Scans form? (options ++ files) ⟨s.options, files⟩ := by
  induction scans with
  | done =>
      induction files with
      | nil => exact .done
      | cons file files ih =>
          have rest := ih fun other member => positional other (List.mem_cons_of_mem file member)
          exact .positional (positional file List.mem_cons_self) rest
  | separator rest =>
      obtain rfl : rest = [] := noOther
      exact .separator files
  | flag isOption bare form _ ih => exact .flag isOption bare form (ih noOther)
  | attached isOption bare form _ ih => exact .attached isOption bare form (ih noOther)
  | separate isOption bare form _ ih => exact .separate isOption bare form (ih noOther)
  | positional => cases noOther

end CommandLine

end MapStyle
