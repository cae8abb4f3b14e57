import Mathlib.Data.Option.Basic
import MapStyle.Proofs.CommandLine.Grammar

/-!
# Requests

What a command is asked for, by the options and positional arguments of its line: of each option the
last one counts.

* `ExamplesRequest.read?_eq_some_iff` and `CheckRequest.read?_eq_some_iff` say which lines a command
  accepts, and what it is asked for then.
* `Request.read?_cases` goes from a whole command line to the line of its command.
-/

namespace MapStyle.CommandLine

open Config

/-! ## Options -/

namespace ExamplesOption

/-- The name that an option asks for. -/
def name? : ExamplesOption → Option String
  | .name wanted => some wanted
  | _ => none

/-- The config file that an option names. -/
def config? : ExamplesOption → Option String
  | .config path => some path
  | _ => none

/-- Whether an option turns color on or off. -/
def color? : ExamplesOption → Option Bool
  | .color enabled => some enabled
  | _ => none

/-- The theme that an option asks for. -/
def theme? : ExamplesOption → Option String
  | .theme wanted => some wanted
  | _ => none

/-- What the words of the `examples` command mean. -/
theorem form?_cases {word : String} {form : OptionForm ExamplesOption}
    (found : form? word = some form) :
    (word, form) ∈ [("--name", .taking .name), ("--config", .taking .config),
      ("--indent", .taking .indent), ("--color", .flag (.color true)),
      ("--no-color", .flag (.color false)), ("--out-theme", .taking .theme),
      ("--help", .flag .help)] := by
  unfold form? helpWord at found
  split_ifs at found with isName isConfig isIndent isColor isPlain isTheme isHelp <;> cases found <;>
    simp [*]

end ExamplesOption

namespace CheckOption

/-- The config file that an option names. -/
def config? : CheckOption → Option String
  | .config path => some path
  | _ => none

/-- Whether an option turns color on or off. -/
def color? : CheckOption → Option Bool
  | .color enabled => some enabled
  | _ => none

/-- What the words of the `check` command mean. -/
theorem form?_cases {word : String} {form : OptionForm CheckOption}
    (found : form? word = some form) :
    (word, form) ∈ [("--config", .taking .config), ("--color", .flag (.color true)),
      ("--no-color", .flag (.color false)), ("--help", .flag .help)] := by
  unfold form? helpWord at found
  split_ifs at found with isConfig isColor isPlain isHelp <;> cases found <;> simp [*]

end CheckOption

/-! ## Requests of the commands -/

/-- Past a guard, the guard holds. -/
theorem guard_bind_eq_some {α : Type} {p : Prop} [Decidable p] {next : Unit → Option α} {a : α} :
    ((guard p : Option Unit) >>= next) = some a ↔ p ∧ next () = some a := by
  rw [Option.bind_eq_bind, Option.bind_eq_some_iff]
  constructor
  · rintro ⟨u, holds, answers⟩
    exact ⟨(Option.guard_eq_some' u).mp holds, answers⟩
  · rintro ⟨holds, answers⟩
    exact ⟨(), (Option.guard_eq_some' ()).mpr holds, answers⟩

/-- The `examples` command accepts at most one group. -/
theorem ExamplesRequest.read?_eq_some_iff {arguments : List String} {request : ExamplesRequest} :
    read? arguments = some request ↔ ∃ s, Scans ExamplesOption.form? arguments s ∧
      .help ∉ s.options ∧ s.arguments.length ≤ 1 ∧ ∃ asked, lastIndent? s.options = some asked ∧
        request = ⟨s.arguments.head?, lastOf ExamplesOption.name? s.options,
          lastOf ExamplesOption.config? s.options, asked, lastOf ExamplesOption.color? s.options,
          lastOf ExamplesOption.theme? s.options⟩ := by
  simp only [← scan_eq_some_iff]
  unfold read?
  constructor
  · intro reads
    obtain ⟨s, scans, reads⟩ := Option.bind_eq_some_iff.mp reads
    obtain ⟨noHelp, reads⟩ := guard_bind_eq_some.mp reads
    obtain ⟨asked, indent, reads⟩ := Option.bind_eq_some_iff.mp reads
    obtain ⟨few, reads⟩ := guard_bind_eq_some.mp reads
    exact ⟨s, scans, noHelp, few, asked, indent, (Option.some.inj reads).symm⟩
  · rintro ⟨s, scans, noHelp, few, asked, indent, rfl⟩
    refine Option.bind_eq_some_iff.mpr ⟨s, scans, guard_bind_eq_some.mpr ⟨noHelp, ?_⟩⟩
    exact Option.bind_eq_some_iff.mpr ⟨asked, indent, guard_bind_eq_some.mpr ⟨few, rfl⟩⟩

/-- The `check` command wants at least one file. -/
theorem CheckRequest.read?_eq_some_iff {arguments : List String} {request : CheckRequest} :
    read? arguments = some request ↔ ∃ s, Scans CheckOption.form? arguments s ∧
      .help ∉ s.options ∧ s.arguments ≠ [] ∧
        request = ⟨s.arguments, lastOf CheckOption.config? s.options,
          lastOf CheckOption.color? s.options⟩ := by
  simp only [← scan_eq_some_iff]
  unfold read?
  constructor
  · intro reads
    obtain ⟨s, scans, reads⟩ := Option.bind_eq_some_iff.mp reads
    obtain ⟨noHelp, reads⟩ := guard_bind_eq_some.mp reads
    obtain ⟨some, reads⟩ := guard_bind_eq_some.mp reads
    rw [Bool.not_eq_true', List.isEmpty_eq_false_iff] at some
    exact ⟨s, scans, noHelp, some, (Option.some.inj reads).symm⟩
  · rintro ⟨s, scans, noHelp, some, rfl⟩
    have given : (!s.arguments.isEmpty) = true := by
      rwa [Bool.not_eq_true', List.isEmpty_eq_false_iff]
    refine Option.bind_eq_some_iff.mpr ⟨s, scans, guard_bind_eq_some.mpr ⟨noHelp, ?_⟩⟩
    exact guard_bind_eq_some.mpr ⟨given, rfl⟩

/-! ## Whole command lines -/

/-- A command line that is accepted has a command with a line of its own. -/
theorem Request.read?_cases {arguments : List String} {request : Request}
    (reads : read? arguments = some request) :
    (∃ rest asked, splitCommand arguments = some (request.verbose, Command.examples.name :: rest) ∧
      ExamplesRequest.read? rest = some asked ∧ request.action = .examples asked) ∨
    ∃ rest asked, splitCommand arguments = some (request.verbose, Command.check.name :: rest) ∧
      CheckRequest.read? rest = some asked ∧ request.action = .check asked := by
  obtain ⟨⟨verbose, rest⟩, splits, reads⟩ := Option.bind_eq_some_iff.mp reads
  dsimp only at reads
  split at reads
  · cases reads
  · next command rest' =>
      split_ifs at reads with isExamples isCheck
      · obtain ⟨asked, readsRest, rfl⟩ := Option.map_eq_some_iff.mp reads
        exact Or.inl ⟨rest', asked, isExamples ▸ splits, readsRest, rfl⟩
      · obtain ⟨asked, readsRest, rfl⟩ := Option.map_eq_some_iff.mp reads
        exact Or.inr ⟨rest', asked, isCheck ▸ splits, readsRest, rfl⟩

/-- Before a command stand only flags that ask for more to be said. -/
theorem isVerboseFlag_of_splitCommand {arguments : List String} {found : Bool × List String}
    (splits : splitCommand arguments = some found) :
    ∀ option ∈ arguments.takeWhile fun argument =>
      argument != "--" && looksLikeOption argument.toList, isVerboseFlag option.toList = true := by
  induction arguments generalizing found with
  | nil => exact nofun
  | cons argument rest ih =>
      rw [splitCommand] at splits
      rw [List.takeWhile_cons]
      split_ifs at splits with isEnd isOption isFlag
      · rw [isEnd]
        exact nofun
      · obtain ⟨inner, splitsRest, -⟩ := Option.map_eq_some_iff.mp splits
        rw [if_pos (by simp [isEnd, isOption])]
        exact List.forall_mem_cons.mpr ⟨isFlag, ih splitsRest⟩
      · rw [if_neg (by simp [isOption])]
        exact nofun

/-- A command line that is accepted asks for no help. -/
theorem HelpScreen.asked?_of_read {arguments : List String} {request : Request}
    (reads : Request.read? arguments = some request) : asked? arguments = none := by
  have notFirst : isOfProgram arguments = false := by
    obtain ⟨found, splits, -⟩ := Option.bind_eq_some_iff.mp reads
    refine Bool.eq_false_iff.mpr fun isFirst => ?_
    have among := List.contains_iff_mem.mp (Bool.and_eq_true_iff.mp isFirst).1
    exact absurd (isVerboseFlag_of_splitCommand splits helpWord among) (by decide)
  rw [asked?, notFirst, if_neg Bool.false_ne_true, ofCommand?]
  rcases Request.read?_cases reads with ⟨rest, asked, splits, readsRest, -⟩ |
    ⟨rest, asked, splits, readsRest, -⟩
  · obtain ⟨s, scans, noHelp, -⟩ := ExamplesRequest.read?_eq_some_iff.mp readsRest
    have other : (guard (ExamplesOption.help ∈ s.options) : Option Unit) = none := if_neg noHelp
    have scanned := scan_eq_some_iff.mpr scans
    simp only [splits, Option.bind_eq_bind, Option.bind_some, if_pos, scanned, other,
      Option.bind_none]
  · obtain ⟨s, scans, noHelp, -⟩ := CheckRequest.read?_eq_some_iff.mp readsRest
    have other : (guard (CheckOption.help ∈ s.options) : Option Unit) = none := if_neg noHelp
    have scanned := scan_eq_some_iff.mpr scans
    have isOther : Command.check.name ≠ Command.examples.name := by decide
    simp only [splits, Option.bind_eq_bind, Option.bind_some, if_neg isOther, if_pos, scanned, other,
      Option.bind_none]

/-- A line of the `examples` command after its word. -/
theorem Request.read?_examples {rest : List String} :
    read? (Command.examples.name :: rest) =
      (ExamplesRequest.read? rest).map fun asked => ⟨false, .examples asked⟩ := rfl

/-- A line of the `check` command after its word. -/
theorem Request.read?_check {rest : List String} :
    read? (Command.check.name :: rest) =
      (CheckRequest.read? rest).map fun asked => ⟨false, .check asked⟩ := rfl

end MapStyle.CommandLine
