import Mathlib.Data.List.Nodup
import Mathlib.Tactic.SplitIfs
import MapStyle.CommandLine.Run

/-!
# Settings and entries

The settings of a config are a list, of which a command takes the last one of a kind.  Since the
keys of a config are distinct, that is what stands under one key, or under the two keys for color.

* `Config.lastOf_settings` goes from the list of settings to the entry under a key.
* `Config.indentSetting_eq`, `Config.verboseSetting_eq` and `Config.colorSetting_eq` are the
  settings by their entries.
-/

namespace MapStyle

open CommandLine

namespace Setting

/-- The indent that a setting sets. -/
def indent? : Setting → Option Int
  | .indent n => some n
  | _ => none

/-- The verbosity that a setting sets. -/
def verbose? : Setting → Option Bool
  | .verbose enabled => some enabled
  | _ => none

/-- The color that a setting sets. -/
def color? : Setting → Option Bool
  | .color enabled => some enabled
  | _ => none

end Setting

variable {β : Type} {entries : Entries} {key : String}

/-- The last answer of entries that only one key can give is the answer of the entry under it. -/
theorem Entries.lastOf_eq {answer : Value × Value → Option β} (distinct : entries.keys.Nodup)
    (only : ∀ e, (answer e).isSome → e.1 = .str key) :
    lastOf answer entries = (lookupName entries key).bind fun v => answer (.str key, v) := by
  unfold lastOf
  induction entries with
  | nil => rfl
  | cons e rest ih =>
      obtain ⟨k, v⟩ := e
      obtain ⟨isNew, distinct⟩ := List.nodup_cons.mp distinct
      by_cases isKey : k = .str key
      -- the key does not come again, so nothing behind this entry answers
      · subst isKey
        have nothing : rest.filterMap answer = [] := by
          refine List.filterMap_eq_nil_iff.mpr fun e member => ?_
          refine Option.not_isSome_iff_eq_none.mp fun answers => isNew ?_
          exact List.mem_map.mpr ⟨e, member, only e answers⟩
        have found : lookupName ((.str key, v) :: rest) key = some v := by
          rw [lookupName, lookup, if_pos (by rw [Value.same_str, beq_self_eq_true])]
        rw [List.filterMap_cons, nothing, found, Option.bind_some]
        cases answer (.str key, v) <;> rfl
      · have other : ¬ k.same (.str key) = true := fun same => isKey (Value.eq_str_of_same same)
        have nothing : answer (k, v) = none :=
          Option.not_isSome_iff_eq_none.mp fun answers => isKey (only _ answers)
        rw [List.filterMap_cons_none nothing, ih distinct, lookupName, lookupName, lookup,
          if_neg other]

namespace Config

/-! ## Settings of one key -/

/-- No setting is taken from a single color entry. -/
theorem keyedSetting?_of_isColorKey {e : Value × Value} (isColor : isColorKey e.1 = true) :
    keyedSetting? e = none := by
  unfold isColorKey at isColor
  split at isColor
  · next s same =>
      rw [keyedSetting?, same]
      rcases (Bool.or_eq_true _ _).mp isColor with isKey | isKey
      · obtain rfl := eq_of_beq isKey
        rfl
      · obtain rfl := eq_of_beq isKey
        rfl
  · cases isColor

/-- The two color entries together set nothing but a color. -/
theorem colorSetting?_cases {setting : Setting}
    (sets : (colorSetting? entries).join = some setting) : ∃ enabled, setting = .color enabled := by
  unfold colorSetting? at sets
  split at sets
  · split_ifs at sets <;> cases sets
    · exact ⟨true, rfl⟩
    · exact ⟨false, rfl⟩
  · cases sets

/-- The last setting of a kind is the one of the entry under its key. -/
theorem lastOf_settings {answer : Setting → Option β} (distinct : entries.keys.Nodup)
    (notColor : ∀ enabled, answer (.color enabled) = none)
    (only : ∀ other v s, entrySetting? other v = some s → (answer s).isSome → other = key) :
    lastOf answer (settings entries) =
      ((Entries.lookupName entries key).bind (entrySetting? key)).bind answer := by
  have noColor : ((colorSetting? entries).join).toList.filterMap answer = [] := by
    refine List.filterMap_eq_nil_iff.mpr fun s member => ?_
    obtain ⟨enabled, rfl⟩ := colorSetting?_cases (Option.mem_toList.mp member)
    exact notColor enabled
  have everyEntry : ((plainEntries entries).filterMap keyedSetting?).filterMap answer =
      entries.filterMap fun e => (keyedSetting? e).bind answer := by
    rw [List.filterMap_filterMap, plainEntries, List.filterMap_filter]
    congr 1
    funext e
    cases isColor : isColorKey e.1 with
    | false => rfl
    | true =>
        rw [keyedSetting?_of_isColorKey isColor]
        rfl
  have onlyKey : ∀ e, ((keyedSetting? e).bind answer).isSome → e.1 = .str key := by
    intro e answers
    obtain ⟨b, answers⟩ := Option.isSome_iff_exists.mp answers
    obtain ⟨s, isSetting, answers⟩ := Option.bind_eq_some_iff.mp answers
    unfold keyedSetting? at isSetting
    split at isSetting
    · next other same =>
        rw [same, only other _ s isSetting (Option.isSome_iff_exists.mpr ⟨b, answers⟩)]
    · cases isSetting
  have found := Entries.lastOf_eq distinct onlyKey
  unfold lastOf at found ⊢
  rw [settings, List.filterMap_append, noColor, List.nil_append, everyEntry, found]
  cases Entries.lookupName entries key <;> rfl

/-- What an entry that is set under a name is the setting of. -/
theorem entrySetting?_cases {v : Value} {s : Setting} (sets : entrySetting? key v = some s) :
    (key = "--indent" ∧ ∃ n, s = .indent n) ∨
      (key = "--out-theme" ∧ ((∃ name, s = .theme name) ∨ ∃ name, s = .brokenTheme name)) ∨
      key = "--verbose" ∧ ∃ enabled, s = .verbose enabled := by
  unfold entrySetting? at sets
  split_ifs at sets with isIndent isTheme isVerbose
  · obtain ⟨n, -, rfl⟩ := Option.map_eq_some_iff.mp sets
    exact Or.inl ⟨isIndent, n, rfl⟩
  · split at sets
    · split_ifs at sets
      cases sets
      exact Or.inr (Or.inl ⟨isTheme, Or.inl ⟨_, rfl⟩⟩)
    · cases sets
      exact Or.inr (Or.inl ⟨isTheme, Or.inr ⟨_, rfl⟩⟩)
    · cases sets
  · split at sets <;> cases sets
    exact Or.inr (Or.inr ⟨isVerbose, _, rfl⟩)

/-- The indent that a config sets: an integer that is not negative. -/
def indentOf (entries : Entries) : Option Int :=
  match Entries.lookupName entries "--indent" with
  | some (.int n) => if 0 ≤ n then some n else none
  | _ => none

/-- The verbosity that a config sets. -/
def verboseOf (entries : Entries) : Option Bool :=
  match Entries.lookupName entries "--verbose" with
  | some (.bool b) => some b
  | _ => none

theorem indentSetting_eq (distinct : entries.keys.Nodup) :
    indentSetting (settings entries) = indentOf entries := by
  have only : ∀ other v s, entrySetting? other v = some s → (Setting.indent? s).isSome →
      other = "--indent" := by
    intro other v s sets answers
    rcases entrySetting?_cases sets with ⟨rfl, -⟩ | ⟨-, ⟨_, rfl⟩ | ⟨_, rfl⟩⟩ | ⟨-, enabled, rfl⟩
    · rfl
    all_goals cases answers
  have found := lastOf_settings distinct (fun _ => rfl) only
  have last : indentSetting (settings entries) = lastOf Setting.indent? (settings entries) := rfl
  rw [last, found, indentOf]
  cases Entries.lookupName entries "--indent" with
  | none => rfl
  | some v =>
      cases v with
      | int n =>
          rw [Option.bind_some]
          unfold entrySetting? boundedInt?
          by_cases negative : n < 0
          · simp [negative, Int.not_le.mpr negative]
          · simp [negative, Int.not_lt.mp negative, Setting.indent?]
      | _ => rfl

theorem verboseSetting_eq (distinct : entries.keys.Nodup) :
    verboseSetting (settings entries) = (verboseOf entries).getD false := by
  have only : ∀ other v s, entrySetting? other v = some s → (Setting.verbose? s).isSome →
      other = "--verbose" := by
    intro other v s sets answers
    rcases entrySetting?_cases sets with ⟨-, n, rfl⟩ | ⟨-, ⟨_, rfl⟩ | ⟨_, rfl⟩⟩ | ⟨rfl, -⟩
    · cases answers
    · cases answers
    · cases answers
    · rfl
  have found := lastOf_settings distinct (fun _ => rfl) only
  have last : verboseSetting (settings entries) =
      (lastOf Setting.verbose? (settings entries)).getD false := rfl
  rw [last, found, verboseOf]
  cases Entries.lookupName entries "--verbose" with
  | none => rfl
  | some v => cases v <;> rfl

/-! ## The color -/

/-- The color that a config asks for, if both of its entries make sense and are not both true. -/
def colorOf (entries : Entries) : Option Bool :=
  match colorEntry entries "--color", colorEntry entries "--no-color" with
  | some (some true), some (some true) => none
  | some (some true), some _ => some true
  | some _, some (some true) => some false
  | _, _ => none

theorem colorSetting_eq (entries : Entries) :
    colorSetting (settings entries) = colorOf entries := by
  have noOther : ((plainEntries entries).filterMap keyedSetting?).filterMap Setting.color? = [] := by
    refine List.filterMap_eq_nil_iff.mpr fun s member => ?_
    obtain ⟨e, -, sets⟩ := List.mem_filterMap.mp member
    unfold keyedSetting? at sets
    split at sets
    · rcases entrySetting?_cases sets with ⟨-, n, rfl⟩ | ⟨-, ⟨_, rfl⟩ | ⟨_, rfl⟩⟩ | ⟨-, enabled, rfl⟩ <;>
        rfl
    · cases sets
  have last : colorSetting (settings entries) =
      ((settings entries).filterMap Setting.color?).getLast? := rfl
  rw [last, settings, List.filterMap_append, noOther, List.append_nil, colorSetting?, colorOf]
  rcases colorEntry entries "--color" with _ | _ | _ | _ <;>
    rcases colorEntry entries "--no-color" with _ | _ | _ | _ <;> rfl

end Config

end MapStyle
