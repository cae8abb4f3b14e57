import MapStyle.Proofs.Config.Entries
import MapStyle.Proofs.Script.Tables
import MapStyle.Proofs.Value.Names

/-!
# Defaults from a config

Every entry of a config but the two for color acts alone, so the defaults that a config gives do not
depend on the order of its entries, nor on the entries that are skipped.

* `Config.SetsAlone` says what an entry sets by itself, `Config.Skips` which entries set nothing,
  and `Config.ColorMistake` when the color entries make no sense.
* `Config.IsDefaults` are the defaults of a config, entry by entry.
* `Script.exec_configDefaults` is the statement about all configs, with the warnings.
-/

namespace MapStyle

namespace Config

variable {es fs : Entries} {e : Value × Value} {setting : Setting} {keep : Value × Value → Bool}

/-! ## Entries that act alone -/

/-- What an entry sets by itself: an integer that is not negative the indent, a text that is not all
blank the theme, and a boolean the verbosity.  Half of a character is no blank. -/
inductive SetsAlone : Value × Value → Setting → Prop
  | indent {n : Int} : 0 ≤ n → SetsAlone (.str "--indent", .int n) (.indent n)
  | theme {name : String} : (∃ c ∈ name.toList, Text.isBlank c = false) →
    SetsAlone (.str "--out-theme", .str name) (.theme name)
  | brokenTheme {symbols : List Text.Symbol} :
    SetsAlone (.str "--out-theme", .broken symbols) (.brokenTheme symbols)
  | verbose {enabled : Bool} : SetsAlone (.str "--verbose", .bool enabled) (.verbose enabled)

theorem isAllBlank_eq_false_iff {text : List Char} :
    Text.isAllBlank text = false ↔ ∃ c ∈ text, Text.isBlank c = false := by
  rw [Text.isAllBlank, List.all_eq_false]
  simp only [Bool.not_eq_true]

theorem setsAlone_of_entrySetting? {key : String} {v : Value}
    (sets : entrySetting? key v = some setting) : SetsAlone (.str key, v) setting := by
  unfold entrySetting? at sets
  split_ifs at sets with isIndent isTheme isVerbose
  · subst isIndent
    obtain ⟨n, bounded, rfl⟩ := Option.map_eq_some_iff.mp sets
    cases v with
    | int m =>
        unfold boundedInt? at bounded
        dsimp only at bounded
        split_ifs at bounded with negative
        cases bounded
        exact .indent (Int.not_lt.mp negative)
    | _ => cases bounded
  · subst isTheme
    cases v with
    | str name =>
        dsimp only at sets
        split_ifs at sets with blank
        cases sets
        exact .theme (isAllBlank_eq_false_iff.mp (Bool.not_eq_true _ ▸ blank))
    | broken symbols =>
        cases sets
        exact .brokenTheme
    | _ => cases sets
  · subst isVerbose
    cases v with
    | bool enabled =>
        cases sets
        exact .verbose
    | _ => cases sets

/-- The setting of an entry is what it sets by itself. -/
theorem keyedSetting?_eq_some_iff : keyedSetting? e = some setting ↔ SetsAlone e setting := by
  constructor
  · intro sets
    obtain ⟨key, v⟩ := e
    cases key with
    | str key => exact setsAlone_of_entrySetting? sets
    | _ => cases sets
  · intro sets
    cases sets with
    | indent least =>
        have notBelow := Int.not_lt.mpr least
        simp [keyedSetting?, entrySetting?, boundedInt?, notBelow]
    | theme given =>
        have notBlank := isAllBlank_eq_false_iff.mpr given
        simp [keyedSetting?, entrySetting?, notBlank]
    | brokenTheme => rfl
    | verbose => rfl

/-- An entry that is skipped: it is not one for color, and it sets nothing by itself. -/
def Skips (e : Value × Value) : Prop :=
  e.1 ≠ .str "--color" ∧ e.1 ≠ .str "--no-color" ∧ ∀ setting, ¬ SetsAlone e setting

theorem isColorKey_eq_true_iff {key : Value} :
    isColorKey key = true ↔ key = .str "--color" ∨ key = .str "--no-color" := by
  cases key <;> simp [isColorKey]

theorem skips_iff : Skips e ↔ isColorKey e.1 = false ∧ keyedSetting? e = none := by
  rw [Skips, Option.eq_none_iff_forall_ne_some, ← Bool.not_eq_true, isColorKey_eq_true_iff, not_or,
    and_assoc]
  simp only [ne_eq, keyedSetting?_eq_some_iff]

instance : DecidablePred Skips := fun _ => decidable_of_iff _ skips_iff.symm

/-! ## Color -/

/-- The entry under a key turns nothing on: it is absent, null or false. -/
def IsOff (config : String → Option Value) (key : String) : Prop :=
  config key = none ∨ config key = some .null ∨ config key = some (.bool false)

/-- The entry under a key is neither a boolean nor null. -/
def IsMistaken (config : String → Option Value) (key : String) : Prop :=
  ∃ v, config key = some v ∧ v ≠ .null ∧ ∀ b, v ≠ .bool b

/-- The color entries make no sense: one of them is neither a boolean nor null, or both are true. -/
def ColorMistake (config : String → Option Value) : Prop :=
  IsMistaken config "--color" ∨ IsMistaken config "--no-color" ∨
    config "--color" = some (.bool true) ∧ config "--no-color" = some (.bool true)

/-- What the color entries set together. -/
inductive ColorSets (config : String → Option Value) : Setting → Prop
  | on : config "--color" = some (.bool true) → IsOff config "--no-color" →
    ColorSets config (.color true)
  | off : config "--no-color" = some (.bool true) → IsOff config "--color" →
    ColorSets config (.color false)

section Color

variable {config : String → Option Value} {key : String}

theorem IsOff.not_on (off : IsOff config key) : config key ≠ some (.bool true) := by
  rcases off with found | found | found <;> rw [found] <;> nofun

theorem IsOff.not_mistaken (off : IsOff config key) : ¬ IsMistaken config key := by
  rintro ⟨v, found, notNull, notBool⟩
  rcases off with off | off | off <;> rw [off] at found <;> cases found
  · exact notNull rfl
  · exact notBool _ rfl

theorem not_mistaken_of_on (on : config key = some (.bool true)) : ¬ IsMistaken config key := by
  rintro ⟨v, found, -, notBool⟩
  rw [on] at found
  cases found
  exact notBool _ rfl

/-- A color entry is true, turns nothing on, or is mistaken. -/
theorem colorEntry_cases (es : Entries) (key : String) :
    (colorEntry es key = some (some true) ∧ Entries.lookupName es key = some (.bool true)) ∨
    (∃ b, colorEntry es key = some b ∧ b ≠ some true ∧ IsOff (Entries.lookupName es) key) ∨
    (colorEntry es key = none ∧ IsMistaken (Entries.lookupName es) key) := by
  unfold colorEntry IsOff IsMistaken
  rcases Entries.lookupName es key with _ | v
  · exact Or.inr (Or.inl ⟨none, rfl, nofun, Or.inl rfl⟩)
  · cases v with
    | null => exact Or.inr (Or.inl ⟨none, rfl, nofun, Or.inr (Or.inl rfl)⟩)
    | bool b =>
        cases b with
        | true => exact Or.inl ⟨rfl, rfl⟩
        | false => exact Or.inr (Or.inl ⟨some false, rfl, nofun, Or.inr (Or.inr rfl)⟩)
    | _ => exact Or.inr (Or.inr ⟨rfl, _, rfl, nofun, nofun⟩)

/-- Color entries that set something are no mistake. -/
theorem ColorSets.not_mistake (sets : ColorSets config setting) : ¬ ColorMistake config := by
  rintro (mistaken | mistaken | ⟨on, on'⟩)
  · cases sets with
    | on on _ => exact not_mistaken_of_on on mistaken
    | off _ off => exact off.not_mistaken mistaken
  · cases sets with
    | on _ off => exact off.not_mistaken mistaken
    | off on _ => exact not_mistaken_of_on on mistaken
  · cases sets with
    | on _ off => exact off.not_on on'
    | off _ off => exact off.not_on on

/-- The color entries are a mistake, or they set what they set together, if anything. -/
theorem colorSetting?_cases_of_entries (es : Entries) :
    (colorSetting? es = none ∧ ColorMistake (Entries.lookupName es)) ∨
    (∃ setting, colorSetting? es = some (some setting) ∧
      ColorSets (Entries.lookupName es) setting) ∨
    (colorSetting? es = some none ∧ IsOff (Entries.lookupName es) "--color" ∧
      IsOff (Entries.lookupName es) "--no-color") := by
  unfold colorSetting?
  rcases colorEntry_cases es "--color" with ⟨color, on⟩ | ⟨b, color, notOn, off⟩ | ⟨color, wrong⟩
  · rcases colorEntry_cases es "--no-color" with ⟨plain, on'⟩ | ⟨b', plain, notOn', off'⟩ |
      ⟨plain, wrong'⟩
    · rw [color, plain]
      exact Or.inl ⟨rfl, Or.inr (Or.inr ⟨on, on'⟩)⟩
    · rw [color, plain]
      exact Or.inr (Or.inl ⟨.color true, by simp [notOn'], .on on off'⟩)
    · rw [color, plain]
      exact Or.inl ⟨rfl, Or.inr (Or.inl wrong')⟩
  · rcases colorEntry_cases es "--no-color" with ⟨plain, on'⟩ | ⟨b', plain, notOn', off'⟩ |
      ⟨plain, wrong'⟩
    · rw [color, plain]
      exact Or.inr (Or.inl ⟨.color false, by simp [notOn], .off on' off⟩)
    · rw [color, plain]
      exact Or.inr (Or.inr ⟨by simp [notOn, notOn'], off, off'⟩)
    · rw [color, plain]
      exact Or.inl ⟨rfl, Or.inr (Or.inl wrong')⟩
  · rw [color]
    exact Or.inl ⟨rfl, Or.inl wrong⟩

theorem colorSetting?_eq_none_iff :
    colorSetting? es = none ↔ ColorMistake (Entries.lookupName es) := by
  rcases colorSetting?_cases_of_entries es with ⟨none, mistake⟩ | ⟨set, found, sets⟩ |
    ⟨nothing, off, off'⟩
  · exact iff_of_true none mistake
  · exact iff_of_false (by rw [found]; nofun) sets.not_mistake
  · refine iff_of_false (by rw [nothing]; nofun) ?_
    rintro (mistaken | mistaken | ⟨on, -⟩)
    · exact off.not_mistaken mistaken
    · exact off'.not_mistaken mistaken
    · exact off.not_on on

theorem colorSetting?_join_eq_some_iff :
    (colorSetting? es).join = some setting ↔ ColorSets (Entries.lookupName es) setting := by
  rcases colorSetting?_cases_of_entries es with ⟨none, mistake⟩ | ⟨set, found, sets⟩ |
    ⟨nothing, off, off'⟩
  · rw [none]
    exact iff_of_false nofun fun sets => sets.not_mistake mistake
  · rw [found, Option.join_some]
    constructor
    · rintro ⟨⟩
      exact sets
    · intro sets'
      cases sets with
      | on on off =>
          cases sets' with
          | on => rfl
          | off on' _ => exact (off.not_on on').elim
      | off on off =>
          cases sets' with
          | on on' _ => exact (off.not_on on').elim
          | off => rfl
  · rw [nothing]
    refine iff_of_false nofun fun sets => ?_
    cases sets with
    | on on _ => exact off.not_on on
    | off on _ => exact off'.not_on on

end Color

/-! ## All settings -/

/-- What a config sets: what its color entries set together, and what each other entry sets by
itself. -/
def Sets (config : String → Option Value) (setting : Setting) : Prop :=
  ColorSets config setting ∨ ∃ key v, config key = some v ∧ SetsAlone (.str key, v) setting

theorem mem_settings_iff (distinct : es.keys.Nodup) :
    setting ∈ settings es ↔ Sets (Entries.lookupName es) setting := by
  have alone : setting ∈ (plainEntries es).filterMap keyedSetting? ↔
      ∃ key v, Entries.lookupName es key = some v ∧ SetsAlone (.str key, v) setting := by
    simp only [List.mem_filterMap, plainEntries, List.mem_filter, keyedSetting?_eq_some_iff,
      Entries.lookupName_eq_some_iff distinct]
    constructor
    · rintro ⟨⟨k, v⟩, ⟨member, -⟩, sets⟩
      obtain ⟨key, rfl⟩ : ∃ key, k = .str key := by cases sets <;> exact ⟨_, rfl⟩
      exact ⟨key, v, member, sets⟩
    · rintro ⟨key, v, member, sets⟩
      exact ⟨_, ⟨member, by cases sets <;> rfl⟩, sets⟩
  rw [settings, List.mem_append, Option.mem_toList, colorSetting?_join_eq_some_iff, alone, Sets]

/-- An entry that sets something by itself stands under the option of the setting. -/
theorem SetsAlone.key_eq (sets : SetsAlone e setting) : e.1 = .str setting.optionName := by
  cases sets <;> rfl

/-- No two settings of a config have the same name. -/
theorem nodup_names_settings (distinct : es.keys.Nodup) :
    ((settings es).map Setting.name).Nodup := by
  have sameOption : ∀ a b : Setting, a.name = b.name → a.optionName = b.optionName := by
    intro a b same
    cases a <;> cases b <;> simp_all [Setting.name, Setting.optionName]
  have alone : ((plainEntries es).filterMap keyedSetting?).Pairwise fun a b => a.name ≠ b.name := by
    have apart : es.Pairwise fun e e' => e.1 ≠ e'.1 := List.pairwise_map.mp distinct
    refine List.pairwise_filterMap.mpr ((apart.filter _).imp ?_)
    intro e e' other a sets b sets' same
    have left := (keyedSetting?_eq_some_iff.mp sets).key_eq
    have right := (keyedSetting?_eq_some_iff.mp sets').key_eq
    exact other (left.trans (sameOption a b same ▸ right.symm))
  refine List.pairwise_map.mpr (List.pairwise_append.mpr ⟨?_, alone, ?_⟩)
  · cases (colorSetting? es).join with
    | none => exact .nil
    | some color => exact List.pairwise_singleton _ _
  · intro a color b member same
    obtain ⟨enabled, rfl⟩ := colorSetting?_cases (Option.mem_toList.mp color)
    obtain ⟨e, -, sets⟩ := List.mem_filterMap.mp member
    cases keyedSetting?_eq_some_iff.mp sets <;> simp [Setting.name] at same

/-! ## Entries that are skipped -/

/-- Entries that are skipped make no difference to the settings. -/
theorem settings_filter (kept : ∀ e ∈ es, ¬ Skips e → keep e = true) :
    settings (es.filter keep) = settings es := by
  have colorKept : ∀ key, key = "--color" ∨ key = "--no-color" →
      Entries.lookupName (es.filter keep) key = Entries.lookupName es key := by
    intro key isColor
    refine Entries.lookupName_filter fun e member isKey => kept e member fun skips => ?_
    rcases isColor with rfl | rfl
    · exact skips.1 isKey
    · exact skips.2.1 isKey
  have color : colorSetting? (es.filter keep) = colorSetting? es := by
    rw [colorSetting?, colorEntry, colorEntry, colorKept _ (Or.inl rfl), colorKept _ (Or.inr rfl)]
    rfl
  have alone : (plainEntries (es.filter keep)).filterMap keyedSetting? =
      (plainEntries es).filterMap keyedSetting? := by
    rw [plainEntries, plainEntries, List.filterMap_filter, List.filterMap_filter,
      List.filterMap_filter]
    refine List.filterMap_congr fun e member => ?_
    cases here : keep e with
    | true => rfl
    | false =>
        have skips : Skips e := Classical.not_not.mp fun notSkipped =>
          Bool.false_ne_true (here.symm.trans (kept e member notSkipped))
        rw [(skips_iff.mp skips).2]
        simp
  rw [settings, settings, color, alone]

instance (es : Entries) : Decidable (ColorMistake (Entries.lookupName es)) :=
  decidable_of_iff _ colorSetting?_eq_none_iff

/-- What is said about a config: first that the color entries make no sense, if they do not, and
then each entry that is skipped, in the order of the entries. -/
def warned (es : Entries) : List LogEntry :=
  (if ColorMistake (Entries.lookupName es) then
    [.warning "Ignoring conflicting or invalid --color/--no-color config"] else [])
  ++ (es.filter fun e => Skips e).map fun e =>
    .warning ("Ignoring invalid config entry " ++ e.1.display)

theorem warnings_eq (es : Entries) : warnings es = warned es := by
  have color : (colorSetting? es).isNone = true ↔ ColorMistake (Entries.lookupName es) := by
    rw [Option.isNone_iff_eq_none, colorSetting?_eq_none_iff]
  have skipped : (plainEntries es).filter (fun e => (keyedSetting? e).isNone) =
      es.filter fun e => Skips e := by
    rw [plainEntries, List.filter_filter]
    refine List.filter_congr fun e _ => ?_
    rw [Bool.eq_iff_iff, Bool.and_eq_true, decide_eq_true_iff, skips_iff, Option.isNone_iff_eq_none,
      Bool.not_eq_true']
    exact and_comm
  rw [warnings, warned, skipped]
  simp only [color]

/-! ## The defaults of a config -/

/-- The defaults of a config, by what is found under its keys: an indent, a theme, a verbosity and a
color, each if there is one, under distinct names, and nothing else. -/
structure IsDefaults (config : String → Option Value) (defaults : Entries) : Prop where
  names : ∃ names, defaults.HasNames names ∧ names.Nodup ∧
    names ⊆ ["color_flag", "indent", "out_theme", "verbose"]
  indent : ∀ v, defaults.lookupName "indent" = some v ↔
    ∃ n : Int, config "--indent" = some (.int n) ∧ 0 ≤ n ∧ v = .int n
  theme : ∀ v, defaults.lookupName "out_theme" = some v ↔
    (∃ name : String, config "--out-theme" = some (.str name) ∧
      (∃ c ∈ name.toList, Text.isBlank c = false) ∧ v = .str name) ∨
    (∃ symbols, config "--out-theme" = some (.broken symbols) ∧ v = .broken symbols)
  verbose : ∀ v, defaults.lookupName "verbose" = some v ↔
    ∃ enabled, config "--verbose" = some (.bool enabled) ∧ v = .bool enabled
  color : ∀ v, defaults.lookupName "color_flag" = some v ↔
    (config "--color" = some (.bool true) ∧ IsOff config "--no-color" ∧ v = .bool true) ∨
    (config "--no-color" = some (.bool true) ∧ IsOff config "--color" ∧ v = .bool false)

/-- What is found among the settings of a config is what the config sets. -/
theorem lookupName_settings_iff (distinct : es.keys.Nodup) {name : String} {v : Value} :
    Entries.lookupName ((settings es).map fun s => (.str s.name, s.value)) name = some v ↔
      ∃ s, Sets (Entries.lookupName es) s ∧ s.name = name ∧ s.value = v := by
  have keys : (Entries.keys ((settings es).map fun s => (Value.str s.name, s.value))).Nodup := by
    have named := (nodup_names_settings distinct).map (f := Value.str) fun a b => Value.str.inj
    rw [List.map_map] at named
    rwa [Entries.keys, List.map_map]
  rw [Entries.lookupName_eq_some_iff keys, List.mem_map]
  simp only [mem_settings_iff distinct, Prod.mk.injEq, Value.str.injEq]

/-- What is found there under another name than that of color is set by one entry alone. -/
theorem lookupName_settings_iff_alone (distinct : es.keys.Nodup) {name : String} {v : Value}
    (other : name ≠ "color_flag") :
    Entries.lookupName ((settings es).map fun s => (.str s.name, s.value)) name = some v ↔
      ∃ key w s, Entries.lookupName es key = some w ∧ SetsAlone (.str key, w) s ∧ s.name = name ∧
        s.value = v := by
  rw [lookupName_settings_iff distinct]
  constructor
  · rintro ⟨s, color | ⟨key, w, found, sets⟩, isName, isValue⟩
    · cases color <;> exact (other isName.symm).elim
    · exact ⟨key, w, s, found, sets, isName, isValue⟩
  · rintro ⟨key, w, s, found, sets, isName, isValue⟩
    exact ⟨s, Or.inr ⟨key, w, found, sets⟩, isName, isValue⟩

/-- The settings of a config are its defaults. -/
theorem isDefaults_settings (distinct : es.keys.Nodup) :
    IsDefaults (Entries.lookupName es)
      ((settings es).map fun s => (.str s.name, s.value)) where
  names := by
    refine ⟨(settings es).map Setting.name, ?_, nodup_names_settings distinct, ?_⟩
    · rw [Entries.HasNames, Entries.keys, List.map_map, List.map_map]
      rfl
    · intro name member
      obtain ⟨s, -, rfl⟩ := List.mem_map.mp member
      cases s <;> simp [Setting.name]
  indent v := by
    rw [lookupName_settings_iff_alone distinct (by decide)]
    constructor
    · rintro ⟨key, w, s, found, sets, isName, rfl⟩
      cases sets with
      | indent least => exact ⟨_, found, least, rfl⟩
      | _ => simp [Setting.name] at isName
    · rintro ⟨n, found, least, rfl⟩
      exact ⟨_, _, .indent n, found, .indent least, rfl, rfl⟩
  theme v := by
    rw [lookupName_settings_iff_alone distinct (by decide)]
    constructor
    · rintro ⟨key, w, s, found, sets, isName, rfl⟩
      cases sets with
      | theme given => exact Or.inl ⟨_, found, given, rfl⟩
      | brokenTheme => exact Or.inr ⟨_, found, rfl⟩
      | _ => simp [Setting.name] at isName
    · rintro (⟨name, found, given, rfl⟩ | ⟨symbols, found, rfl⟩)
      · exact ⟨_, _, .theme name, found, .theme given, rfl, rfl⟩
      · exact ⟨_, _, .brokenTheme symbols, found, .brokenTheme, rfl, rfl⟩
  verbose v := by
    rw [lookupName_settings_iff_alone distinct (by decide)]
    constructor
    · rintro ⟨key, w, s, found, sets, isName, rfl⟩
      cases sets with
      | verbose => exact ⟨_, found, rfl⟩
      | _ => simp [Setting.name] at isName
    · rintro ⟨enabled, found, rfl⟩
      exact ⟨_, _, .verbose enabled, found, .verbose, rfl, rfl⟩
  color v := by
    rw [lookupName_settings_iff distinct]
    constructor
    · rintro ⟨s, color | ⟨key, w, -, sets⟩, isName, rfl⟩
      · cases color with
        | on on off => exact Or.inl ⟨on, off, rfl⟩
        | off on off => exact Or.inr ⟨on, off, rfl⟩
      · cases sets <;> simp [Setting.name] at isName
    · rintro (⟨on, off, rfl⟩ | ⟨on, off, rfl⟩)
      · exact ⟨.color true, Or.inl (.on on off), rfl, rfl⟩
      · exact ⟨.color false, Or.inl (.off on off), rfl, rfl⟩

/-- Two maps of defaults for one config are equal. -/
theorem IsDefaults.equals {config : String → Option Value} {defaults others : Entries}
    (first : IsDefaults config defaults) (second : IsDefaults config others) :
    (Value.map defaults).equals (.map others) = true := by
  obtain ⟨names, has, nodup, known⟩ := first.names
  obtain ⟨names', has', nodup', known'⟩ := second.names
  have each : ∀ name, defaults.lookupName name = others.lookupName name := by
    intro name
    by_cases isKnown : name ∈ ["color_flag", "indent", "out_theme", "verbose"]
    · refine Option.ext fun v => ?_
      simp only [List.mem_cons, List.not_mem_nil, or_false] at isKnown
      rcases isKnown with rfl | rfl | rfl | rfl
      · exact (first.color v).trans (second.color v).symm
      · exact (first.indent v).trans (second.indent v).symm
      · exact (first.theme v).trans (second.theme v).symm
      · exact (first.verbose v).trans (second.verbose v).symm
    · have absent : defaults.lookupName name = none := by
        rw [← Option.not_isSome_iff_eq_none, has.isSome_iff]
        exact fun member => isKnown (known member)
      have absent' : others.lookupName name = none := by
        rw [← Option.not_isSome_iff_eq_none, has'.isSome_iff]
        exact fun member => isKnown (known' member)
      rw [absent, absent']
  refine Entries.same_of_lookupName has has' nodup nodup' (fun name => by rw [each]) ?_
  intro name v w found found'
  rw [each, found'] at found
  cases found
  exact v.same_self

end Config

namespace Script

open Act Config

variable {scope : Entries} {s : Session} {term : Term} {es : Entries}

/-- The defaults of a config, asked for in a script. -/
def defaultsTerm (config : Term) : Term := .call (.tool .configDefaults) [config] []

/-- A session in which something more has been said. -/
def Session.afterSaying (s : Session) (said : List LogEntry) : Session :=
  { s with log := s.log ++ said }

theorem exec_defaultsTerm (answers : AnswersTable scope s term es) :
    exec (eval scope (defaultsTerm term)) s =
      (.ok (Setting.toMap (settings es)), s.afterSaying (warned es)) := by
  obtain ⟨v, answers, holds⟩ := answers
  refine (Answers.exec_call (.tool .configDefaults) [] (.cons answers .nil) .nil rfl).trans ?_
  change exec (Act.entriesWith "get" v >>= _) s = _
  rw [exec_bind_of_ok (exec_entriesWith "get" holds), ← warnings_eq]
  rfl

/-- The entries of a config act independently.  A config has defaults, each taken from the entry
under its key, or from the two for color, and it is warned of just the color entries that make no
sense and then the entries that are skipped.  In another order the entries have equal defaults, and
without entries that are skipped they have the same. -/
theorem exec_configDefaults (answers : AnswersTable scope s term es) (distinct : es.keys.Nodup) :
    ∃ defaults,
      exec (eval scope (defaultsTerm term)) s = (.ok (.map defaults), s.afterSaying (warned es)) ∧
      IsDefaults (Entries.lookupName es) defaults ∧
      (∀ other (fs : Entries), es.Perm fs → AnswersTable scope s other fs → ∃ defaults',
        exec (eval scope (defaultsTerm other)) s = (.ok (.map defaults'), s.afterSaying (warned fs)) ∧
        (Value.map defaults).equals (.map defaults') = true) ∧
      ∀ other keep, (∀ e ∈ es, ¬ Skips e → keep e = true) →
        AnswersTable scope s other (es.filter keep) →
        exec (eval scope (defaultsTerm other)) s =
          (.ok (.map defaults), s.afterSaying (warned (es.filter keep))) := by
  refine ⟨_, exec_defaultsTerm answers, isDefaults_settings distinct, ?_, ?_⟩
  · intro other fs perm answersOther
    have distinct' : fs.keys.Nodup := (perm.map Prod.fst).nodup distinct
    have found : Entries.lookupName es = Entries.lookupName fs :=
      funext fun name => Entries.lookupName_perm distinct perm
    refine ⟨_, exec_defaultsTerm answersOther, (isDefaults_settings distinct).equals ?_⟩
    rw [found]
    exact isDefaults_settings distinct'
  · intro other keep kept answersOther
    rw [← settings_filter kept]
    exact exec_defaultsTerm answersOther

/-- Both color entries turn color off, one integer is below the least one, and one key is
unknown. -/
theorem exec_configDefaults_skipping :
    let session := Session.start ⟨"/", fun _ => .ok .empty, 80⟩
    let config : Entries := [(.str "--verbose", .int 1), (.str "--no-color", .bool true),
      (.str "--indent", .int 0), (.str "--color", .null), (.str "x", .bool true)]
    let term := Term.constant (.map config)
    AnswersTable [] session term config ∧ config.keys.Nodup ∧
      ∃ defaults, exec (eval [] (defaultsTerm term)) session =
          (.ok (.map defaults), session.afterSaying
            [.warning "Ignoring invalid config entry --verbose",
              .warning "Ignoring invalid config entry x"]) ∧
        Entries.lookupName defaults "indent" = some (.int 0) ∧
        Entries.lookupName defaults "color_flag" = some (.bool false) ∧
        Entries.lookupName defaults "verbose" = none := by
  intro session config term
  have answers : AnswersTable [] session term config := ⟨_, Answers.constant rfl, rfl⟩
  have distinct : config.keys.Nodup := by simp [config, Entries.keys]
  obtain ⟨defaults, runs, are, -⟩ := exec_configDefaults answers distinct
  refine ⟨answers, distinct, defaults, runs, ?_, ?_, ?_⟩
  · exact (are.indent _).mpr ⟨0, rfl, Int.le_refl 0, rfl⟩
  · exact (are.color _).mpr (Or.inr ⟨rfl, Or.inr (Or.inl rfl), rfl⟩)
  · refine Option.eq_none_iff_forall_ne_some.mpr fun v found => ?_
    obtain ⟨enabled, isBool, -⟩ := (are.verbose v).mp found
    cases isBool

end Script

end MapStyle
