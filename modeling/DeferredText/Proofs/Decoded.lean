import DeferredText.Proofs.Findings

/-!
Contract: which configuration data are accepted, and the settings they give.

Data are compared with the standard settings, written as a value: known keys are the keys of
that value, at every level. A known key that is given has its value in the settings, and one that
is not given has its standard.

The only data that are neither accepted nor refused by a report have an unknown key that cannot
be displayed.

Owns: settings as a value, the settings that data give, and that unknown keys have no effect.

Does not own: what a check finds (`Proofs.Findings`), and which accepted settings can be used
(`Proofs.Accepted`).
-/

namespace DeferredText

/-! ### Settings as a value -/

def TokenSettings.toEntries (tokens : TokenSettings) : Entries :=
  [(.text "prefix", tokens.opening), (.text "suffix", tokens.closing), (.text "length", tokens.length)]

def ComponentSwitches.toEntries (switches : ComponentSwitches) : Entries :=
  [(.text "registry", switches.registry), (.text "render", switches.render),
    (.text "resolve", switches.resolve)]

def LogOptions.toEntries (options : LogOptions) : Entries :=
  [(.text "show_args", options.showArguments), (.text "truncate_at", options.truncateAt)]

def LoggingSettings.toEntries (logging : LoggingSettings) : Entries :=
  [(.text "level", logging.level), (.text "format", logging.format),
    (.text "components", (logging.components.map fun switches => .dict switches.toEntries).getD .none),
    (.text "options", (logging.options.map fun options => .dict options.toEntries).getD .none)]

namespace Settings

/-- The settings of a part by their keys. -/
def entriesOf (settings : Settings) : ConfigSection → Entries
  | .tokens => settings.tokens.toEntries
  | .registry => [(.text "warn_on_override", settings.warnsOnOverride)]
  | .template => [(.text "strict_undefined", settings.strictUndefined)]
  | .logging => settings.logging.toEntries

/-- The settings by their keys. -/
def toEntries (settings : Settings) : Entries :=
  ConfigSection.all.map fun part => (.text part.name, .dict (settings.entriesOf part))

def toValue (settings : Settings) : Value :=
  .dict settings.toEntries

end Settings

namespace ConfigSection

/-- The names of the parts are known, and no others. -/
theorem getText?_standard (part : ConfigSection) :
    Settings.standard.toEntries.getText? part.name = some (.dict (Settings.standard.entriesOf part)) := by
  cases part <;> rfl

theorem exists_of_getText?_standard {name : String} {standard : Value}
    (known : Settings.standard.toEntries.getText? name = some standard) :
    ∃ part : ConfigSection, name = part.name ∧ standard = .dict (Settings.standard.entriesOf part) := by
  obtain ⟨part, -, same⟩ := List.mem_map.mp (Entries.mem_of_getText? known)
  cases same
  exact ⟨part, rfl, rfl⟩

end ConfigSection

/-! ### The settings that data give -/

namespace Value

variable {data entries parts : Entries} {name : String}

theorem completedEntries_leaf {standard : Value} (leaf : standard.dict? = Option.none) :
    completedEntries entries ((.text name, standard) :: parts) =
      (.text name, entries.setting name standard) :: completedEntries entries parts := by
  rw [completedEntries]
  unfold Entries.setting Entries.getText?
  cases entries.get? (.text name) with
  | none => rfl
  | some given =>
      dsimp only
      rw [Option.getD_some, completed_leaf leaf]

/-- Every part is completed for itself. -/
theorem completedEntries_sections
    (mappings : ∀ (part : ConfigSection) (value : Value), data.getText? part.name = some value →
      ∃ entries, value = .dict entries) (sections : List ConfigSection) :
    completedEntries data
        (sections.map fun part => (.text part.name, .dict (Settings.standard.entriesOf part))) =
      sections.map fun part =>
        (.text part.name,
          .dict (completedEntries (data.sectionOf part) (Settings.standard.entriesOf part))) := by
  induction sections with
  | nil => rfl
  | cons part rest inductionHypothesis =>
      rw [List.map_cons, List.map_cons, completedEntries, inductionHypothesis]
      unfold Entries.sectionOf ConfigSection.entries?
      cases given : data.getText? part.name with
      | none =>
          rw [Entries.getText?] at given
          rw [given, Option.bind_none, Option.getD_none, completedEntries_nil]
      | some value =>
          obtain ⟨entries, rfl⟩ := mappings part value given
          rw [Entries.getText?] at given
          rw [given]
          rfl

end Value

namespace LoggingSettings

/-- A part of the logging is completed, or none. -/
theorem completedEntries_part {entries parts rest : Entries} {name : String}
    (fitting : ∀ value, entries.getText? name = some value →
      value = .none ∨ ∃ given, value = .dict given) :
    Value.completedEntries entries ((.text name, .dict parts) :: rest) =
      (.text name, ((part entries name).map fun given =>
        Value.dict (Value.completedEntries given parts)).getD .none) ::
          Value.completedEntries entries rest := by
  rw [Value.completedEntries]
  unfold part
  cases given : entries.getText? name with
  | none =>
      rw [Entries.getText?] at given
      rw [given, Option.map_some, Option.getD_some, Value.completedEntries_nil]
  | some value =>
      have shape := fitting value given
      rw [Entries.getText?] at given
      rw [given]
      rcases shape with rfl | ⟨switches, rfl⟩ <;> rfl

end LoggingSettings

theorem TokenSettings.toEntries_ofEntries (entries : Entries) :
    (ofEntries entries).toEntries = Value.completedEntries entries standard.toEntries := by
  unfold toEntries
  rw [Value.completedEntries_leaf rfl, Value.completedEntries_leaf rfl,
    Value.completedEntries_leaf rfl]
  rfl

theorem ComponentSwitches.toEntries_ofEntries (entries : Entries) :
    (ofEntries entries).toEntries = Value.completedEntries entries standard.toEntries := by
  unfold toEntries
  rw [Value.completedEntries_leaf rfl, Value.completedEntries_leaf rfl,
    Value.completedEntries_leaf rfl]
  rfl

theorem LogOptions.toEntries_ofEntries (entries : Entries) :
    (ofEntries entries).toEntries = Value.completedEntries entries standard.toEntries := by
  unfold toEntries
  rw [Value.completedEntries_leaf rfl, Value.completedEntries_leaf rfl]
  rfl

theorem LoggingSettings.toEntries_ofEntries {entries : Entries}
    (fitting : ∀ name, name = "components" ∨ name = "options" → ∀ value,
      entries.getText? name = some value → value = .none ∨ ∃ parts, value = .dict parts) :
    (ofEntries entries).toEntries = Value.completedEntries entries standard.toEntries := by
  change _ = Value.completedEntries entries
    [(.text "level", _), (.text "format", _),
      (.text "components", .dict ComponentSwitches.standard.toEntries),
      (.text "options", .dict LogOptions.standard.toEntries)]
  rw [Value.completedEntries_leaf rfl, Value.completedEntries_leaf rfl,
    completedEntries_part (fitting _ (.inl rfl)), completedEntries_part (fitting _ (.inr rfl))]
  simp only [toEntries, ofEntries, Option.map_map, Function.comp_def,
    ← ComponentSwitches.toEntries_ofEntries, ← LogOptions.toEntries_ofEntries]
  rfl

namespace Settings

variable {data : Entries}

/-- Each part of the settings is the standard one with the entries of the part laid over it. -/
theorem entriesOf_ofEntries (fits : data.Fits) (part : ConfigSection) :
    (ofEntries data).entriesOf part =
      Value.completedEntries (data.sectionOf part) (standard.entriesOf part) := by
  cases part with
  | tokens => exact TokenSettings.toEntries_ofEntries _
  | registry | template =>
      unfold entriesOf
      rw [Value.completedEntries_leaf rfl]
      rfl
  | logging =>
      refine LoggingSettings.toEntries_ofEntries ?_
      rintro name (rfl | rfl) value given <;> rw [Entries.getText?_sectionOf] at given
      · exact fits.components value given
      · exact fits.options value given

/-- The settings that data give are the standard ones with the data laid over them. -/
theorem toValue_ofEntries (fits : data.Fits) :
    (ofEntries data).toValue = (Value.dict data).completed standard.toValue := by
  simp only [toValue, Value.completed, toEntries, entriesOf_ofEntries fits,
    Value.completedEntries_sections fits.parts]

/-- The mappings among the standard settings are the whole, the parts, and two parts of the
logging. -/
theorem mapping_of_atPath?_standard {path : List String} {parts : Entries}
    (isMapping : standard.toValue.atPath? path = some (.dict parts)) :
    path = [] ∨ (∃ part : ConfigSection, path = [part.name]) ∨ path = ["logging", "components"] ∨
      path = ["logging", "options"] := by
  cases path with
  | nil => exact .inl rfl
  | cons key rest =>
      right
      rw [Value.atPath?_cons, toValue, Value.dict?, Option.bind_some] at isMapping
      obtain ⟨inner, known, inPart⟩ := Option.bind_eq_some_iff.mp isMapping
      obtain ⟨part, rfl, rfl⟩ := ConfigSection.exists_of_getText?_standard known
      cases part with
      | logging =>
          cases rest with
          | nil => exact .inl ⟨.logging, rfl⟩
          | cons name further =>
              right
              rw [Value.atPath?_cons, Value.dict?, Option.bind_some] at inPart
              obtain ⟨setting, known, inSetting⟩ := Option.bind_eq_some_iff.mp inPart
              have member := Entries.mem_of_getText? known
              change _ ∈ [_, _, (_, Value.dict ComponentSwitches.standard.toEntries),
                (_, Value.dict LogOptions.standard.toEntries)] at member
              simp only [List.mem_cons, List.not_mem_nil, or_false, Prod.mk.injEq,
                Value.text.injEq] at member
              rcases member with ⟨-, rfl⟩ | ⟨-, rfl⟩ | ⟨rfl, rfl⟩ | ⟨rfl, rfl⟩
              · exact absurd inSetting (Value.not_mapping_of_leaf rfl)
              · exact absurd inSetting (Value.not_mapping_of_leaf rfl)
              · cases Value.eq_nil_of_leaves (by simp [ComponentSwitches.toEntries,
                  ComponentSwitches.standard, Value.dict?]) inSetting
                exact .inl rfl
              · cases Value.eq_nil_of_leaves (by simp [LogOptions.toEntries, LogOptions.standard,
                  LogSettings.standard, Value.dict?]) inSetting
                exact .inr rfl
      | tokens =>
          cases Value.eq_nil_of_leaves (by simp [entriesOf, standard, TokenSettings.toEntries,
            TokenSettings.standard, Value.dict?]) inPart
          exact .inl ⟨.tokens, rfl⟩
      | registry =>
          cases Value.eq_nil_of_leaves (by simp [entriesOf, standard, Value.dict?]) inPart
          exact .inl ⟨.registry, rfl⟩
      | template =>
          cases Value.eq_nil_of_leaves (by simp [entriesOf, standard, Value.dict?]) inPart
          exact .inl ⟨.template, rfl⟩

end Settings

/-- Accepted data have mappings where the standard has them, or none. -/
theorem Entries.Fits.suits {data : Entries} (fits : data.Fits) :
    (Value.dict data).Suits Settings.standard.toValue := by
  intro path parts value isMapping given
  rcases Settings.mapping_of_atPath?_standard isMapping with rfl | ⟨part, rfl⟩ | rfl | rfl
  · cases given
    exact .inr ⟨data, rfl⟩
  · rw [Value.atPath?_cons, Value.dict?, Option.bind_some] at given
    obtain ⟨inner, found, same⟩ := Option.bind_eq_some_iff.mp given
    cases same
    exact .inr (fits.parts part value found)
  · exact fits.components value given
  · exact fits.options value given

/-! ### Unknown keys -/

/-- The data without what stands at unknown keys, at every level. -/
def Entries.known (data : Entries) : Entries :=
  Value.limitedEntries data Settings.standard.toEntries

namespace Value

variable {entries parts : Entries} {name : String}

theorem getText?_limited_leaf {standard : Value} (known : Entries.getText? parts name = some standard)
    (leaf : standard.dict? = Option.none) :
    Entries.getText? (limitedEntries entries parts) name = Entries.getText? entries name := by
  rw [getText?_limitedEntries, known, Option.bind_some]
  simp [limited_leaf leaf]

theorem setting_limited_leaf {standard other : Value}
    (known : Entries.getText? parts name = some standard) (leaf : standard.dict? = Option.none) :
    Entries.setting (limitedEntries entries parts) name other = Entries.setting entries name other := by
  unfold Entries.setting
  rw [getText?_limited_leaf known leaf]

end Value

namespace Entries

variable {data : Entries}

theorem sectionOf_known (part : ConfigSection) :
    data.known.sectionOf part =
      Value.limitedEntries (data.sectionOf part) (Settings.standard.entriesOf part) := by
  unfold Entries.sectionOf ConfigSection.entries? known
  rw [Value.getText?_limitedEntries, ConfigSection.getText?_standard, Option.bind_some]
  cases data.getText? part.name with
  | none => rfl
  | some value =>
      rw [Option.map_some, Option.bind_some, Option.bind_some, Value.dict?_limited]
      cases value.dict? <;> rfl

/-- An entry stays if its key names a part. -/
theorem known_cons (key given : Value) (rest : Entries) :
    known ((key, given) :: rest) =
      match ConfigSection.ofKey? key with
      | some part => (key, given.limited (.dict (Settings.standard.entriesOf part))) :: known rest
      | none => known rest := by
  unfold known
  rw [Value.limitedEntries]
  cases isPart : ConfigSection.ofKey? key with
  | some part =>
      cases ConfigSection.ofKey?_eq_some_iff.mp isPart
      rw [Value.text?, Option.bind_some, ConfigSection.getText?_standard]
  | none =>
      have unknown : (key.text?.bind fun name => Settings.standard.toEntries.getText? name) = none := by
        refine Option.eq_none_iff_forall_ne_some.mpr fun standard found => ?_
        obtain ⟨name, isName, known⟩ := Option.bind_eq_some_iff.mp found
        obtain ⟨part, rfl, -⟩ := ConfigSection.exists_of_getText?_standard known
        rw [ConfigSection.ofKey?_eq_some_iff.mpr (Value.text?_eq_some_iff.mp isName)] at isPart
        cases isPart
      rw [unknown]

theorem shown_known (data : Entries) : data.known.Shown := by
  induction data with
  | nil => exact nofun
  | cons entry rest inductionHypothesis =>
      rw [known_cons]
      cases isPart : ConfigSection.ofKey? entry.1 with
      | none => exact inductionHypothesis
      | some part =>
          refine List.forall_mem_cons.mpr ⟨fun isUnknown => ?_, inductionHypothesis⟩
          rw [isPart] at isUnknown
          cases isUnknown

end Entries

namespace Issue

variable {entries : Entries}

theorem ofTokens_limited :
    ofTokens (Value.limitedEntries entries TokenSettings.standard.toEntries) = ofTokens entries := by
  unfold ofTokens lengthIssues textIssues emptyIssues
  rw [Value.getText?_limited_leaf rfl rfl, Value.getText?_limited_leaf rfl rfl,
    Value.getText?_limited_leaf rfl rfl]

theorem ofLogging_limited :
    ofLogging (Value.limitedEntries entries LoggingSettings.standard.toEntries) =
      ofLogging entries := by
  unfold ofLogging choiceIssues
  rw [Value.getText?_limited_leaf rfl rfl, Value.getText?_limited_leaf rfl rfl]

theorem flatMap_known (data : Entries) :
    (data.known.flatMap fun entry => errorsOfEntry entry.1 entry.2) =
      data.flatMap fun entry => errorsOfEntry entry.1 entry.2 := by
  induction data with
  | nil => rfl
  | cons entry rest inductionHypothesis =>
      rw [Entries.known_cons, List.flatMap_cons, ← inductionHypothesis]
      cases isPart : ConfigSection.ofKey? entry.1 with
      | none => simp only [errorsOfEntry, isPart, List.nil_append]
      | some part =>
          rw [List.flatMap_cons]
          refine congrArg (· ++ _) ?_
          simp only [errorsOfEntry, isPart, Value.dict?_limited, Option.isSome_map]

theorem errorsOf_known (data : Entries) : errorsOf data.known = errorsOf data := by
  rw [errorsOf, errorsOf, flatMap_known, Entries.sectionOf_known, Entries.sectionOf_known]
  exact congrArg₂ _ (congrArg _ ofTokens_limited) ofLogging_limited

end Issue

theorem TokenSettings.ofEntries_limited (entries : Entries) :
    ofEntries (Value.limitedEntries entries standard.toEntries) = ofEntries entries := by
  unfold ofEntries
  rw [Value.setting_limited_leaf rfl rfl, Value.setting_limited_leaf rfl rfl,
    Value.setting_limited_leaf rfl rfl]

theorem ComponentSwitches.ofEntries_limited (entries : Entries) :
    ofEntries (Value.limitedEntries entries standard.toEntries) = ofEntries entries := by
  unfold ofEntries
  rw [Value.setting_limited_leaf rfl rfl, Value.setting_limited_leaf rfl rfl,
    Value.setting_limited_leaf rfl rfl]

theorem LogOptions.ofEntries_limited (entries : Entries) :
    ofEntries (Value.limitedEntries entries standard.toEntries) = ofEntries entries := by
  unfold ofEntries
  rw [Value.setting_limited_leaf rfl rfl, Value.setting_limited_leaf rfl rfl]

namespace LoggingSettings

theorem misfit?_limited (entries : Entries) :
    misfit? (Value.limitedEntries entries standard.toEntries) = misfit? entries := by
  induction entries with
  | nil => rfl
  | cons entry rest inductionHypothesis =>
      obtain ⟨key, given⟩ := entry
      unfold misfit? at inductionHypothesis ⊢
      rw [Value.limitedEntries, List.findSome?_cons, ← inductionHypothesis]
      cases isTitle : partName? key with
      | none =>
          -- Whether the entry stays or not, its key is of no part that has to be a mapping.
          split
          · rw [List.findSome?_cons]
            simp only [isTitle]
          · rfl
      | some title =>
          rcases exists_partName?_iff.mp ⟨title, isTitle⟩ with rfl | rfl
          · cases isTitle
            cases given <;> rfl
          · cases isTitle
            cases given <;> rfl

theorem part_limited {entries parts standards : Entries} {name : String}
    (known : standards.getText? name = some (.dict parts)) :
    part (Value.limitedEntries entries standards) name =
      (part entries name).map fun given => Value.limitedEntries given parts := by
  unfold part
  rw [Value.getText?_limitedEntries, known, Option.bind_some]
  cases entries.getText? name with
  | none => rfl
  | some value => exact Value.dict?_limited value parts

theorem ofEntries_limited (entries : Entries) :
    ofEntries (Value.limitedEntries entries standard.toEntries) = ofEntries entries := by
  have components : part (Value.limitedEntries entries standard.toEntries) "components" =
      (part entries "components").map fun given =>
        Value.limitedEntries given ComponentSwitches.standard.toEntries := part_limited rfl
  have options : part (Value.limitedEntries entries standard.toEntries) "options" =
      (part entries "options").map fun given =>
        Value.limitedEntries given LogOptions.standard.toEntries := part_limited rfl
  unfold ofEntries
  rw [Value.setting_limited_leaf rfl rfl, Value.setting_limited_leaf rfl rfl, components, options]
  simp only [Option.map_map, Function.comp_def, ComponentSwitches.ofEntries_limited,
    LogOptions.ofEntries_limited]

end LoggingSettings

namespace Settings

variable {data : Entries}

theorem ofEntries_known : ofEntries data.known = ofEntries data := by
  unfold ofEntries
  simp only [Entries.sectionOf_known]
  rw [Value.setting_limited_leaf rfl rfl, Value.setting_limited_leaf rfl rfl]
  exact congrArg₂ (fun tokens logging => (⟨tokens, _, _, logging⟩ : Settings))
    (TokenSettings.ofEntries_limited _) (LoggingSettings.ofEntries_limited _)

/-- What stands at unknown keys changes neither the settings nor what is reported. -/
theorem ofValue_known (shown : data.Shown) : ofValue (.dict data.known) = ofValue (.dict data) := by
  refine ofValue_congr shown (Entries.shown_known data) (Issue.errorsOf_known data) ?_ ofEntries_known
  rw [Entries.sectionOf_known]
  exact LoggingSettings.misfit?_limited _

end Settings

/-- Data are accepted, refused with a report, or have an unknown key that cannot be displayed.
Accepted settings hold what is given at known keys, and the standard at the others; what stands at
unknown keys has no effect. -/
theorem decoding_characterised (data : Entries) (keyed : (Value.dict data).isKeyed = true) :
    ((∃ settings, Settings.ofValue (.dict data) = .ok settings) ↔ data.Shown ∧ data.Fits) ∧
    ((∃ detail, Settings.ofValue (.dict data) = .error (.reported (.configInvalid detail))) ↔
      data.Shown ∧ ¬ data.Fits) ∧
    (Settings.ofValue (.dict data) = .error .digitLimit ↔ ¬ data.Shown) ∧
    (data.Shown → Settings.ofValue (.dict data.known) = Settings.ofValue (.dict data)) ∧
    ∀ settings, Settings.ofValue (.dict data) = .ok settings →
      (∀ path standard value, Settings.standard.toValue.atPath? path = some standard →
        (Value.dict data).atPath? path = some value → (standard.dict? = none ∨ value = .none) →
          settings.toValue.atPath? path = some value) ∧
      (∀ path standard, Settings.standard.toValue.atPath? path = some standard →
        (Value.dict data).atPath? path = none →
        (∀ before, before <+: path → (Value.dict data).atPath? before ≠ some .none) →
          settings.toValue.atPath? path = some standard) := by
  have outcomes : (data.Shown ∧ data.Fits ∧
        Settings.ofValue (.dict data) = .ok (.ofEntries data)) ∨
      (data.Shown ∧ ¬ data.Fits ∧
        ∃ detail, Settings.ofValue (.dict data) = .error (.reported (.configInvalid detail))) ∨
      (¬ data.Shown ∧ Settings.ofValue (.dict data) = .error .digitLimit) := by
    by_cases shown : data.Shown
    · rcases Settings.ofValue_cases shown with ⟨errors, misfit, read⟩ | ⟨wrong, refused⟩
      · exact .inl ⟨shown, (Entries.fits_iff keyed).mp ⟨errors, misfit⟩, read⟩
      · exact .inr (.inl ⟨shown, fun fits => wrong ((Entries.fits_iff keyed).mpr fits), refused⟩)
    · exact .inr (.inr ⟨shown, Settings.ofValue_of_not_shown shown⟩)
  refine ⟨?_, ?_, ?_, Settings.ofValue_known, ?_⟩
  · rcases outcomes with ⟨shown, fits, read⟩ | ⟨shown, unfit, detail, read⟩ | ⟨hidden, read⟩ <;>
      rw [read]
    · exact iff_of_true ⟨_, rfl⟩ ⟨shown, fits⟩
    · exact iff_of_false nofun fun accepted => unfit accepted.2
    · exact iff_of_false nofun fun accepted => hidden accepted.1
  · rcases outcomes with ⟨shown, fits, read⟩ | ⟨shown, unfit, detail, read⟩ | ⟨hidden, read⟩ <;>
      rw [read]
    · exact iff_of_false nofun fun refused => refused.2 fits
    · exact iff_of_true ⟨_, rfl⟩ ⟨shown, unfit⟩
    · exact iff_of_false nofun fun refused => hidden refused.1
  · rcases outcomes with ⟨shown, fits, read⟩ | ⟨shown, unfit, detail, read⟩ | ⟨hidden, read⟩ <;>
      rw [read]
    · exact iff_of_false nofun (not_not_intro shown)
    · exact iff_of_false nofun (not_not_intro shown)
    · exact iff_of_true rfl hidden
  · intro settings accepted
    rcases outcomes with ⟨shown, fits, read⟩ | ⟨shown, unfit, detail, read⟩ | ⟨hidden, read⟩ <;>
      rw [read] at accepted <;> cases accepted
    rw [Settings.toValue_ofEntries fits]
    exact ⟨fun path standard value known given whole =>
        Value.atPath?_completed_given known given whole,
      fun path standard known absent present =>
        Value.atPath?_completed_absent known absent fits.suits present⟩

namespace Sample

/-- A short length, a level that is given, and keys that are not known. -/
def configuration : Entries :=
  [(.text "tokens", .dict [(.text "length", .int 20), (.text "colour", .text "red")]),
    (.text "logging", .dict [(.text "level", .text "DEBUG"), (.text "options", .none)]),
    (.int 7, .text "unknown")]

theorem configuration_read :
    ∃ settings, Settings.ofValue (.dict configuration) = .ok settings ∧
      settings.toValue.atPath? ["tokens", "length"] = some (.int 20) ∧
      settings.toValue.atPath? ["logging", "options"] = some .none ∧
      settings.toValue.atPath? ["tokens", "suffix"] = some (.text "__") := by
  obtain ⟨-, -, -, -, places⟩ := decoding_characterised configuration (by decide)
  have accepted : Settings.ofValue (.dict configuration) = .ok (.ofEntries configuration) := rfl
  obtain ⟨given, absent⟩ := places _ accepted
  refine ⟨_, accepted, given _ _ _ rfl rfl (.inl rfl), given _ _ _ rfl rfl (.inr rfl),
    absent ["tokens", "suffix"] _ rfl rfl ?_⟩
  intro before inFront
  have places : before = [] ∨ before = ["tokens"] ∨ before = ["tokens", "suffix"] := by
    rcases List.prefix_cons_iff.mp inFront with isEmpty | ⟨rest, rfl, further⟩
    · exact .inl isEmpty
    · rcases List.prefix_cons_iff.mp further with rfl | ⟨rest, rfl, isEnd⟩
      · exact .inr (.inl rfl)
      · rw [List.prefix_nil.mp isEnd]
        exact .inr (.inr rfl)
  rcases places with rfl | rfl | rfl <;> nofun

/-- The key has too many digits to be displayed. -/
theorem hidden_unread :
    ¬ ((∃ settings, Settings.ofValue (.dict [(huge, .int 1)]) = .ok settings) ∨
      ∃ detail, Settings.ofValue (.dict [(huge, .int 1)]) =
        .error (.reported (.configInvalid detail))) := by
  have hidden : ¬ Entries.Shown [(huge, .int 1)] := by
    intro shown
    obtain ⟨content, isShown⟩ := shown _ List.mem_cons_self rfl
    rw [show huge.display = .error .digitLimit from resultText_huge] at isShown
    cases isShown
  rw [Settings.ofValue_of_not_shown hidden]
  rintro (⟨settings, same⟩ | ⟨detail, same⟩) <;> cases same

end Sample

end DeferredText
