import DeferredText.Proofs.Accepted
import DeferredText.Proofs.Places

/-!
Contract: what a check of configuration data finds.

Errors are found at entries that name a part without being a mapping, and at settings of the
tokens and of the logging. An unknown key is displayed in the warning about it; a check ends
without findings only where such a key cannot be displayed.

Owns: the errors in data, the shape of data without errors, and the outcome of reading data.

Does not own: the settings that accepted data give (`Proofs.Decoded`).
-/

namespace DeferredText

/-! ### Parts of the data -/

namespace ConfigSection

variable {part : ConfigSection} {data : Entries}

theorem ofKey?_eq_some_iff {key : Value} : ofKey? key = some part ↔ key = .text part.name := by
  rw [← Value.text?_eq_some_iff]
  constructor
  · intro found
    simpa using List.find?_some found
  · intro isName
    unfold ofKey?
    rw [isName]
    cases part <;> decide

end ConfigSection

/-- What stands at a key of a part. -/
theorem Entries.getText?_sectionOf (data : Entries) (part : ConfigSection) (name : String) :
    (data.sectionOf part).getText? name = (Value.dict data).atPath? [part.name, name] := by
  have last (value : Value) : value.atPath? [name] =
      value.dict?.bind fun entries => Entries.getText? entries name := by
    rw [Value.atPath?_cons]
    exact Option.bind_fun_some _
  rw [Value.atPath?_cons, Value.dict?, Option.bind_some]
  unfold Entries.sectionOf ConfigSection.entries?
  cases data.getText? part.name with
  | none => rfl
  | some value =>
      rw [Option.bind_some, Option.bind_some, last]
      cases value.dict? <;> rfl

/-! ### Accepted data -/

namespace Entries

/-- What data have to be to be accepted. Every setting may be left out. -/
structure Fits (data : Entries) : Prop where
  parts : ∀ (part : ConfigSection) (value : Value), data.getText? part.name = some value →
    ∃ entries, value = .dict entries
  length : ∀ value, (Value.dict data).atPath? ["tokens", "length"] = some value →
    value = .none ∨ ∃ number : Int, value = .int number ∧ PlaceholderShape.leastLength ≤ number
  opening : ∀ value, (Value.dict data).atPath? ["tokens", "prefix"] = some value →
    ∃ content, value = .text content ∧ content ≠ ""
  closing : ∀ value, (Value.dict data).atPath? ["tokens", "suffix"] = some value →
    ∃ content, value = .text content
  level : ∀ value, (Value.dict data).atPath? ["logging", "level"] = some value →
    ∃ level : LogLevel, value = .text level.name
  format : ∀ value, (Value.dict data).atPath? ["logging", "format"] = some value →
    ∃ format : LogFormat, value = .text format.name
  components : ∀ value, (Value.dict data).atPath? ["logging", "components"] = some value →
    value = .none ∨ ∃ entries, value = .dict entries
  options : ∀ value, (Value.dict data).atPath? ["logging", "options"] = some value →
    value = .none ∨ ∃ entries, value = .dict entries

/-- The keys that are not known can be displayed. -/
def Shown (data : Entries) : Prop :=
  ∀ entry ∈ data, ConfigSection.ofKey? entry.1 = none → ∃ shown, entry.1.display = .ok shown

end Entries

/-! ### What a check finds -/

namespace Issue

/-- The errors at one entry of the data. -/
def errorsOfEntry (key value : Value) : List Issue :=
  match ConfigSection.ofKey? key with
  | none => []
  | some part =>
      let name := part.name
      if value.dict?.isSome then [] else [⟨key, s!"{name} must be a dictionary", .error⟩]

/-- The errors in data. -/
def errorsOf (data : Entries) : List Issue :=
  (data.flatMap fun entry => errorsOfEntry entry.1 entry.2) ++ ofTokens (data.sectionOf .tokens) ++
    ofLogging (data.sectionOf .logging)

theorem filter_ofEntry {key value : Value} {issues : List Issue}
    (found : ofEntry key value = .ok issues) :
    (issues.filter fun issue => issue.severity == .error) = errorsOfEntry key value := by
  unfold ofEntry at found
  unfold errorsOfEntry
  cases isPart : ConfigSection.ofKey? key with
  | none =>
      rw [isPart] at found
      obtain ⟨shown, -, isWarning⟩ := Outcome.bind_eq_ok_iff.mp found
      cases isWarning
      rfl
  | some part =>
      rw [isPart] at found
      cases value <;> cases found <;> rfl

theorem filter_flatten {data : Entries} {lists : List (List Issue)}
    (walked : (data.mapM fun entry => ofEntry entry.1 entry.2) = .ok lists) :
    (lists.flatten.filter fun issue => issue.severity == .error) =
      data.flatMap fun entry => errorsOfEntry entry.1 entry.2 := by
  induction data generalizing lists with
  | nil =>
      cases walked
      rfl
  | cons entry rest inductionHypothesis =>
      rw [List.mapM_cons] at walked
      obtain ⟨first, found, walked⟩ := Outcome.bind_eq_ok_iff.mp walked
      obtain ⟨others, further, same⟩ := Outcome.bind_eq_ok_iff.mp walked
      cases same
      rw [List.flatten_cons, List.filter_append, List.flatMap_cons, filter_ofEntry found,
        inductionHypothesis further]

/-- Whatever is found wrong with the logging is an error at a setting of it. -/
theorem exists_of_mem_ofLogging {entries : Entries} {issue : Issue}
    (member : issue ∈ ofLogging entries) :
    ∃ setting message, issue = atSetting .logging setting message := by
  have atOne (setting : String) (allowed : List String)
      (isChoice : issue ∈ choiceIssues entries setting allowed) :
      ∃ setting message, issue = atSetting .logging setting message := by
    unfold choiceIssues at isChoice
    dsimp only at isChoice
    split at isChoice
    · cases isChoice
    · exact ⟨_, _, List.mem_singleton.mp isChoice⟩
  rcases List.mem_append.mp member with inLevel | inFormat
  · exact atOne _ _ inLevel
  · exact atOne _ _ inFormat

/-- Errors are at texts, so there is a line about each of them. -/
theorem exists_line {data : Entries} {issue : Issue} (member : issue ∈ errorsOf data) :
    ∃ shown, issue.line = .ok shown := by
  have atText (content message : String) :
      ∃ shown, line ⟨.text content, message, .error⟩ = .ok shown := ⟨_, rfl⟩
  unfold errorsOf at member
  rcases List.mem_append.mp member with earlier | inLogging
  · rcases List.mem_append.mp earlier with atEntry | inTokens
    · obtain ⟨⟨key, value⟩, -, atEntry⟩ := List.mem_flatMap.mp atEntry
      unfold errorsOfEntry at atEntry
      split at atEntry
      · cases atEntry
      · rename_i part isPart
        dsimp only at atEntry
        split at atEntry
        · cases atEntry
        · cases ConfigSection.ofKey?_eq_some_iff.mp isPart
          rw [List.mem_singleton.mp atEntry]
          exact atText _ _
    · obtain ⟨setting, message, rfl⟩ := exists_of_mem_ofTokens inTokens
      exact atText _ _
  · obtain ⟨setting, message, rfl⟩ := exists_of_mem_ofLogging inLogging
    exact atText _ _

end Issue

namespace Outcome

/-- A step for each item gives results exactly if every one of the steps does. -/
theorem exists_mapM_iff {α β : Type} {use : α → Outcome β} {items : List α} :
    (∃ results, items.mapM use = .ok results) ↔ ∀ item ∈ items, ∃ result, use item = .ok result := by
  induction items with
  | nil => exact iff_of_true ⟨[], rfl⟩ nofun
  | cons item rest inductionHypothesis =>
      rw [List.forall_mem_cons, ← inductionHypothesis, List.mapM_cons]
      constructor
      · rintro ⟨results, walked⟩
        obtain ⟨first, used, walked⟩ := bind_eq_ok_iff.mp walked
        obtain ⟨others, further, -⟩ := bind_eq_ok_iff.mp walked
        exact ⟨⟨first, used⟩, ⟨others, further⟩⟩
      · rintro ⟨⟨first, used⟩, ⟨others, further⟩⟩
        exact ⟨first :: others, by rw [used, further]; rfl⟩

end Outcome

theorem FailsByLength.mapM {α β : Type} {use : α → Outcome β}
    (uses : ∀ item, FailsByLength (use item)) : ∀ items : List α, FailsByLength (items.mapM use)
  | [] => .ok []
  | item :: rest => by
      rw [List.mapM_cons]
      exact (uses item).bind fun _ => (FailsByLength.mapM uses rest).bind fun _ => .ok _

theorem failsByLength_ofEntry (key value : Value) : FailsByLength (Issue.ofEntry key value) := by
  unfold Issue.ofEntry
  split
  · exact .ok _
  · exact .ok _
  · exact (failsByLength_display key).bind fun _ => .ok _

/-! ### The outcome of a check -/

namespace Entries

variable {data : Entries}

/-- Unknown keys can be displayed exactly if there is something found at every entry. -/
theorem shown_iff :
    data.Shown ↔ ∃ lists, (data.mapM fun entry => Issue.ofEntry entry.1 entry.2) = .ok lists := by
  rw [Outcome.exists_mapM_iff]
  refine forall₂_congr fun entry _ => ?_
  unfold Issue.ofEntry
  cases isPart : ConfigSection.ofKey? entry.1 with
  | none =>
      constructor
      · intro shown
        obtain ⟨content, isShown⟩ := shown rfl
        exact ⟨_, by rw [isShown]; rfl⟩
      · rintro ⟨issues, found⟩ -
        obtain ⟨content, isShown, -⟩ := Outcome.bind_eq_ok_iff.mp found
        exact ⟨content, isShown⟩
  | some part =>
      refine iff_of_true nofun ?_
      cases entry.2 <;> exact ⟨_, rfl⟩

end Entries

theorem Findings.ofValue_of_shown {data : Entries} (shown : data.Shown) :
    ∃ warnings, ofValue (.dict data) = .ok ⟨Issue.errorsOf data, warnings⟩ := by
  obtain ⟨lists, walked⟩ := Entries.shown_iff.mp shown
  have ofSection (part : ConfigSection) (check : Entries → List Issue) (empty : check [] = []) :
      ((part.entries? data).map check).getD [] = check (data.sectionOf part) := by
    unfold Entries.sectionOf
    cases part.entries? data with
    | none => exact empty.symm
    | some entries => rfl
  have tokensKept : (Issue.ofTokens (data.sectionOf .tokens)).filter
      (fun issue => issue.severity == .error) = Issue.ofTokens (data.sectionOf .tokens) :=
    List.filter_eq_self.mpr fun issue member => beq_iff_eq.mpr (Issue.error_of_mem_ofTokens member)
  have loggingKept : (Issue.ofLogging (data.sectionOf .logging)).filter
      (fun issue => issue.severity == .error) = Issue.ofLogging (data.sectionOf .logging) := by
    refine List.filter_eq_self.mpr fun issue member => ?_
    obtain ⟨setting, message, rfl⟩ := Issue.exists_of_mem_ofLogging member
    rfl
  refine ⟨(lists.flatten ++ Issue.ofTokens (data.sectionOf .tokens) ++
    Issue.ofLogging (data.sectionOf .logging)).filter fun issue => issue.severity == .warning, ?_⟩
  unfold ofValue Issue.ofData
  simp only [Entries.ofValue, walked, bind, Except.bind, pure, Except.pure,
    ofSection .tokens Issue.ofTokens rfl, ofSection .logging Issue.ofLogging rfl]
  rw [List.filter_append, List.filter_append, Issue.filter_flatten walked, tokensKept,
    loggingKept, Issue.errorsOf]

namespace Settings

variable {data other : Entries}

/-- Data with keys that can be displayed are read, or refused with a report. -/
theorem ofValue_cases (shown : data.Shown) :
    (Issue.errorsOf data = [] ∧ LoggingSettings.misfit? (data.sectionOf .logging) = none ∧
      ofValue (.dict data) = .ok (ofEntries data)) ∨
    (¬ (Issue.errorsOf data = [] ∧ LoggingSettings.misfit? (data.sectionOf .logging) = none) ∧
      ∃ detail, ofValue (.dict data) = .error (.reported (.configInvalid detail))) := by
  obtain ⟨warnings, found⟩ := Findings.ofValue_of_shown shown
  unfold ofValue
  simp only [found, Entries.ofValue, bind, Except.bind, Findings.isValid, List.isEmpty_iff]
  by_cases unobjected : Issue.errorsOf data = []
  · rw [if_pos unobjected]
    cases misfit : LoggingSettings.misfit? (data.sectionOf .logging) with
    | none => exact .inl ⟨unobjected, rfl, rfl⟩
    | some reason => exact .inr ⟨fun fine => Option.some_ne_none reason fine.2, _, rfl⟩
  · rw [if_neg unobjected]
    obtain ⟨lines, walked⟩ := Outcome.exists_mapM_iff.mpr fun issue member =>
      Issue.exists_line member
    rw [walked]
    exact .inr ⟨fun fine => unobjected fine.1, _, rfl⟩

/-- Where an unknown key cannot be displayed, that is what is raised. -/
theorem ofValue_of_not_shown (hidden : ¬ data.Shown) : ofValue (.dict data) = .error .digitLimit := by
  cases walked : data.mapM fun entry => Issue.ofEntry entry.1 entry.2 with
  | ok lists => exact absurd (Entries.shown_iff.mpr ⟨lists, walked⟩) hidden
  | error failure =>
      have isLength := FailsByLength.mapM
        (fun entry : Value × Value => failsByLength_ofEntry entry.1 entry.2) data failure walked
      rw [← isLength]
      unfold ofValue Findings.ofValue Issue.ofData
      simp only [Entries.ofValue, walked, bind, Except.bind]

/-- Only the errors, a part that is no mapping and the settings matter. -/
theorem ofValue_congr (shown : data.Shown) (otherShown : other.Shown)
    (errors : Issue.errorsOf other = Issue.errorsOf data)
    (misfit : LoggingSettings.misfit? (other.sectionOf .logging) =
      LoggingSettings.misfit? (data.sectionOf .logging))
    (settings : ofEntries other = ofEntries data) :
    ofValue (.dict other) = ofValue (.dict data) := by
  obtain ⟨warnings, found⟩ := Findings.ofValue_of_shown shown
  obtain ⟨otherWarnings, otherFound⟩ := Findings.ofValue_of_shown otherShown
  unfold ofValue
  simp only [found, otherFound, Entries.ofValue, bind, Except.bind, Findings.isValid, errors,
    misfit, settings]
  rfl

end Settings

/-! ### Data without errors -/

namespace Issue

variable {data entries : Entries}

/-- Nothing is wrong with a setting exactly if it is left out or passes. -/
theorem getD_map_true_iff {given : Option Value} {check : Value → Bool} :
    (given.map check).getD true = true ↔ ∀ value, given = some value → check value = true := by
  cases given <;> simp

theorem lengthIssues_eq_nil_iff : lengthIssues entries = [] ↔
    ∀ value, entries.getText? "length" = some value →
      value = .none ∨ ∃ number : Int, value = .int number ∧ PlaceholderShape.leastLength ≤ number := by
  have passes (value : Value) : isLength value = true ↔
      value = .none ∨ ∃ number : Int, value = .int number ∧
        PlaceholderShape.leastLength ≤ number := by
    cases value <;> simp [isLength]
  unfold lengthIssues
  dsimp only
  rw [ite_eq_left_iff]
  simp [← passes, ← getD_map_true_iff]

theorem textIssues_eq_nil_iff {name : String} : textIssues entries name = [] ↔
    ∀ value, entries.getText? name = some value → ∃ content, value = .text content := by
  have passes (value : Value) : value.text?.isSome = true ↔ ∃ content, value = .text content := by
    cases value <;> simp [Value.text?]
  unfold textIssues
  rw [ite_eq_left_iff]
  simp [← passes, ← getD_map_true_iff]

theorem emptyIssues_eq_nil_iff : emptyIssues entries = [] ↔
    entries.getText? "prefix" ≠ some (.text "") := by
  unfold emptyIssues
  simp [Option.bind_eq_some_iff, Value.text?_eq_some_iff]

theorem choiceIssues_eq_nil_iff {name : String} {allowed : List String} :
    choiceIssues entries name allowed = [] ↔
      ∀ value, entries.getText? name = some value → ∃ choice ∈ allowed, value = .text choice := by
  have passes (value : Value) : (value.text?.any allowed.contains) = true ↔
      ∃ choice ∈ allowed, value = .text choice := by
    cases value <;> simp [Value.text?]
  unfold choiceIssues
  dsimp only
  rw [ite_eq_left_iff]
  simp [← passes, ← getD_map_true_iff]

end Issue

namespace Entries

variable {data : Entries}

/-- In data with different keys, every part is found under its name. -/
theorem flatMap_errorsOfEntry_eq_nil_iff
    (distinct : data.Distinct) :
    (data.flatMap fun entry => Issue.errorsOfEntry entry.1 entry.2) = [] ↔
      ∀ (part : ConfigSection) (value : Value), data.getText? part.name = some value →
        ∃ entries, value = .dict entries := by
  have passes (part : ConfigSection) (value : Value) :
      Issue.errorsOfEntry (.text part.name) value = [] ↔ ∃ entries, value = .dict entries := by
    unfold Issue.errorsOfEntry
    rw [ConfigSection.ofKey?_eq_some_iff.mpr rfl]
    cases value <;> simp [Value.dict?]
  rw [List.flatMap_eq_nil_iff]
  constructor
  · intro fine part value given
    exact (passes part value).mp (fine _ (mem_of_getText? given))
  · rintro fits ⟨key, value⟩ member
    cases isPart : ConfigSection.ofKey? key with
    | none => simp only [Issue.errorsOfEntry, isPart]
    | some part =>
        cases ConfigSection.ofKey?_eq_some_iff.mp isPart
        exact (passes part value).mpr (fits part value (getText?_of_mem distinct member))

end Entries

namespace LoggingSettings

theorem exists_partName?_iff {key : Value} :
    (∃ title, partName? key = some title) ↔ key = .text "components" ∨ key = .text "options" := by
  rw [← Value.text?_eq_some_iff, ← Value.text?_eq_some_iff]
  unfold partName?
  by_cases isComponents : key.text? = some "components"
  · simp [isComponents]
  · by_cases isOptions : key.text? = some "options"
    · simp [isOptions]
    · simp [isComponents, isOptions]

/-- No part is unfit in entries with different keys exactly if each is left out, none, or a
mapping. -/
theorem misfit?_eq_none_iff {entries : Entries}
    (distinct : entries.Distinct) :
    misfit? entries = none ↔ ∀ name, name = "components" ∨ name = "options" → ∀ value,
      entries.getText? name = some value → value = .none ∨ ∃ parts, value = .dict parts := by
  unfold misfit?
  rw [List.findSome?_eq_none_iff]
  constructor
  · intro fine name isPart value given
    have passes := fine _ (Entries.mem_of_getText? given)
    obtain ⟨title, isTitle⟩ := exists_partName?_iff.mpr
      (isPart.imp (congrArg Value.text) (congrArg Value.text))
    rw [isTitle] at passes
    cases value with
    | none => exact .inl rfl
    | dict parts => exact .inr ⟨parts, rfl⟩
    | _ => cases passes
  · rintro fits ⟨key, value⟩ member
    cases isTitle : partName? key with
    | none => rfl
    | some title =>
        have isPart := exists_partName?_iff.mp ⟨title, isTitle⟩
        have given (name : String) (isName : key = .text name) :
            entries.getText? name = some value :=
          Entries.getText?_of_mem distinct (isName ▸ member)
        have shape : value = .none ∨ ∃ parts, value = .dict parts := by
          rcases isPart with isName | isName
          · exact fits _ (.inl rfl) value (given _ isName)
          · exact fits _ (.inr rfl) value (given _ isName)
        rcases shape with rfl | ⟨parts, rfl⟩ <;> rfl

end LoggingSettings

namespace Entries

variable {data : Entries}

/-- The keys of a part differ as well. -/
theorem distinct_sectionOf (keyed : (Value.dict data).isKeyed = true) (part : ConfigSection) :
    (data.sectionOf part).Distinct := by
  rw [Value.isKeyed, Bool.and_eq_true] at keyed
  unfold Entries.sectionOf ConfigSection.entries?
  cases given : data.getText? part.name with
  | none => exact .nil
  | some value =>
      cases value with
      | dict entries =>
          have inner := Value.isKeyed_of_mem keyed.2 (mem_of_getText? given)
          rw [Value.isKeyed, Bool.and_eq_true] at inner
          exact of_decide_eq_true inner.1
      | _ => exact .nil

/-- Data have no errors and no unfit part exactly if they are as accepted data have to be. -/
theorem fits_iff (keyed : (Value.dict data).isKeyed = true) :
    (Issue.errorsOf data = [] ∧ LoggingSettings.misfit? (data.sectionOf .logging) = none) ↔
      data.Fits := by
  have isLevel (value : Value) : (∃ choice ∈ LogLevel.all.map LogLevel.name, value = .text choice) ↔
      ∃ level : LogLevel, value = .text level.name := by
    have all (level : LogLevel) : level ∈ LogLevel.all := by cases level <;> decide
    simp [all]
  have isFormat (value : Value) :
      (∃ choice ∈ LogFormat.all.map LogFormat.name, value = .text choice) ↔
        ∃ format : LogFormat, value = .text format.name := by
    have all (format : LogFormat) : format ∈ LogFormat.all := by cases format <;> decide
    simp [all]
  have distinct : data.Distinct := by
    rw [Value.isKeyed, Bool.and_eq_true] at keyed
    exact of_decide_eq_true keyed.1
  rw [LoggingSettings.misfit?_eq_none_iff (distinct_sectionOf keyed .logging), Issue.errorsOf,
    List.append_eq_nil_iff, List.append_eq_nil_iff, flatMap_errorsOfEntry_eq_nil_iff distinct,
    Issue.ofTokens, Issue.ofLogging]
  simp only [List.append_eq_nil_iff, Issue.lengthIssues_eq_nil_iff, Issue.textIssues_eq_nil_iff,
    Issue.emptyIssues_eq_nil_iff, Issue.choiceIssues_eq_nil_iff, getText?_sectionOf, isLevel,
    isFormat]
  constructor
  · rintro ⟨⟨⟨parts, ⟨⟨⟨length, opening⟩, closing⟩, nonempty⟩⟩, level, format⟩, fitting⟩
    refine ⟨parts, length, ?_, closing, level, format, fitting _ (.inl rfl), fitting _ (.inr rfl)⟩
    intro value given
    obtain ⟨content, rfl⟩ := opening value given
    refine ⟨content, rfl, ?_⟩
    rintro rfl
    exact nonempty given
  · intro fits
    refine ⟨⟨⟨fits.parts, ⟨⟨⟨fits.length, ?_⟩, fits.closing⟩, ?_⟩⟩, fits.level, fits.format⟩, ?_⟩
    · intro value given
      obtain ⟨content, isText, -⟩ := fits.opening value given
      exact ⟨content, isText⟩
    · intro given
      obtain ⟨content, isText, nonempty⟩ := fits.opening _ given
      exact nonempty (Value.text.inj isText).symm
    · rintro name (rfl | rfl)
      · exact fits.components
      · exact fits.options

end Entries

end DeferredText
