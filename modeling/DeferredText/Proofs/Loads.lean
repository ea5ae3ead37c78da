import DeferredText.Config.Loader
import Mathlib.Data.List.Induction

/-!
Contract: what a loader has after any calls.

A load gives settings exactly if its request supplies data in which they are found; it then sets
the settings and the file they were read from together. A call that fails and a validation leave
the loader as it was, so it has what the last successful load gave.

Owns: the data that a request supplies, the calls of a loader, and its state after a run of them.

Does not own: how the mapping in a file is expanded (`Proofs.Expanded`) and what a merge leads to
(`Proofs.Layers`).
-/

namespace DeferredText

/-! ### The data of a request -/

namespace Surroundings

variable {surroundings : Surroundings} {found : Option PathName}

/-- Which existing file a request is about: the one it names, or the first one of the search. -/
def Reaches
    (surroundings : Surroundings)
    (path : Option String)
    (found : Option PathName) : Prop :=
  match path with
  | some text => found = (some (PathName.ofText text)).filter surroundings.files.contains
  | none => surroundings.configFile? = .ok found

/-- The search finds only files that exist. -/
theorem filter_configFile? (isFound : surroundings.configFile? = .ok found) :
    found.filter surroundings.files.contains = found := by
  have kept (path : PathName) : Option.filter surroundings.files.contains
      (if surroundings.files.contains path then some path else none) =
        if surroundings.files.contains path then some path else none := by
    cases isFile : surroundings.files.contains path <;> simp [isFile]
  unfold configFile? at isFound
  dsimp only at isFound
  split at isFound
  · cases isFound
    exact kept _
  · split at isFound
    · rename_i path isLocal
      cases isFound
      rw [← isLocal]
      exact kept _
    · obtain ⟨path, -, isUser⟩ := Outcome.bind_eq_ok_iff.mp isFound
      cases isUser
      exact kept path

theorem filter_reached {path : Option String} (reached : surroundings.Reaches path found) :
    found.filter surroundings.files.contains = found := by
  cases path with
  | some text =>
      rw [show found = _ from reached, Option.filter_filter]
      simp
  | none => exact filter_configFile? reached

end Surroundings

namespace LoadRequest

/-- The data that a file and overrides give together. -/
def layered
    (base : Entries)
    (given : Value) : Outcome Value :=
  if given.truthy then do return .dict (base.merge (← Entries.ofValue given)) else .ok (.dict base)

/-- The data that a request supplies, and the file that they are from. -/
inductive Supplies (surroundings : Surroundings) :
    LoadRequest → Value → Option PathName → Prop where
  | standard : Supplies surroundings .standard (.dict []) none
  | data (value : Value) : Supplies surroundings (.data value) value none
  | placed (value : Value) (path : PathName) :
      Supplies surroundings (.placed value path) value (some path)
  | file {path : Option String} {usesStandard : Bool} {given data : Value} {existing : PathName}
      {base : Entries} (reached : surroundings.Reaches path (some existing))
      (read : surroundings.readMapping existing = .ok base)
      (laid : layered base given = .ok data) :
      Supplies surroundings (.file path usesStandard given) data (some existing)
  | fallback {path : Option String} {given : Value} (missing : surroundings.Reaches path none) :
      Supplies surroundings (.file path true given)
        (if given.truthy then given else .dict []) none

variable {surroundings : Surroundings} {request : LoadRequest} {path : Option String}
  {existing : PathName} {given : Value} {loaded : LoadedSettings}

/-- What a request gives that is about a file. -/
theorem fromFile_of_file (reached : surroundings.Reaches path (some existing))
    (usesStandard : Bool) :
    fromFile surroundings path usesStandard given = do
      let base ← surroundings.readMapping existing
      let data ← layered base given
      let settings ← Settings.ofValue data
      return ⟨settings, some existing⟩ := by
  have isFile : (some existing).filter surroundings.files.contains = some existing :=
    Surroundings.filter_reached reached
  have afterwards (base : Entries) :
      (if given.truthy then do
          let entries ← Entries.ofValue given
          let settings ← Settings.ofValue (.dict (base.merge entries))
          return ⟨settings, some existing⟩
        else do
          let settings ← Settings.ofValue (.dict base)
          return ⟨settings, some existing⟩ : Outcome LoadedSettings) = do
        let data ← layered base given
        let settings ← Settings.ofValue data
        return ⟨settings, some existing⟩ := by
    unfold layered
    split
    · cases Entries.ofValue given <;> rfl
    · rfl
  simp only [fromFile, ← afterwards]
  cases path with
  | some text => simp only [pure_bind, ← show some existing = _ from reached]
  | none =>
      rw [show surroundings.configFile? = .ok (some existing) from reached]
      simp only [bind, Except.bind, isFile]
      rfl

/-- What a request gives that may do without a file, if there is none. -/
theorem fromFile_of_no_file (missing : surroundings.Reaches path none) :
    fromFile surroundings path true given = do
      let settings ← Settings.ofValue (if given.truthy then given else .dict [])
      return ⟨settings, none⟩ := by
  simp only [fromFile]
  cases path with
  | some text => simp only [pure_bind, ← show none = _ from missing, if_pos]
  | none =>
      rw [show surroundings.configFile? = .ok none from missing]
      rfl

/-- A request that may not do without a file gives nothing, if there is none. -/
theorem fromFile_of_required (missing : surroundings.Reaches path none) :
    fromFile surroundings path false given ≠ .ok loaded := by
  intro gives
  simp only [fromFile] at gives
  cases path with
  | some text =>
      simp only [pure_bind, ← show none = _ from missing] at gives
      cases gives
  | none =>
      rw [show surroundings.configFile? = .ok none from missing] at gives
      cases gives

/-- Where settings are given, the search came to an end. -/
theorem reaches_of_fromFile {usesStandard : Bool}
    (gives : fromFile surroundings path usesStandard given = .ok loaded) :
    ∃ found, surroundings.Reaches path found := by
  cases path with
  | some text => exact ⟨_, rfl⟩
  | none =>
      cases isFound : surroundings.configFile? with
      | ok found => exact ⟨found, isFound⟩
      | error failure =>
          simp only [fromFile, isFound] at gives
          cases gives

/-- Settings are kept together with the file they were read from. -/
theorem settle_eq_ok_iff {data : Value} {source : Option PathName} :
    (do return ⟨← Settings.ofValue data, source⟩ : Outcome LoadedSettings) = .ok loaded ↔
      source = loaded.path ∧ Settings.ofValue data = .ok loaded.settings := by
  rw [Outcome.bind_eq_ok_iff]
  constructor
  · rintro ⟨settings, isSettings, gives⟩
    cases gives
    exact ⟨rfl, isSettings⟩
  · rintro ⟨rfl, isSettings⟩
    exact ⟨loaded.settings, isSettings, rfl⟩

theorem fromFile_eq_ok_iff {usesStandard : Bool} :
    fromFile surroundings path usesStandard given = .ok loaded ↔
      ∃ data, (file path usesStandard given).Supplies surroundings data loaded.path ∧
        Settings.ofValue data = .ok loaded.settings := by
  constructor
  · intro gives
    obtain ⟨found, reached⟩ := reaches_of_fromFile gives
    cases found with
    | some existing =>
        rw [fromFile_of_file reached] at gives
        obtain ⟨base, read, gives⟩ := Outcome.bind_eq_ok_iff.mp gives
        obtain ⟨data, laid, gives⟩ := Outcome.bind_eq_ok_iff.mp gives
        obtain ⟨isPath, isSettings⟩ := settle_eq_ok_iff.mp gives
        exact ⟨data, isPath ▸ .file reached read laid, isSettings⟩
    | none =>
        cases usesStandard with
        | true =>
            rw [fromFile_of_no_file reached] at gives
            obtain ⟨isPath, isSettings⟩ := settle_eq_ok_iff.mp gives
            exact ⟨_, isPath ▸ .fallback reached, isSettings⟩
        | false => exact absurd gives (fromFile_of_required reached)
  · rintro ⟨data, supplies, isSettings⟩
    generalize isPath : loaded.path = source at supplies
    cases supplies with
    | file reached read laid =>
        rw [fromFile_of_file reached, read]
        refine Outcome.bind_eq_ok_iff.mpr ⟨_, rfl, Outcome.bind_eq_ok_iff.mpr ⟨data, laid, ?_⟩⟩
        exact settle_eq_ok_iff.mpr ⟨isPath.symm, isSettings⟩
    | fallback missing =>
        rw [fromFile_of_no_file missing]
        exact settle_eq_ok_iff.mpr ⟨isPath.symm, isSettings⟩

/-- A request that supplies only certain data gives the settings found in them. -/
theorem settle_iff_supplied {data : Value} {source : Option PathName}
    (supplied : ∀ other path,
      request.Supplies surroundings other path ↔ other = data ∧ path = source) :
    (do return ⟨← Settings.ofValue data, source⟩ : Outcome LoadedSettings) = .ok loaded ↔
      ∃ other, request.Supplies surroundings other loaded.path ∧
        Settings.ofValue other = .ok loaded.settings := by
  rw [settle_eq_ok_iff]
  constructor
  · rintro ⟨isPath, isSettings⟩
    exact ⟨data, (supplied _ _).mpr ⟨rfl, isPath.symm⟩, isSettings⟩
  · rintro ⟨other, supplies, isSettings⟩
    obtain ⟨rfl, isPath⟩ := (supplied _ _).mp supplies
    exact ⟨isPath.symm, isSettings⟩

/-- A request gives settings exactly if they are found in the data that it supplies. -/
theorem answer_eq_ok_iff :
    request.answer surroundings = .ok loaded ↔
      ∃ data, request.Supplies surroundings data loaded.path ∧
        Settings.ofValue data = .ok loaded.settings := by
  cases request with
  | file path usesStandard given => exact fromFile_eq_ok_iff
  | standard =>
      refine settle_iff_supplied fun other path => ⟨fun supplies => ?_, ?_⟩
      · cases supplies
        exact ⟨rfl, rfl⟩
      · rintro ⟨rfl, rfl⟩
        exact .standard
  | data value =>
      refine settle_iff_supplied fun other path => ⟨fun supplies => ?_, ?_⟩
      · cases supplies
        exact ⟨rfl, rfl⟩
      · rintro ⟨rfl, rfl⟩
        exact .data _
  | placed value source =>
      refine settle_iff_supplied fun other path => ⟨fun supplies => ?_, ?_⟩
      · cases supplies
        exact ⟨rfl, rfl⟩
      · rintro ⟨rfl, rfl⟩
        exact .placed _ _

end LoadRequest

/-! ### Calls -/

/-- A call of a loader; a load finds the files and variables that there are at its time. -/
inductive LoaderCall where
  | load (surroundings : Surroundings) (request : LoadRequest)
  | validate (data : Value)

/-- What a call gives. -/
inductive LoaderAnswer where
  | loaded (settings : Settings)
  | checked (findings : Findings)

/-- The settings that a call loads, together with the file they are from. -/
inductive LoaderCall.Loads : LoaderCall → LoadedSettings → Prop where
  | load {surroundings : Surroundings} {request : LoadRequest} {data : Value}
      {loaded : LoadedSettings} (supplies : request.Supplies surroundings data loaded.path)
      (found : Settings.ofValue data = .ok loaded.settings) :
      Loads (.load surroundings request) loaded

namespace SettingsLoader

/-- The answer to a call, and the loader after it. -/
def perform (loader : SettingsLoader) : LoaderCall → Outcome LoaderAnswer × SettingsLoader
  | .load surroundings request =>
      let result := loader.load surroundings request
      (result.1.map .loaded, result.2)
  | .validate data => ((Findings.ofValue data).map .checked, loader)

/-- The loader after a run of calls. -/
def after
    (loader : SettingsLoader)
    (calls : List LoaderCall) : SettingsLoader :=
  calls.foldl (fun current call => (current.perform call).2) loader

variable {loader : SettingsLoader} {call : LoaderCall} {loaded : LoadedSettings}

/-- A call that loads something answers with the settings, and sets them together with their
file. -/
theorem perform_of_loads (loads : call.Loads loaded) (loader : SettingsLoader) :
    loader.perform call = (.ok (.loaded loaded.settings), ⟨some loaded⟩) := by
  cases loads with
  | load supplies found =>
      rw [perform, load, LoadRequest.answer_eq_ok_iff.mpr ⟨_, supplies, found⟩]
      rfl

/-- A call that loads nothing is a validation, or it fails; the loader is as it was. -/
theorem perform_of_not_loads (nothing : ∀ loaded, ¬ call.Loads loaded) (loader : SettingsLoader) :
    (loader.perform call).2 = loader ∧
      ((∃ data, call = .validate data) ∨ ∃ failure, (loader.perform call).1 = .error failure) := by
  cases call with
  | validate data => exact ⟨rfl, .inl ⟨data, rfl⟩⟩
  | load surroundings request =>
      cases gives : request.answer surroundings with
      | ok loaded =>
          obtain ⟨data, supplies, found⟩ := LoadRequest.answer_eq_ok_iff.mp gives
          exact absurd (.load supplies found) (nothing loaded)
      | error failure =>
          rw [perform, load, gives]
          exact ⟨rfl, .inr ⟨failure, rfl⟩⟩

theorem after_concat (calls : List LoaderCall) (call : LoaderCall) :
    loader.after (calls ++ [call]) = ((loader.after calls).perform call).2 :=
  List.foldl_append

/-- A run after which nothing was loaded leaves the loader as it was; otherwise it has what the
last call loaded that loaded anything. The induction is on the run, taken from its end. -/
theorem after_eq (loader : SettingsLoader) (calls : List LoaderCall) :
    ((∀ call ∈ calls, ∀ loaded, ¬ call.Loads loaded) ∧ loader.after calls = loader) ∨
      ∃ before call later loaded, calls = before ++ call :: later ∧ call.Loads loaded ∧
        (∀ call ∈ later, ∀ loaded, ¬ call.Loads loaded) ∧ loader.after calls = ⟨some loaded⟩ := by
  induction calls using List.reverseRecOn with
  | nil => exact .inl ⟨nofun, rfl⟩
  | append_singleton calls call inductionHypothesis =>
      rw [after_concat]
      by_cases loads : ∃ loaded, call.Loads loaded
      · obtain ⟨loaded, loads⟩ := loads
        rw [perform_of_loads loads]
        exact .inr ⟨calls, call, [], loaded, rfl, loads, nofun, rfl⟩
      · have nothing : ∀ loaded, ¬ call.Loads loaded := not_exists.mp loads
        rw [(perform_of_not_loads nothing _).1]
        rcases inductionHypothesis with ⟨none, kept⟩ | ⟨before, last, later, loaded, rfl, rest⟩
        · have all := List.forall_mem_append.mpr ⟨none, List.forall_mem_singleton.mpr nothing⟩
          exact .inl ⟨all, kept⟩
        · obtain ⟨loads, none, kept⟩ := rest
          have all := List.forall_mem_append.mpr ⟨none, List.forall_mem_singleton.mpr nothing⟩
          refine .inr ⟨before, last, later ++ [call], loaded, ?_, loads, all, kept⟩
          rw [List.append_assoc, List.cons_append]

/-- Only a call that loads something answers with settings. -/
theorem perform_eq_loaded_iff {settings : Settings} :
    (loader.perform call).1 = .ok (.loaded settings) ↔ ∃ path, call.Loads ⟨settings, path⟩ := by
  constructor
  · intro answers
    by_contra nothing
    push Not at nothing
    by_cases loads : ∃ loaded, call.Loads loaded
    · obtain ⟨loaded, loads⟩ := loads
      rw [perform_of_loads loads] at answers
      cases answers
      exact nothing loaded.path loads
    · obtain ⟨-, ⟨data, rfl⟩ | ⟨failure, fails⟩⟩ :=
        perform_of_not_loads (not_exists.mp loads) loader
      · rw [perform] at answers
        cases findings : Findings.ofValue data with
        | ok found =>
            rw [findings] at answers
            cases answers
        | error failure =>
            rw [findings] at answers
            cases answers
      · rw [fails] at answers
        cases answers
  · rintro ⟨path, loads⟩
    rw [perform_of_loads loads]

/-- A call that fails, and a validation, change nothing. -/
theorem perform_unchanged
    (fruitless : (∃ data, call = .validate data) ∨
      ∃ failure, (loader.perform call).1 = .error failure) : (loader.perform call).2 = loader := by
  rcases fruitless with ⟨data, rfl⟩ | ⟨failure, fails⟩
  · rfl
  · refine (perform_of_not_loads (fun loaded loads => ?_) loader).1
    rw [perform_of_loads loads] at fails
    cases fails

end SettingsLoader

/-- After any calls, the settings and the file of a loader are those of the last call that loaded
anything, or there are none yet. Calls answer with settings exactly if they load them, and a
call that fails changes neither, nor does a validation. -/
theorem loader_keeps_last_load (calls : List LoaderCall) :
    let loader := SettingsLoader.initial.after calls
    ((∀ call ∈ calls, ∀ loaded, ¬ call.Loads loaded) ∧
        loader.settings = .error (.reported (.configInvalid "Configuration not loaded")) ∧
        loader.path = none ∨
      ∃ before call later loaded, calls = before ++ call :: later ∧ call.Loads loaded ∧
        (∀ call ∈ later, ∀ other, ¬ call.Loads other) ∧
        loader.settings = .ok loaded.settings ∧ loader.path = loaded.path) ∧
    (∀ call settings, (loader.perform call).1 = .ok (.loaded settings) ↔
      ∃ path, call.Loads ⟨settings, path⟩) ∧
    ∀ call, ((∃ data, call = .validate data) ∨
        ∃ failure, (loader.perform call).1 = .error failure) →
      (loader.perform call).2.settings = loader.settings ∧
        (loader.perform call).2.path = loader.path := by
  refine ⟨?_, fun call settings => SettingsLoader.perform_eq_loaded_iff, ?_⟩
  · rcases SettingsLoader.after_eq .initial calls with
      ⟨none, kept⟩ | ⟨before, call, later, loaded, split, loads, none, kept⟩
    · rw [kept]
      exact .inl ⟨none, rfl, rfl⟩
    · rw [kept]
      exact .inr ⟨before, call, later, loaded, split, loads, none, rfl, rfl⟩
  · intro call fruitless
    rw [SettingsLoader.perform_unchanged fruitless]
    exact ⟨rfl, rfl⟩

namespace Sample

/-- Nothing but the one directory there is. -/
def emptyDisk : Surroundings :=
  ⟨[], []⟩

def placedLoad : LoaderCall :=
  .load emptyDisk (.placed (.dict []) (PathName.ofText "settings/base.yaml"))

/-- A file that is missing, a validation, and data that are refused. -/
def fruitlessCalls : List LoaderCall :=
  [.load emptyDisk (.file (some "missing.yaml") false .none), .validate (.dict []),
    .load emptyDisk (.data (.dict [(.text "tokens", .int 1)]))]

/-- What the one successful load set is still there after the calls that follow it, and the last
of these changes nothing when it is made once more. -/
theorem placed_load_kept :
    let loader := SettingsLoader.initial.after (placedLoad :: fruitlessCalls)
    loader.path = some (PathName.ofText "settings/base.yaml") ∧
    (loader.perform (.load emptyDisk (.data (.dict [(.text "tokens", .int 1)])))).2.path =
      loader.path := by
  obtain ⟨-, -, unchanged⟩ := loader_keeps_last_load (placedLoad :: fruitlessCalls)
  refine ⟨by decide +kernel, (unchanged _ (.inr (Exists.intro _ rfl))).2⟩

end Sample

end DeferredText
