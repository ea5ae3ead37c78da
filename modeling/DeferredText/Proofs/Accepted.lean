import DeferredText.Proofs.Unheard
import DeferredText.Cache.Setup

/-!
Contract: which accepted settings can be used.

The checks of a configuration fix the texts around a token, its least length, and the level and
the format of the log. They let through a length that is none or too large, parts of the logging
that are none, and any bound for the arguments a log shows. Exactly these stand between an
accepted configuration and a cache that works.

Owns: what the checks guarantee, when settings are usable, and the sessions of usable settings.

Does not own: logs that fail to write (`Proofs.Tellable`) and what that does to a session
(`Proofs.Unheard`).
-/

namespace DeferredText

/-! ### What the checks guarantee -/

/-- The texts around a token are texts, the first one is not empty, and the length is a large
enough number if it is given. -/
structure TokenSettings.Checked (tokens : TokenSettings) : Prop where
  opening : ∃ content, tokens.opening = .text content ∧ content ≠ ""
  closing : ∃ content, tokens.closing = .text content
  length : tokens.length = .none ∨
    ∃ number, tokens.length = .int number ∧ (PlaceholderShape.leastLength : Int) ≤ number

namespace Issue

variable {entries : Entries}

theorem isLength_setting (unobjected : lengthIssues entries = []) :
    isLength (entries.setting "length" TokenSettings.standard.length) = true := by
  unfold lengthIssues at unobjected
  split at unobjected
  · rename_i fine
    unfold Entries.setting
    cases given : entries.getText? "length" with
    | none => decide
    | some value => simpa [given] using fine
  · cases unobjected

theorem text_setting {name : String} (standard : String) (unobjected : textIssues entries name = []) :
    ∃ content, entries.setting name (.text standard) = .text content := by
  unfold textIssues at unobjected
  split at unobjected
  · rename_i fine
    unfold Entries.setting
    cases given : entries.getText? name with
    | none => exact ⟨standard, rfl⟩
    | some value =>
        rw [given] at fine
        cases value with
        | text content => exact ⟨content, rfl⟩
        | _ => cases fine
  · cases unobjected

theorem nonempty_setting {content : String} (unobjected : emptyIssues entries = [])
    (isText : entries.setting "prefix" TokenSettings.standard.opening = .text content) :
    content ≠ "" := by
  rintro rfl
  unfold emptyIssues at unobjected
  unfold Entries.setting at isText
  cases given : entries.getText? "prefix" with
  | none =>
      rw [given] at isText
      exact absurd isText (by simp [TokenSettings.standard, PlaceholderShape.standard])
  | some value =>
      rw [given, Option.getD_some] at isText
      rw [given, isText] at unobjected
      cases unobjected

theorem checked_of_ofTokens (unobjected : ofTokens entries = []) :
    (TokenSettings.ofEntries entries).Checked := by
  simp only [ofTokens, List.append_eq_nil_iff] at unobjected
  obtain ⟨⟨⟨length, opening⟩, closing⟩, nonempty⟩ := unobjected
  obtain ⟨content, isText⟩ := text_setting PlaceholderShape.standard.opening opening
  refine ⟨⟨content, isText, nonempty_setting nonempty isText⟩, text_setting _ closing, ?_⟩
  have fine := isLength_setting length
  show (entries.setting "length" TokenSettings.standard.length) = _ ∨
    ∃ number, (entries.setting "length" TokenSettings.standard.length) = _ ∧ _
  generalize entries.setting "length" TokenSettings.standard.length = given at fine
  cases given with
  | none => exact .inl rfl
  | int number => exact .inr ⟨number, rfl, of_decide_eq_true fine⟩
  | _ => cases fine

/-- Whatever is found wrong with tokens is an error at a setting of them. -/
theorem exists_of_mem_ofTokens {issue : Issue} (member : issue ∈ ofTokens entries) :
    ∃ setting message, issue = atSetting .tokens setting message := by
  simp only [ofTokens, lengthIssues, textIssues, emptyIssues, List.mem_append] at member
  rcases member with ((inLength | inOpening) | inClosing) | inEmpty
  all_goals
    split at *
    all_goals first
      | exact ⟨_, _, List.mem_singleton.mp ‹_›⟩
      | contradiction

theorem error_of_mem_ofTokens {issue : Issue} (member : issue ∈ ofTokens entries) :
    issue.severity = .error := by
  obtain ⟨setting, message, rfl⟩ := exists_of_mem_ofTokens member
  rfl

end Issue

/-- Data in which no error is found have nothing wrong with their tokens. -/
theorem Findings.ofTokens_of_isValid {data : Entries} {findings : Findings}
    (found : Findings.ofValue (.dict data) = .ok findings) (valid : findings.isValid = true) :
    Issue.ofTokens (data.sectionOf .tokens) = [] := by
  unfold Findings.ofValue Issue.ofData at found
  simp only [Entries.ofValue, bind, Except.bind] at found
  cases walked : data.mapM fun entry => Issue.ofEntry entry.1 entry.2 with
  | error failure =>
      rw [walked] at found
      cases found
  | ok entryIssues =>
      rw [walked] at found
      cases found
      unfold Entries.sectionOf
      cases given : ConfigSection.tokens.entries? data with
      | none => rfl
      | some tokens =>
          rw [Option.getD_some]
          refine List.eq_nil_iff_forall_not_mem.mpr fun issue member => ?_
          have isError := Issue.error_of_mem_ofTokens member
          simp only [Findings.isValid, List.isEmpty_iff, given] at valid
          refine List.not_mem_nil (a := issue) (valid ▸ List.mem_filter.mpr ⟨?_, ?_⟩)
          · simp [member]
          · simp [isError]

namespace Settings

/-- Accepted data are read as they stand, and have been checked. -/
theorem ofValue_ok {data : Entries} {settings : Settings}
    (accepted : ofValue (.dict data) = .ok settings) :
    settings = ofEntries data ∧ settings.tokens.Checked := by
  unfold ofValue at accepted
  cases found : Findings.ofValue (.dict data) with
  | error failure =>
      rw [found] at accepted
      cases accepted
  | ok findings =>
      simp only [found, Entries.ofValue, bind, Except.bind] at accepted
      split at accepted
      · rename_i valid
        have unobjected := Findings.ofTokens_of_isValid found valid
        split at accepted
        · cases accepted
          exact ⟨rfl, Issue.checked_of_ofTokens unobjected⟩
        · cases accepted
      · cases lines : findings.errors.mapM Issue.line with
        | error failure =>
            rw [lines] at accepted
            cases accepted
        | ok shown =>
            rw [lines] at accepted
            cases accepted

theorem ofValue_of_isOk {data : Entries} (accepted : (ofValue (.dict data)).isOk = true) :
    ofValue (.dict data) = .ok (ofEntries data) := by
  cases read : ofValue (.dict data) with
  | error failure =>
      rw [read] at accepted
      cases accepted
  | ok settings => rw [(ofValue_ok read).1]

end Settings

/-! ### When settings are usable -/

namespace PlaceholderShape

/-- A number below the bound of lengths can be written out. -/
theorem integerText_of_lt {number : Int} (least : (leastLength : Int) ≤ number)
    (small : number < (lengthBound : Int)) : ∃ text, integerText number = .ok text := by
  have digits : (Nat.toDigits 10 number.natAbs).length ≤ 10 := by
    refine (Nat.length_toDigits_le_iff (by decide) (by decide)).mpr ?_
    unfold leastLength at least
    unfold lengthBound at small
    omega
  unfold integerText digitBound
  rw [if_neg (by omega)]
  exact ⟨_, rfl⟩

/-- Checked settings describe tokens exactly if the length is given and below the bound. -/
theorem ofSettings_ok_iff {tokens : TokenSettings} (checked : tokens.Checked) :
    (∃ shape, ofSettings tokens.opening tokens.closing tokens.length = .ok shape) ↔
      ∃ number, tokens.length = .int number ∧ number < (lengthBound : Int) := by
  obtain ⟨⟨opening, isOpening, nonempty⟩, ⟨closing, isClosing⟩, length⟩ := checked
  rw [isOpening, isClosing]
  rcases length with absent | ⟨number, given, least⟩
  · rw [absent]
    constructor
    · rintro ⟨shape, made⟩
      cases made
    · rintro ⟨number, given, -⟩
      cases given
  · have long : isTooShort (.int number) = .ok false := by
      simp only [isTooShort, Value.int?, Except.ok.injEq, decide_eq_false_iff_not]
      omega
    have inFront : (Value.text opening).truthy = true := by
      simpa [Value.truthy] using nonempty
    have written : (Value.int number).display = integerText number := rfl
    have counted : bodyLength (.int number) = if number < (lengthBound : Int) then
        .ok number.toNat else .error (.withMessage .overflow "the repetition number is too large") :=
      rfl
    rw [given]
    unfold ofSettings
    simp only [long, inFront, written, counted, affix, bind, Except.bind]
    by_cases small : number < (lengthBound : Int)
    · obtain ⟨text, shown⟩ := integerText_of_lt least small
      simp only [shown, if_pos small]
      exact ⟨fun _ => ⟨number, rfl, small⟩, fun _ => ⟨_, rfl⟩⟩
    · constructor
      · rintro ⟨shape, made⟩
        rw [if_neg small] at made
        cases shown : integerText number <;> rw [shown] at made <;> cases made
      · rintro ⟨same, isSame, below⟩
        cases isSame
        exact absurd below small

end PlaceholderShape

namespace LogSettings

variable {settings : LogSettings}

/-- The log fails to write what a cache tells only where an integer has too many digits. -/
def Reliable (settings : LogSettings) : Prop :=
  ∀ event : Event, event.Told → FailsByLength (event.lines settings)

/-- Missing component switches do not matter for what the log shows. -/
theorem usable_normalized : settings.normalized.Usable ↔ settings.Usable := by
  unfold normalized
  split <;> rfl

theorem reliable_iff_usable : settings.Reliable ↔ settings.Usable := by
  constructor
  · intro reliable
    by_contra unusable
    obtain ⟨event, told, failure, fails, other⟩ := refuses_of_not_usable unusable
    exact other (reliable event told failure fails)
  · exact fun usable event told => told.failsByLength usable

end LogSettings

theorem LoggingSettings.logSettings_ok_iff {logging : LoggingSettings} :
    (∃ log, logging.logSettings = .ok log) ↔
      logging.components.isSome = true ∧ logging.options.isSome = true := by
  unfold logSettings
  cases logging.options <;> cases logging.components <;> simp [throw, throwThe, MonadExceptOf.throw, pure, Except.pure]

namespace Settings

/-- The length of tokens is given and below the bound, no part of the logging is none, and the log
can cut what it shows. -/
structure Usable (settings : Settings) : Prop where
  length : ∃ number, settings.tokens.length = .int number ∧
    number < (PlaceholderShape.lengthBound : Int)
  components : settings.logging.components.isSome = true
  options : settings.logging.options.isSome = true
  arguments : ∀ log, settings.logging.logSettings = .ok log → log.Usable

/-- A cache is made whatever its log is, and the log is attached to it. -/
theorem ofSettings_ok {settings : Settings} {log : Option LogSettings} {state : CacheState}
    (made : CacheState.ofSettings settings log = .ok state) :
    (∃ shape, PlaceholderShape.ofSettings settings.tokens.opening settings.tokens.closing
      settings.tokens.length = .ok shape) ∧
      state.log = log ∧ state.unwritten = [] ∧
      CacheState.ofSettings settings none = .ok state.unlogged := by
  unfold CacheState.ofSettings at made ⊢
  dsimp only at made ⊢
  cases described : PlaceholderShape.ofSettings settings.tokens.opening settings.tokens.closing
      settings.tokens.length with
  | error failure =>
      rw [described] at made
      cases made
  | ok shape =>
      rw [described] at made
      cases made
      exact ⟨⟨shape, rfl⟩, rfl, rfl, rfl⟩

theorem ofSettings_of_shape {settings : Settings} {shape : PlaceholderShape}
    (log : Option LogSettings)
    (described : PlaceholderShape.ofSettings settings.tokens.opening settings.tokens.closing
      settings.tokens.length = .ok shape) :
    ∃ state, CacheState.ofSettings settings log = .ok state := by
  unfold CacheState.ofSettings
  dsimp only
  rw [described]
  exact ⟨_, rfl⟩

end Settings

/-- A configuration that is accepted gives a log and a cache with it, and the log can write
whatever the cache tells, exactly if the settings are usable. In a session with that cache an
event is refused only for want of the text of an integer with too many digits, and unless one is,
every command has the answer and the effect that it has in the same cache without a log. -/
theorem accepted_usable {data : Entries} {settings : Settings}
    (accepted : Settings.ofValue (.dict data) = .ok settings) :
    (settings.Usable ↔ ∃ log state, settings.logging.logSettings = .ok log ∧
      CacheState.ofSettings settings (some log.normalized) = .ok state ∧
      log.normalized.Reliable) ∧
    ∀ log state, settings.Usable → settings.logging.logSettings = .ok log →
      CacheState.ofSettings settings (some log.normalized) = .ok state →
      CacheState.ofSettings settings none = .ok state.unlogged ∧
      ∀ limits commands,
        (∀ event ∈ ((Session.begin limits state).obeyAll commands).2.state.unwritten,
          event.Told ∧ event.lines log.normalized = .error .digitLimit) ∧
        (((Session.begin limits state).obeyAll commands).2.state.unwritten = [] →
          ((Session.begin limits state).obeyAll commands).1 =
              ((Session.begin limits state.unlogged).obeyAll commands).1 ∧
            ((Session.begin limits state).obeyAll commands).2.unlogged =
              ((Session.begin limits state.unlogged).obeyAll commands).2) := by
  obtain ⟨-, checked⟩ := Settings.ofValue_ok accepted
  have shaped := PlaceholderShape.ofSettings_ok_iff checked
  refine ⟨⟨fun usable => ?_, ?_⟩, fun log state usable isLog made => ?_⟩
  · obtain ⟨shape, described⟩ := shaped.mpr usable.length
    obtain ⟨log, isLog⟩ :=
      LoggingSettings.logSettings_ok_iff.mpr ⟨usable.components, usable.options⟩
    obtain ⟨state, made⟩ := Settings.ofSettings_of_shape (some log.normalized) described
    exact ⟨log, state, isLog, made, LogSettings.reliable_iff_usable.mpr
      (LogSettings.usable_normalized.mpr (usable.arguments log isLog))⟩
  · rintro ⟨log, state, isLog, made, reliable⟩
    obtain ⟨components, options⟩ := LoggingSettings.logSettings_ok_iff.mp ⟨log, isLog⟩
    refine ⟨shaped.mp (Settings.ofSettings_ok made).1, components, options, fun other same => ?_⟩
    rw [isLog] at same
    cases same
    exact LogSettings.usable_normalized.mp (LogSettings.reliable_iff_usable.mp reliable)
  · obtain ⟨-, attached, fresh, silent⟩ := Settings.ofSettings_ok made
    have reliable := LogSettings.reliable_iff_usable.mpr
      (LogSettings.usable_normalized.mpr (usable.arguments log isLog))
    refine ⟨silent, fun limits commands => ⟨fun event member => ?_, fun heard => ?_⟩⟩
    · obtain ⟨told, kept, failure, isKept, fails⟩ := Session.refused_begin fresh member
      rw [attached] at isKept
      cases isKept
      refine ⟨told, ?_⟩
      rw [fails, reliable event told failure fails]
    · have same := (Session.alongside_begin limits state commands).unheard (heard.trans fresh.symm)
      rw [same]
      exact ⟨rfl, rfl⟩

namespace Sample

/-- A configuration that logs errors and cuts what it shows at the given bound. -/
def cutting (bound : Value) : Entries :=
  [(.text "logging", .dict
    [(.text "level", .text LogLevel.error.name),
      (.text "options", .dict [(.text "truncate_at", bound)])])]

/-- The log of that configuration. -/
def cuttingLog (bound : Value) : LogSettings :=
  { LogSettings.standard with
    level := .text LogLevel.error.name
    truncateAt := bound }

theorem logSettings_cutting (bound : Value) :
    (Settings.ofEntries (cutting bound)).logging.logSettings = .ok (cuttingLog bound) := by
  with_unfolding_all rfl

theorem ofSettings_cutting (bound : Value) :
    CacheState.ofSettings (.ofEntries (cutting bound)) (some (cuttingLog bound).normalized) =
      .ok (.initial .standard false false (some (cuttingLog bound))) := by
  with_unfolding_all rfl

/-- A greeting in the cache of that configuration. -/
theorem accepted_cutting :
    (Settings.ofValue (.dict (cutting (.int 20)))).isOk = true ∧
      greeted (.int (10 ^ 20)) (some (cuttingLog (.int 20))) = (some "G", 1) ∧
      (greet (.int (10 ^ 20)) (some (cuttingLog (.int 20)))).1 =
        (greet (.int (10 ^ 20)) none).1 := by
  have isOk : (Settings.ofValue (.dict (cutting (.int 20)))).isOk = true := by
    decide +kernel
  have isLog := logSettings_cutting (.int 20)
  have usable : (Settings.ofEntries (cutting (.int 20))).Usable := by
    refine ⟨⟨24, by with_unfolding_all rfl, by decide⟩, by with_unfolding_all rfl,
      by with_unfolding_all rfl, ?_⟩
    intro log same
    rw [isLog] at same
    cases same
    decide
  obtain ⟨-, sessions⟩ := accepted_usable (Settings.ofValue_of_isOk isOk)
  obtain ⟨-, silent⟩ := sessions _ _ usable isLog (ofSettings_cutting (.int 20))
  exact ⟨isOk, by decide +kernel,
    ((silent ⟨3, 10⟩ (greeting (.int (10 ^ 20)))).2 (by decide +kernel)).1⟩

/-- Accepted data without logging options, without a length of tokens, and with a bound that is
no whole number: there is no log, no cache, and no call of the helper. -/
theorem unusable_accepted :
    ((Settings.ofValue (.dict [(.text "logging", .dict [(.text "options", .none)])])).isOk = true ∧
      (Settings.ofEntries
        [(.text "logging", .dict [(.text "options", .none)])]).logging.logSettings =
          .error (LoggingSettings.missingField "show_args")) ∧
    ((Settings.ofValue (.dict [(.text "tokens", .dict [(.text "length", .none)])])).isOk = true ∧
      CacheState.ofSettings (.ofEntries [(.text "tokens", .dict [(.text "length", .none)])]) none =
        .error (.wrongType "'<' not supported between instances of 'NoneType' and 'int'")) ∧
    (Settings.ofValue (.dict (cutting (.float (Binary64.ofInt 20))))).isOk = true ∧
      CacheState.ofSettings (.ofEntries (cutting (.float (Binary64.ofInt 20))))
        (some (cuttingLog (.float (Binary64.ofInt 20))).normalized) =
          .ok (.initial .standard false false
            (some (cuttingLog (.float (Binary64.ofInt 20))))) ∧
      greeted (.int (10 ^ 20)) none = (some "G", 1) ∧
      greeted (.int (10 ^ 20))
        (some (cuttingLog (.float (Binary64.ofInt 20)))) = (none, 0) :=
  ⟨⟨by decide +kernel, by with_unfolding_all rfl⟩,
    ⟨by decide +kernel, by with_unfolding_all rfl⟩,
    by decide +kernel, ofSettings_cutting _, by decide +kernel, by decide +kernel⟩

end Sample

end DeferredText
