import DeferredText.Proofs.Unheard

/-!
Contract: the registry as a map in which the last change of a name counts.

A session that registers and removes helpers makes a history of changes. Under each name the
registry holds what the last change of that name left there, and every way to ask for a helper
tells of the same map in the same order. Which changes a command makes can be read from its
answer, as long as the log writes what it is told.

Owns: histories, the map that a history describes, and the changes that commands make.

Does not own: the effect of single requests (`Proofs.Registrations`).
-/

namespace DeferredText

namespace Table

variable {α β : Type}

theorem map_put (table : Table α) (name : String) (value : α) (change : α → β) :
    (table.put name value).map (fun row => (row.1, change row.2)) =
      put (table.map fun row => (row.1, change row.2)) name (change value) := by
  induction table with
  | nil => rfl
  | cons row rest inductionHypothesis =>
      rw [put, List.map_cons, put]
      by_cases same : (row.1 == name) = true
      · rw [if_pos same, if_pos same]
        rfl
      · rw [if_neg same, if_neg same, List.map_cons, inductionHypothesis]

theorem map_remove (table : Table α) (name : String) (change : α → β) :
    (table.remove name).map (fun row => (row.1, change row.2)) =
      remove (table.map fun row => (row.1, change row.2)) name := by
  unfold remove
  rw [List.filter_map]
  rfl

end Table

namespace Registry

/-! ### Histories -/

/-- A change of the registry. -/
inductive Change where
  | stored (entry : Entry)
  | removed (name : String)

namespace Change

def name : Change → String
  | .stored entry => entry.name
  | .removed name => name

/-- What a change leaves under its name. -/
def entry? : Change → Option Entry
  | .stored entry => some entry
  | .removed _ => none

/-- What the last change of a name left there. -/
def latest
    (history : List Change)
    (name : String) : Option Entry :=
  (history.filter fun change => change.name == name).getLast?.bind entry?

/-- The names after one more change: a name that is there keeps its place, a new one comes last,
and one that is removed loses its place. -/
def arrange
    (names : List String) : Change → List String
  | .stored entry => if entry.name ∈ names then names else names ++ [entry.name]
  | .removed name => names.filter fun other => other != name

/-- The names that are left by a history, in their order. -/
def order (history : List Change) : List String :=
  history.foldl arrange []

/-- An entry that is stored has a valid name, and an implementation exactly if it is deferred. -/
def IsValid : Change → Prop
  | .stored entry =>
      isHelperName entry.name = true ∧ entry.implementation.isSome = entry.isDeferred
  | .removed _ => True

theorem latest_snoc (history : List Change) (change : Change) (name : String) :
    latest (history ++ [change]) name =
      if change.name = name then change.entry? else latest history name := by
  unfold latest
  rw [List.filter_append]
  by_cases same : change.name = name
  · rw [if_pos same, List.filter_cons_of_pos (by simpa using same), List.filter_nil,
      List.getLast?_concat]
    rfl
  · rw [if_neg same, List.filter_cons_of_neg (by simpa using same), List.filter_nil,
      List.append_nil]

theorem order_snoc (history : List Change) (change : Change) :
    order (history ++ [change]) = arrange (order history) change := by
  unfold order
  rw [List.foldl_append]
  rfl

end Change

/-- Carries out a change. -/
def change
    (registry : Registry) : Change → Registry
  | .stored entry => registry.store entry
  | .removed name => registry.remove name

/-- The registry is what a history leaves, and its two tables go together. -/
structure Tracks
    (registry : Registry)
    (history : List Change) : Prop where
  names : registry.names = Change.order history
  found : ∀ name, registry.find? name = Change.latest history name
  distinct : registry.names.Nodup
  twins : registry.callables = registry.entries.map fun row => (row.1, row.2.callable)
  valid : ∀ name entry, Change.latest history name = some entry →
    entry.name = name ∧ (Change.stored entry).IsValid

theorem tracks_empty : empty.Tracks [] where
  names := rfl
  found := fun _ => rfl
  distinct := List.nodup_nil
  twins := rfl
  valid := nofun

variable {registry : Registry} {history : List Change}

/-- One more change, whichever it is. -/
theorem Tracks.snoc (tracks : registry.Tracks history) {last : Change} (isValid : last.IsValid) :
    (registry.change last).Tracks (history ++ [last]) := by
  obtain ⟨names, found, distinct, twins, valid⟩ := tracks
  have validAfter : ∀ name entry, Change.latest (history ++ [last]) name = some entry →
      entry.name = name ∧ (Change.stored entry).IsValid := by
    intro name entry isLatest
    rw [Change.latest_snoc] at isLatest
    by_cases same : last.name = name
    · rw [if_pos same] at isLatest
      cases last with
      | stored stored =>
          cases isLatest
          exact ⟨same, isValid⟩
      | removed _ => cases isLatest
    · rw [if_neg same] at isLatest
      exact valid name entry isLatest
  cases last with
  | stored entry =>
      refine ⟨?_, fun name => ?_, Table.nodup_put distinct, ?_, validAfter⟩
      · rw [Change.order_snoc, ← names]
        exact Table.names_put registry.entries entry.name entry
      · rw [Change.latest_snoc, ← found]
        exact Table.get?_put registry.entries entry.name name entry
      · show registry.callables.put entry.name entry.callable = _
        rw [twins]
        exact (Table.map_put registry.entries entry.name entry Entry.callable).symm
  | removed gone =>
      refine ⟨?_, fun name => ?_, Table.nodup_remove distinct, ?_, validAfter⟩
      · rw [Change.order_snoc, ← names]
        exact Table.names_remove registry.entries gone
      · rw [Change.latest_snoc, ← found]
        exact Table.get?_remove registry.entries gone name
      · show registry.callables.remove gone = _
        rw [twins]
        exact (Table.map_remove registry.entries gone Entry.callable).symm

theorem Tracks.append (tracks : registry.Tracks history) {changes : List Change}
    (valid : ∀ change ∈ changes, change.IsValid) :
    (changes.foldl change registry).Tracks (history ++ changes) := by
  induction changes generalizing registry history with
  | nil => rwa [List.append_nil]
  | cons first rest inductionHypothesis =>
      rw [List.forall_mem_cons] at valid
      have others := inductionHypothesis (tracks.snoc valid.1) valid.2
      rwa [List.append_assoc] at others

/-! ### What can be asked -/

/-- All that can be asked of the registry is answered from one map: under a name it holds what the
last change of the name left there, and it lists the names in the order of the history. -/
structure Reflects
    (registry : Registry)
    (history : List Change) : Prop where
  names : registry.names = Change.order history
  distinct : registry.names.Nodup
  listed : ∀ name, name ∈ registry.names ↔ (Change.latest history name).isSome = true
  entry : ∀ name, Cache.entry? registry (.text name) = .ok (Change.latest history name)
  contains : ∀ name,
    Cache.contains registry (.text name) = .ok (Change.latest history name).isSome
  isDeferred : ∀ name,
    Cache.isDeferred registry (.text name) = .ok ((Change.latest history name).any Entry.isDeferred)
  implementation : ∀ name, Cache.implementation? registry (.text name) =
    .ok ((Change.latest history name).bind Entry.implementation)
  found : ∀ name entry, Change.latest history name = some entry →
    Cache.lookup registry (.text name) = .ok (.callable entry.callable)
  view : Cache.lookup registry .none = .ok (.group ((Change.order history).filterMap fun name =>
    (Change.latest history name).map fun entry => (name, entry.callable)))
  valid : ∀ name entry, Change.latest history name = some entry →
    entry.name = name ∧ isHelperName name = true ∧
      entry.implementation.isSome = entry.isDeferred

theorem Tracks.callable? (tracks : registry.Tracks history) (name : String) :
    registry.callable? name = (Change.latest history name).map Entry.callable := by
  unfold Registry.callable? Table.get?
  rw [← tracks.found, tracks.twins, List.find?_map, Option.map_map]
  unfold find? Table.get?
  rw [Option.map_map]
  rfl

theorem Tracks.reflects (tracks : registry.Tracks history) : registry.Reflects history where
  names := tracks.names
  distinct := tracks.distinct
  listed := fun name => by
    rw [← tracks.found]
    exact Table.mem_names_iff
  entry := fun name => congrArg Except.ok (tracks.found name)
  contains := fun name => by
    show Except.ok (registry.find? name).isSome = _
    rw [tracks.found]
  isDeferred := fun name => by
    show Except.ok (((registry.find? name).map Entry.isDeferred).getD false) = _
    rw [tracks.found]
    cases Change.latest history name <;> rfl
  implementation := fun name => by
    show Except.ok (((registry.find? name).filter Entry.isDeferred).bind Entry.implementation) = _
    rw [tracks.found]
    cases isLatest : Change.latest history name with
    | none => rfl
    | some entry =>
        obtain ⟨-, -, paired⟩ := tracks.valid name entry isLatest
        cases deferred : entry.isDeferred with
        | true => rw [Option.filter_some_pos deferred]
        | false =>
            rw [deferred, Option.isSome_eq_false_iff, Option.isNone_iff_eq_none] at paired
            rw [Option.bind_some, paired]
            simp [deferred]
  found := fun name entry isLatest => by
    have found : registry.lookup name = .helper entry.callable := by
      rw [lookup, tracks.callable?, isLatest]
      rfl
    rw [Cache.lookup, found]
  view := by
    have rows : registry.callables = registry.names.filterMap fun name =>
        (registry.find? name).map fun entry => (name, entry.callable) := by
      rw [tracks.twins]
      conv_lhs => rw [Table.eq_filterMap tracks.distinct]
      rw [List.map_filterMap]
      refine List.filterMap_congr fun name _ => ?_
      rw [Option.map_map]
      rfl
    show (Except.ok (.group registry.callables) : Outcome Cache.Found) = _
    simp only [rows, tracks.names, tracks.found]
  valid := fun name entry isLatest => by
    obtain ⟨isName, valid, paired⟩ := tracks.valid name entry isLatest
    exact ⟨isName, isName ▸ valid, paired⟩

end Registry

namespace Cache

/-- Without a log an entry that is stored is returned. -/
theorem store_silent (entry : Entry) {state : CacheState} (silent : state.log = none) :
    (store entry state).1 = .ok entry := by
  rw [store_eq]
  generalize isAfter : { state with registry := state.registry.store entry } = after
  have told (event : Event) : CacheState.tell event after = (.ok (), after) := by
    rw [← isAfter]
    exact CacheState.tell_silent event silent
  rcases noteStored_cases entry state with same | ⟨replaced, same⟩
  · rw [same, Action.bind_eq, told]
    rfl
  · rw [same, Action.bind_eq, told]
    dsimp only
    rw [Action.bind_eq, told]
    rfl

/-- A request that is granted succeeds, unless the log refuses an event. -/
theorem register_heard {name : Value} {source : Source} {helperName : String} {callable : Callable}
    {isAsync : Bool} {state : CacheState}
    (granted : granted? name source = some (helperName, callable))
    (heard : (register isAsync name source state).2.unwritten = state.unwritten) :
    (register isAsync name source state).1 = .ok (entryFor isAsync helperName callable) := by
  have unheard := (blind_register isAsync name source state).2 heard
  have silent : (store (entryFor isAsync helperName callable) state.unlogged).1 =
      .ok (entryFor isAsync helperName callable) := store_silent _ rfl
  rw [← (register_granted isAsync granted).2, unheard] at silent
  exact silent

end Cache

/-! ### Sessions -/

namespace Session

open Registry

/-- Whether a command registers or removes helpers. -/
def Command.manages : Command → Bool
  | .register .. | .registerBatch .. | .registerGroup .. | .unregister _ => true
  | _ => false

/-- The changes that register leaves of a source. -/
def stored
    (isAsync : Bool)
    (leaves : List (String × Callable)) : List Change :=
  (Cache.entriesOf isAsync leaves).map .stored

/-- The changes that a command makes after a history, by its answer. A single request is granted or
refused; a batch that stops has registered the leaves in front; a helper is removed if it is
there. -/
inductive Accounts (history : List Change) :
    Command → Except Stop Answer → List Change → Prop where
  | registered {isAsync : Bool} {name : Value} {source : Source} {helperName : String}
      {callable : Callable} (granted : Cache.granted? name source = some (helperName, callable)) :
      Accounts history (.register isAsync name source)
        (.ok (.entry (Cache.entryFor isAsync helperName callable)))
        (stored isAsync [(helperName, callable)])
  | refused {isAsync : Bool} {name : Value} {source : Source} {failure : Failure}
      (refused : Cache.granted? name source = none) :
      Accounts history (.register isAsync name source) (.error (.failed failure)) []
  | batch (isAsync : Bool) (source : Source) :
      Accounts history (.registerBatch isAsync source)
        (.ok (.names ((source.leaves none).map Prod.fst))) (stored isAsync (source.leaves none))
  | batchStopped {isAsync : Bool} {source : Source} {added : List (String × Callable)}
      {stop : Stop} (inFront : added <+: source.leaves none) :
      Accounts history (.registerBatch isAsync source) (.error stop) (stored isAsync added)
  | group {start : String} (isAsync : Bool) (source : Source) (valid : isHelperName start = true) :
      Accounts history (.registerGroup isAsync (.text start) source)
        (.ok (.names ((source.leaves (some start)).map Prod.fst)))
        (stored isAsync (source.leaves (some start)))
  | groupStopped {start : String} {isAsync : Bool} {source : Source}
      {added : List (String × Callable)} {stop : Stop} (valid : isHelperName start = true)
      (inFront : added <+: source.leaves (some start)) :
      Accounts history (.registerGroup isAsync (.text start) source) (.error stop)
        (stored isAsync added)
  | groupRefused {isAsync : Bool} {group : Value} {source : Source} {failure : Failure}
      (invalid : isValidName group = false) :
      Accounts history (.registerGroup isAsync group source) (.error (.failed failure)) []
  | removed {name : String} (present : (Change.latest history name).isSome = true) :
      Accounts history (.unregister (.text name)) (.ok (.removed true)) [.removed name]
  | absent {name : Value} (hashable : name.unhashable? = none)
      (absent : ∀ content, name = .text content → Change.latest history content = none) :
      Accounts history (.unregister name) (.ok (.removed false)) []
  | unhashable {name : Value} {typeName : String} (unhashable : name.unhashable? = some typeName) :
      Accounts history (.unregister name) (.error (.failed (.unhashable typeName))) []

/-- Commands one after the other, with their answers, and the history that they make. -/
inductive Records : List Change → List Command → List (Except Stop Answer) → List Change → Prop where
  | nil (history : List Change) : Records history [] [] history
  | cons {history changes final : List Change} {command : Command} {answer : Except Stop Answer}
      {commands : List Command} {answers : List (Except Stop Answer)}
      (first : Accounts history command answer changes)
      (others : Records (history ++ changes) commands answers final) :
      Records history (command :: commands) (answer :: answers) final

variable {session : Session} {history : List Change}

/-- The registry after the command is what some changes leave, and unless the log refuses an event
they are the changes that belong to the answer. -/
def Follows
    (session : Session)
    (history : List Change)
    (command : Command) : Prop :=
  ∃ changes, (session.obey command).2.state.registry.Tracks (history ++ changes) ∧
    ((session.obey command).2.state.unwritten = session.state.unwritten →
      Accounts history command (session.obey command).1 changes)

/-- What is rejected changes nothing. -/
theorem tracks_rejected {α : Type} {action : CacheAction α}
    (tracks : session.state.registry.Tracks history) (rejects : Cache.Rejects action) :
    (session.act action).2.state.registry.Tracks (history ++ []) ∧
      ∃ failure, (session.act action).1 = .error (.failed failure) := by
  obtain ⟨failed, same⟩ := rejects session.state
  refine ⟨?_, failed⟩
  show (action session.state).2.registry.Tracks _
  rw [List.append_nil, same]
  exact tracks

/-- A batch makes the changes of the leaves that it registers. -/
theorem tracks_batch {action : CacheAction (List String)} {isAsync : Bool}
    {leaves : List (String × Callable)} (tracks : session.state.registry.Tracks history)
    (adds : Cache.Adds isAsync leaves action) :
    ∃ added, added <+: leaves ∧
      (session.act action).2.state.registry.Tracks (history ++ stored isAsync added) ∧
      ∀ names, (session.act action).1 = .ok names → added = leaves ∧ names = leaves.map Prod.fst := by
  obtain ⟨added, rest, split, named, registry, all⟩ := adds session.state
  have valid : ∀ change ∈ stored isAsync added, change.IsValid := by
    intro change member
    simp only [stored, Cache.entriesOf, List.map_map, List.mem_map] at member
    obtain ⟨leaf, isLeaf, rfl⟩ := member
    exact ⟨named leaf isLeaf, by cases isAsync <;> rfl⟩
  refine ⟨added, ⟨rest, split.symm⟩, ?_, fun names returned => ?_⟩
  · have after := tracks.append valid
    rw [stored, List.foldl_map] at after
    show (action session.state).2.registry.Tracks _
    rw [registry]
    exact after
  · obtain ⟨rfl, rfl⟩ := all names returned
    rw [List.append_nil] at split
    exact ⟨split.symm, by rw [split]⟩

theorem follows_register (tracks : session.state.registry.Tracks history) (isAsync : Bool)
    (name : Value) (source : Source) :
    session.Follows history (.register isAsync name source) := by
  have answer : (session.obey (.register isAsync name source)).1 =
      (Cache.register isAsync name source session.state).1.map .entry := rfl
  cases granted : Cache.granted? name source with
  | none =>
      obtain ⟨after, failure, failed⟩ :=
        tracks_rejected tracks (Cache.register_refused isAsync granted)
      refine ⟨[], after, fun _ => ?_⟩
      rw [answer, show (Cache.register isAsync name source session.state).1 = _ from failed]
      exact .refused granted
  | some leaf =>
      obtain ⟨helperName, callable⟩ := leaf
      obtain ⟨valid, registers⟩ := Cache.register_granted isAsync granted
      have isValid : (Change.stored (Cache.entryFor isAsync helperName callable)).IsValid :=
        ⟨valid, by cases isAsync <;> rfl⟩
      refine ⟨stored isAsync [(helperName, callable)], ?_, fun heard => ?_⟩
      · show (Cache.register isAsync name source session.state).2.registry.Tracks _
        rw [registers, Cache.registry_store]
        exact tracks.snoc isValid
      · rw [answer, Cache.register_heard granted heard]
        exact .registered granted

theorem follows_registerBatch (tracks : session.state.registry.Tracks history) (isAsync : Bool)
    (source : Source) : session.Follows history (.registerBatch isAsync source) := by
  have adds : Cache.Adds isAsync (source.leaves none)
      (Cache.registerBatch session.limits session.current isAsync source) :=
    Cache.adds_walkSource session.limits session.current none source
  obtain ⟨added, inFront, after, all⟩ := tracks_batch tracks adds
  refine ⟨stored isAsync added, after, fun _ => ?_⟩
  have answer : (session.obey (.registerBatch isAsync source)).1 =
      (session.registerBatch isAsync source).1.map .names := rfl
  rw [answer]
  cases ends : (session.registerBatch isAsync source).1 with
  | error stop => exact .batchStopped inFront
  | ok names =>
      obtain ⟨rfl, rfl⟩ := all names ends
      exact .batch isAsync source

theorem follows_registerGroup (tracks : session.state.registry.Tracks history) (isAsync : Bool)
    (group : Value) (source : Source) :
    session.Follows history (.registerGroup isAsync group source) := by
  have answer : (session.obey (.registerGroup isAsync group source)).1 =
      (session.registerGroup isAsync group source).1.map .names := rfl
  cases valid : isValidName group with
  | false =>
      obtain ⟨after, failure, failed⟩ := tracks_rejected tracks
        (Cache.registerGroup_refused session.limits session.current valid source)
      refine ⟨[], after, fun _ => ?_⟩
      rw [answer, show (session.registerGroup isAsync group source).1 = _ from failed]
      exact .groupRefused valid
  | true =>
      cases group with
      | text start =>
          obtain ⟨added, inFront, after, all⟩ := tracks_batch tracks
            (Cache.adds_registerGroup session.limits session.current valid source)
          refine ⟨stored isAsync added, after, fun _ => ?_⟩
          rw [answer]
          cases ends : (session.registerGroup isAsync (.text start) source).1 with
          | error stop => exact .groupStopped valid inFront
          | ok names =>
              obtain ⟨rfl, rfl⟩ := all names ends
              exact .group isAsync source valid
      | _ => cases valid

theorem follows_unregister (tracks : session.state.registry.Tracks history) (name : Value) :
    session.Follows history (.unregister name) := by
  have opened : session.obey (.unregister name) =
      ((Cache.unregister name session.state).1.map .removed,
        session.withState (Cache.unregister name session.state).2) := rfl
  unfold Follows
  rw [opened, Cache.unregister_eq, Cache.tableKey]
  have unchanged : session.state.registry.Tracks (history ++ []) := by
    rwa [List.append_nil]
  cases hashed : name.unhashable? with
  | some typeName => exact ⟨[], unchanged, fun _ => .unhashable hashed⟩
  | none =>
      cases name with
      | text content =>
          have contains : session.state.registry.contains content =
              (Change.latest history content).isSome := by
            rw [contains, tracks.found]
          dsimp only [Value.text?]
          by_cases present : session.state.registry.contains content = true
          · rw [if_pos present]
            rw [contains] at present
            have isValid : (Change.removed content).IsValid := trivial
            exact ⟨[.removed content], tracks.snoc isValid, fun _ => .removed present⟩
          · rw [if_neg present]
            rw [contains, Option.isSome_iff_ne_none, not_not] at present
            refine ⟨[], unchanged, fun _ => .absent hashed ?_⟩
            rintro other isOther
            cases isOther
            exact present
      | _ =>
          refine ⟨[], unchanged, fun _ => .absent hashed ?_⟩
          rintro content isText
          cases isText

/-- Every command that registers or removes helpers makes changes, whether it succeeds or fails. -/
theorem follows_obey {command : Command} (tracks : session.state.registry.Tracks history)
    (manages : command.manages = true) : session.Follows history command := by
  cases command with
  | register isAsync name source => exact follows_register tracks isAsync name source
  | registerBatch isAsync source => exact follows_registerBatch tracks isAsync source
  | registerGroup isAsync group source => exact follows_registerGroup tracks isAsync group source
  | unregister name => exact follows_unregister tracks name
  | _ => cases manages

theorem follows_obeyAll {commands : List Command} (blind : session.world.Blind)
    (tracks : session.state.registry.Tracks history)
    (manages : ∀ command ∈ commands, command.manages = true) :
    ∃ final, (session.obeyAll commands).2.state.registry.Tracks final ∧
      ((session.obeyAll commands).2.state.unwritten = session.state.unwritten →
        Records history commands (session.obeyAll commands).1 final) := by
  induction commands generalizing session history with
  | nil => exact ⟨history, tracks, fun _ => .nil history⟩
  | cons command rest inductionHypothesis =>
      rw [List.forall_mem_cons] at manages
      have first := alongside_obey blind command
      have others := alongside_obeyAll first.blind rest
      obtain ⟨changes, after, accounts⟩ := follows_obey tracks manages.1
      obtain ⟨final, reached, records⟩ := inductionHypothesis first.blind after manages.2
      refine ⟨final, reached, fun heard => ?_⟩
      obtain ⟨early, late⟩ := first.misses.heard others.misses heard
      exact .cons (accounts early) (records late)

end Session

/-- In a session that only registers and removes helpers, and whatever its log is, the registry is
at each end the map of a history: under a name it holds what the last change of that name left
there. Unless the log refuses an event, the history is the one that the answers tell of. -/
theorem registry_ledger (limits : Limits) (shape : PlaceholderShape)
    (strict warnsOnOverride : Bool) (log : Option LogSettings) {commands : List Session.Command}
    (manages : ∀ command ∈ commands, command.manages = true) :
    ∃ history,
      (Session.attend limits shape strict warnsOnOverride commands
        log).2.state.registry.Reflects history ∧
      ((Session.attend limits shape strict warnsOnOverride commands log).2.state.unwritten = [] →
        Session.Records [] commands
          (Session.attend limits shape strict warnsOnOverride commands log).1 history) := by
  have blind : World.Blind
      (Session.begin limits (.initial shape strict warnsOnOverride log)).world := nofun
  obtain ⟨history, tracks, records⟩ := Session.follows_obeyAll blind Registry.tracks_empty manages
  exact ⟨history, tracks.reflects, records⟩

namespace Sample

/-- A helper that answers at once. -/
def prompt : Callable :=
  .helper ⟨"f", .function, .plain fun _ => .finish (.text "x")⟩

/-- A name that is taken over, one that is removed, and one that is refused. -/
def managing : List Session.Command :=
  [.register false (.text "a") (.callable prompt),
    .register true (.text "g.b") (.callable prompt),
    .register true (.text "c") (.callable prompt),
    .register true (.text "a") (.callable prompt),
    .register false (.text "a b") (.callable prompt),
    .unregister (.text "g.b")]

def managed (log : Option LogSettings) : List (Except Stop Session.Answer) × Session :=
  Session.attend ⟨3, 10⟩ .standard false true managing log

/-- What is left are the name that was taken over, in its place and deferred now, and the last new
one. -/
theorem ledger_managing :
    (managed (some everything)).2.state.registry.names = ["a", "c"] ∧
      (managed (some everything)).2.state.registry.view.map Prod.fst = ["a", "c"] ∧
      (managed (some everything)).2.state.registry.isDeferred "a" = true ∧
      ∃ history, (managed (some everything)).2.state.registry.Reflects history ∧
        Session.Records [] managing (managed (some everything)).1 history := by
  have manages : ∀ command ∈ managing, command.manages = true := by
    simp [managing, Session.Command.manages]
  obtain ⟨history, reflects, records⟩ :=
    registry_ledger ⟨3, 10⟩ .standard false true (some everything) manages
  exact ⟨by decide +kernel, by decide +kernel, by decide +kernel, history, reflects,
    records (by decide +kernel)⟩

/-- The kind of the failure of a registration, and the names that are registered afterwards. -/
def stillborn (log : Option LogSettings) : Option String × List String :=
  let ended := Session.attend ⟨3, 10⟩ .standard false false
    [.register false (.text "a") (.callable prompt)] log
  match ended.1 with
  | [.error (.failed failure)] => (some failure.kindName, ended.2.state.registry.names)
  | _ => (none, ended.2.state.registry.names)

/-- A log that writes everything, and cuts what it shows at no whole number. -/
def uncut : LogSettings :=
  { LogSettings.standard with
    level := .text LogLevel.debug.name
    truncateAt := .float (Binary64.ofInt 20) }

/-- A registration fails because the log cannot write the line, and the helper is registered. -/
theorem ledger_stillborn : stillborn (some uncut) = (some "TypeError", ["a"]) := by
  decide +kernel

end Sample

end DeferredText
