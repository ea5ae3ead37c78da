import DeferredText.Cache.Register
import DeferredText.Proofs.Quiet
import DeferredText.Proofs.Tables

/-!
Contract: what registrations do to the registry.

A single request is granted or refused; a batch registers the helpers of its source one after
the other, and where it stops it has registered those in front. Neither depends on the log, which
only decides whether a request that was granted fails afterwards.

Owns: the entry that is made for a helper, the leaves of a source, and the effect of requests on
the registry.

Does not own: what a registry holds after many requests (`Proofs.Ledger`).
-/

namespace DeferredText

open DeferredText.Action

variable {α β : Type}

theorem Registry.callable?_store (registry : Registry) (entry : Entry) :
    (registry.store entry).callable? entry.name = some entry.callable := by
  rw [callable?, store, Table.get?_put, if_pos rfl]

/-- The same helpers are registered. -/
def CacheState.SameRegistry (before after : CacheState) : Prop :=
  after.registry = before.registry

open CacheState

instance : Allows SameRegistry where
  refl := fun _ => rfl
  trans := fun first second => Eq.trans second first
  calm := fun same _ _ _ => by
    simp only [core, Prod.mk.injEq] at same
    exact same.2.2.2.1
  recorded := fun _ _ _ _ _ => rfl
  begun := fun _ _ _ _ => rfl

namespace Cache

/-! ### Single requests -/

/-- What is left to do after an entry is stored. -/
def noteStored
    (entry : Entry)
    (state : CacheState) : CacheAction Entry := do
  match state.registry.find? entry.name with
  | some replaced =>
      if state.warnsOnOverride then
        CacheState.tell (.overridden (.text entry.name) (.text replaced.kind.name)
          (.text entry.kind.name))
  | none => pure ()
  CacheState.tell (.registered (.text entry.name) (.text entry.kind.name))
  return entry

theorem store_eq (entry : Entry) (state : CacheState) :
    store entry state =
      noteStored entry state { state with registry := state.registry.store entry } :=
  rfl

theorem noteStored_cases (entry : Entry) (state : CacheState) :
    noteStored entry state = (do
      tell (.registered (.text entry.name) (.text entry.kind.name))
      return entry) ∨
    ∃ replaced : Entry, noteStored entry state = (do
      tell (.overridden (.text entry.name) (.text replaced.kind.name) (.text entry.kind.name))
      tell (.registered (.text entry.name) (.text entry.kind.name))
      return entry) := by
  unfold noteStored
  cases state.registry.find? entry.name with
  | none => exact .inl rfl
  | some replaced =>
      cases state.warnsOnOverride with
      | false => exact .inl rfl
      | true => exact .inr ⟨replaced, rfl⟩

/-- A helper that is registered takes the place of its name, also if the log refuses the line. -/
theorem registry_store (entry : Entry) (before : CacheState) :
    (store entry before).2.registry = before.registry.store entry := by
  have last : Respects SameRegistry (do
      tell (.registered (.text entry.name) (.text entry.kind.name))
      return entry) := (quiet_tell _).bind fun _ => quiet_pure _
  have notes : Respects SameRegistry (noteStored entry before) := by
    rcases noteStored_cases entry before with same | ⟨replaced, same⟩
    · rw [same]
      exact last
    · rw [same]
      exact (quiet_tell _).bind fun _ => last
  rw [store_eq]
  exact notes { before with registry := before.registry.store entry }

/-- An entry that is stored is returned, unless the log refuses the line. -/
theorem entry_of_store {entry stored : Entry} {state : CacheState}
    (returned : (store entry state).1 = .ok stored) : stored = entry := by
  have last (after : CacheState) (ends : ((do
      tell (.registered (.text entry.name) (.text entry.kind.name))
      return entry : CacheAction Entry) after).1 = .ok stored) : stored = entry := by
    rw [bind_eq] at ends
    generalize tell _ _ = told at ends
    rcases told with ⟨_ | _, _⟩
    · cases ends
    · exact (Except.ok.inj ends).symm
  rw [store_eq] at returned
  rcases noteStored_cases entry state with same | ⟨replaced, same⟩
  · rw [same] at returned
    exact last _ returned
  · rw [same, bind_eq] at returned
    generalize tell _ _ = told at returned
    rcases told with ⟨_ | _, after⟩
    · cases returned
    · exact last after returned

/-- The entry of a helper. -/
def entryFor
    (isAsync : Bool)
    (name : String)
    (callable : Callable) : Entry :=
  { name := name
    callable := if isAsync then .deferred name callable else callable
    isDeferred := isAsync
    implementation := if isAsync then some callable else none }

/-- The checks of an entry never object to what a request puts in. -/
theorem entryOf_eq (isAsync : Bool) (name : String) (callable : Callable) :
    entryOf isAsync name callable = .ok (entryFor isAsync name callable) := by
  cases isAsync <;> rfl

/-- What a request asks to register, if that can be granted. -/
def granted? : Value → Source → Option (String × Callable)
  | .text name, .callable callable =>
      if isHelperName name then some (name, callable) else none
  | _, _ => none

theorem granted?_text (name : String) (callable : Callable) :
    granted? (.text name) (.callable callable) =
      if isHelperName name then some (name, callable) else none :=
  rfl

theorem register_granted {name : Value} {source : Source} {helperName : String}
    {callable : Callable} (isAsync : Bool)
    (granted : granted? name source = some (helperName, callable)) :
    isHelperName helperName = true ∧
      register isAsync name source = store (entryFor isAsync helperName callable) := by
  cases name with
  | text content =>
      cases source with
      | callable given =>
          rw [granted?_text] at granted
          by_cases registrable : isHelperName content = true
          · rw [if_pos registrable] at granted
            cases granted
            refine ⟨registrable, ?_⟩
            rw [register, validated, if_pos registrable, pure_bind]
            dsimp only
            rw [entryOf_eq]
            rfl
          · rw [if_neg registrable] at granted
            cases granted
      | _ => cases granted
  | _ => cases granted

/-! ### Refusals -/

/-- The action fails and registers nothing. -/
def Rejects (action : CacheAction α) : Prop :=
  ∀ state, (∃ failure, (action state).1 = .error (.failed failure)) ∧
    SameRegistry state (action state).2

theorem Rejects.bind {action : CacheAction α} (rejects : Rejects action)
    (next : α → CacheAction β) : Rejects (action >>= next) := by
  intro state
  obtain ⟨⟨failure, failed⟩, same⟩ := rejects state
  rw [bind_eq]
  rcases acts : action state with ⟨stop | value, after⟩
  · rw [acts] at failed same
    exact ⟨⟨failure, by rw [Except.error.inj failed]⟩, same⟩
  · rw [acts] at failed
    cases failed

theorem rejects_ofOutcome (outcome : Outcome α) {next : α → CacheAction β}
    (each : ∀ value, Rejects (next value)) : Rejects (ofOutcome outcome >>= next) := by
  cases outcome with
  | ok value => exact each value
  | error failure => exact fun state => ⟨⟨failure, rfl⟩, rfl⟩

theorem rejects_refuse (name : Value) (reason : String) :
    Rejects (refuse name reason : CacheAction α) := by
  intro state
  have same : SameRegistry state (CacheState.tell (.rejected name (.text reason)) state).2 :=
    quiet_tell _ state
  have opened : (refuse name reason : CacheAction α) state =
      (CacheState.tell (.rejected name (.text reason)) >>= fun _ =>
        fail (.reported (.invalidArgument reason (nameOnly name)))) state := rfl
  rw [opened, bind_eq]
  rcases tells : CacheState.tell (.rejected name (.text reason)) state with ⟨stop | told, after⟩
  · rw [tells] at same
    rw [tell_eq] at tells
    split at tells <;> cases tells
    exact ⟨⟨_, rfl⟩, same⟩
  · rw [tells] at same
    exact ⟨⟨_, rfl⟩, same⟩

theorem rejects_refuseName (name : Value) : Rejects (refuseName name : CacheAction α) :=
  rejects_ofOutcome _ fun _ => rejects_refuse _ _

theorem register_refused {name : Value} {source : Source} (isAsync : Bool)
    (refused : granted? name source = none) : Rejects (register isAsync name source) := by
  have invalid : Rejects (validated name source) := by
    cases name with
    | text content =>
        unfold validated
        dsimp only
        by_cases registrable : isHelperName content = true
        · rw [if_pos registrable]
          cases source with
          | callable callable =>
              rw [granted?_text, if_pos registrable] at refused
              cases refused
          | _ => exact rejects_refuse _ _
        · rw [if_neg registrable]
          exact rejects_refuseName _
    | _ => exact rejects_refuseName _
  exact invalid.bind _

end Cache

/-! ### Batches -/

namespace Source

mutual

/-- The helpers that a source registers, with their names, in the order of their registration. -/
def leaves (group : Option String) : Source → List (String × Callable)
  | .mapping entries => leavesOfEntries group entries
  | .list items => leavesOfItems group items
  | .tuple items => leavesOfItems group items
  | .callable (.factory _ (.mapping entries)) => leavesOfEntries group entries
  | .callable (.factory _ (.list items)) => leavesOfItems group items
  | .callable (.factory _ (.tuple items)) => leavesOfItems group items
  | _ => []

def leavesOfItems (group : Option String) : List Source → List (String × Callable)
  | [] => []
  | item :: rest => leaves group item ++ leavesOfItems group rest

def leavesOfEntries (group : Option String) : List (Value × Source) → List (String × Callable)
  | [] => []
  | (.text key, .mapping entries) :: rest =>
      leavesOfEntries (some (Cache.memberName group key)) entries ++ leavesOfEntries group rest
  | (.text key, .callable helper) :: rest =>
      (Cache.memberName group key, helper) :: leavesOfEntries group rest
  | _ :: rest => leavesOfEntries group rest

end

mutual

/-- A value holds nothing that can be registered. -/
theorem leaves_ofValue (group : Option String) : ∀ value : Value, (ofValue value).leaves group = []
  | .list items => by
      rw [ofValue, leaves]
      exact leavesOfItems_ofItems group items
  | .tuple items => by
      rw [ofValue, leaves]
      exact leavesOfItems_ofItems group items
  | .dict entries => by
      rw [ofValue, leaves]
      exact leavesOfEntries_ofEntries group entries
  | .none | .bool _ | .int _ | .float _ | .complex _ _ | .text _ | .bytes _ | .ellipsis
  | .object _ _ | .exception _ _ | .opaqueOf _ => by
      simp [ofValue, leaves]

theorem leavesOfItems_ofItems (group : Option String) :
    ∀ items : List Value, leavesOfItems group (ofItems items) = []
  | [] => by rw [ofItems, leavesOfItems]
  | item :: rest => by
      rw [ofItems, leavesOfItems, leaves_ofValue group item, leavesOfItems_ofItems group rest,
        List.nil_append]

theorem leavesOfEntries_ofEntries (group : Option String) :
    ∀ entries : List (Value × Value), leavesOfEntries group (ofEntries entries) = []
  | [] => by rw [ofEntries, leavesOfEntries]
  | (key, value) :: rest => by
      have others := leavesOfEntries_ofEntries group rest
      rw [ofEntries]
      cases key with
      | text name =>
          cases value with
          | dict entries =>
              rw [ofValue, leavesOfEntries, leavesOfEntries_ofEntries _ entries, others,
                List.nil_append]
          | _ => simp [ofValue, leavesOfEntries, others]
      | _ => simp [leavesOfEntries, others]

end

end Source

namespace Cache

/-- The entries of leaves. -/
def entriesOf
    (isAsync : Bool)
    (leaves : List (String × Callable)) : List Entry :=
  leaves.map fun leaf => entryFor isAsync leaf.1 leaf.2

/-- The action registers leaves from left to right, each under a valid name. If it succeeds it has
registered them all, and returns their names. -/
def Adds
    (isAsync : Bool)
    (leaves : List (String × Callable))
    (action : CacheAction (List String)) : Prop :=
  ∀ state, ∃ added rest, leaves = added ++ rest ∧
    (∀ leaf ∈ added, isHelperName leaf.1 = true) ∧
    (action state).2.registry = (entriesOf isAsync added).foldl Registry.store state.registry ∧
    ∀ names, (action state).1 = .ok names → rest = [] ∧ names = added.map Prod.fst

section Batches

variable {isAsync : Bool} {leaves others : List (String × Callable)}
  {expand : Option String → Value → CacheAction (List String)}
  {callHelper : Callable → CacheAction Value}

theorem Rejects.adds {action : CacheAction (List String)} (rejects : Rejects action) :
    Adds isAsync leaves action := by
  intro state
  obtain ⟨⟨failure, failed⟩, same⟩ := rejects state
  refine ⟨[], leaves, rfl, nofun, same, fun names returned => ?_⟩
  rw [failed] at returned
  cases returned

theorem adds_nothing : Adds isAsync [] (pure []) := by
  refine fun state => ⟨[], [], rfl, nofun, rfl, fun names returned => ?_⟩
  cases returned
  exact ⟨rfl, rfl⟩

/-- What happens in front registers nothing. -/
theorem Adds.after {action : CacheAction α} {next : α → CacheAction (List String)}
    (keeps : Respects SameRegistry action) (adds : ∀ value, Adds isAsync leaves (next value)) :
    Adds isAsync leaves (action >>= next) := by
  intro state
  have same : (action state).2.registry = state.registry := keeps state
  rw [bind_eq]
  rcases acts : action state with ⟨stop | value, middle⟩
  · rw [acts] at same
    exact ⟨[], leaves, rfl, nofun, same, nofun⟩
  · rw [acts] at same
    dsimp only at same ⊢
    rw [← same]
    exact adds value middle

theorem Adds.append {first further : CacheAction (List String)}
    (here : Adds isAsync leaves first) (there : Adds isAsync others further) :
    Adds isAsync (leaves ++ others) (do
      let names ← first
      let more ← further
      return names ++ more) := by
  intro state
  obtain ⟨added, rest, isSplit, valid, registry, all⟩ := here state
  rw [bind_eq]
  rcases acts : first state with ⟨stop | names, middle⟩
  · rw [acts] at registry
    exact ⟨added, rest ++ others, by rw [isSplit, List.append_assoc], valid, registry, nofun⟩
  · rw [acts] at registry all
    obtain ⟨rfl, rfl⟩ := all names rfl
    obtain ⟨more, left, isSplitThere, validThere, registryThere, allThere⟩ := there middle
    have both : (entriesOf isAsync (added ++ more)).foldl Registry.store state.registry =
        (entriesOf isAsync more).foldl Registry.store middle.registry := by
      rw [entriesOf, List.map_append, List.foldl_append, registry]
      rfl
    refine ⟨added ++ more, left, ?_, ?_, ?_⟩
    · rw [isSplit, isSplitThere, List.append_nil, List.append_assoc]
    · exact fun leaf member => (List.mem_append.mp member).elim (valid leaf) (validThere leaf)
    · rw [both, ← registryThere]
      dsimp only
      rw [bind_eq]
      rcases ends : further middle with ⟨stop | names, after⟩
      · exact ⟨rfl, nofun⟩
      · rw [ends] at allThere
        refine ⟨rfl, fun returned isReturned => ?_⟩
        cases isReturned
        obtain ⟨none, same⟩ := allThere names rfl
        exact ⟨none, by rw [same, List.map_append]⟩

theorem adds_leaf (name : String) (callable : Callable) :
    Adds isAsync [(name, callable)] (do
      let entry ← register isAsync (.text name) (.callable callable)
      pure [entry.name]) := by
  intro state
  by_cases registrable : isHelperName name = true
  · have granted := (granted?_text name callable).trans (if_pos registrable)
    have stored := registry_store (entryFor isAsync name callable) state
    rw [(register_granted isAsync granted).2, bind_eq]
    refine ⟨[(name, callable)], [], rfl, by simpa using registrable, ?_⟩
    rcases stores : store (entryFor isAsync name callable) state with ⟨stop | entry, after⟩
    · rw [stores] at stored
      exact ⟨stored, nofun⟩
    · rw [stores] at stored
      have same : entry = entryFor isAsync name callable :=
        entry_of_store (congrArg Prod.fst stores)
      refine ⟨stored, fun names returned => ⟨rfl, ?_⟩⟩
      cases returned
      rw [same]
      rfl
  · have refused := (granted?_text name callable).trans (if_neg registrable)
    exact ((register_refused isAsync refused).bind _).adds state

theorem rejects_refuseSource (value : Value) :
    Rejects (refuseSource value : CacheAction α) := by
  cases value with
  | text content => exact rejects_ofOutcome _ fun _ => rejects_refuse _ _
  | _ => exact rejects_refuse _ _

mutual

/-- Walking a source registers its leaves. -/
theorem adds_walk (expands : ∀ group value, Adds isAsync [] (expand group value))
    (calls : ∀ callable, Respects SameRegistry (callHelper callable)) (group : Option String) :
    ∀ source : Source, Adds isAsync (source.leaves group) (walk expand callHelper isAsync group source)
  | .mapping entries => by
      rw [walk, Source.leaves]
      exact adds_walkEntries expands calls group entries
  | .list items => by
      rw [walk, Source.leaves]
      exact adds_walkItems expands calls group items
  | .tuple items => by
      rw [walk, Source.leaves]
      exact adds_walkItems expands calls group items
  | .callable (.factory name (.mapping entries)) => by
      rw [walk, Source.leaves]
      exact .after (quiet_noteCall name .none) fun _ => adds_walkEntries expands calls group entries
  | .callable (.factory name (.list items)) => by
      rw [walk, Source.leaves]
      exact .after (quiet_noteCall name .none) fun _ => adds_walkItems expands calls group items
  | .callable (.factory name (.tuple items)) => by
      rw [walk, Source.leaves]
      exact .after (quiet_noteCall name .none) fun _ => adds_walkItems expands calls group items
  | .callable (.factory name (.callable _)) | .callable (.factory name (.plain _)) => by
      rw [walk]
      · exact .after (quiet_noteCall name .none) fun _ => (rejects_refuse _ _).adds
      all_goals nofun
  | .callable (.helper helper) => by
      rw [walk, Source.leaves]
      · refine .after (calls _) fun produced => ?_
        split
        · exact expands group _
        · exact expands group _
        · exact expands group _
        · exact (rejects_refuse _ _).adds
      all_goals nofun
  | .callable (.deferred name target) => by
      rw [walk, Source.leaves]
      · refine .after (calls _) fun produced => ?_
        split
        · exact expands group _
        · exact expands group _
        · exact expands group _
        · exact (rejects_refuse _ _).adds
      all_goals nofun
  | .plain value => by
      rw [walk]
      exact (rejects_refuseSource value).adds

theorem adds_walkItems (expands : ∀ group value, Adds isAsync [] (expand group value))
    (calls : ∀ callable, Respects SameRegistry (callHelper callable)) (group : Option String) :
    ∀ items : List Source,
      Adds isAsync (Source.leavesOfItems group items) (walkItems expand callHelper isAsync group items)
  | [] => by
      rw [walkItems, Source.leavesOfItems]
      exact adds_nothing
  | item :: rest => by
      rw [walkItems, Source.leavesOfItems]
      exact (adds_walk expands calls group item).append (adds_walkItems expands calls group rest)

theorem adds_walkEntries (expands : ∀ group value, Adds isAsync [] (expand group value))
    (calls : ∀ callable, Respects SameRegistry (callHelper callable)) (group : Option String) :
    ∀ entries : List (Value × Source), Adds isAsync (Source.leavesOfEntries group entries)
      (walkEntries expand callHelper isAsync group entries)
  | [] => by
      rw [walkEntries, Source.leavesOfEntries]
      exact adds_nothing
  | (key, member) :: rest => by
      have others := adds_walkEntries expands calls group rest
      rw [walkEntries]
      cases key with
      | text content =>
          cases member with
          | mapping entries =>
              rw [Source.leavesOfEntries]
              exact (adds_walkEntries expands calls _ entries).append others
          | callable helper =>
              have both := (adds_leaf (memberName group content) helper).append others
              rw [bind_assoc] at both
              rw [Source.leavesOfEntries]
              exact both
          | _ => exact (Rejects.bind (rejects_refuse _ _) _).adds
      | _ => exact (Rejects.bind (rejects_ofOutcome _ fun _ => rejects_refuse _ _) _).adds

end

theorem adds_walkSource (limits : Limits) (current : Option Nat) (group : Option String)
    (source : Source) :
    Adds isAsync (source.leaves group) (walkSource limits current isAsync group source) := by
  refine adds_walk (fun group value => ?_) (fun callable => ?_) group source
  · have returned : Adds isAsync ((Source.ofValue value).leaves group)
        (walkReturned isAsync group value) :=
      adds_walk (fun _ produced => (rejects_refuseSource produced).adds) (fun _ => quiet_pure _)
        group (Source.ofValue value)
    rwa [Source.leaves_ofValue] at returned
  · exact callable.quiet_call (quiet_runRoutine limits current) .none

theorem adds_registerGroup (limits : Limits) (current : Option Nat) {start : String}
    (valid : isHelperName start = true) (source : Source) :
    Adds isAsync (source.leaves (some start))
      (registerGroup limits current isAsync (.text start) source) := by
  unfold registerGroup
  dsimp only
  rw [if_pos valid]
  exact adds_walkSource limits current (some start) source

theorem registerGroup_refused (limits : Limits) (current : Option Nat) {group : Value}
    (invalid : isValidName group = false) (source : Source) :
    Rejects (registerGroup limits current isAsync group source) := by
  have refuses (name : Value) : Rejects (registerGroup.refuseGroup name) :=
    rejects_ofOutcome _ fun _ => rejects_refuse _ _
  unfold registerGroup
  cases group with
  | text start =>
      have isInvalid : ¬ isHelperName start = true := Bool.eq_false_iff.mp invalid
      dsimp only
      rw [if_neg isInvalid]
      exact refuses _
  | _ => exact refuses _

end Batches

end Cache

end DeferredText
