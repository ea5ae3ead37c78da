import DeferredText.Proofs.Composed
import DeferredText.Proofs.Registrations
import DeferredText.Proofs.Tellable
import DeferredText.Cache.Session

/-!
Contract: what a cache does at once, with and without its log.

Nothing but the telling of an event looks at the log, and an event that is refused is kept
as such. So an action that refuses no event has the same result in the cache without a log,
and leaves the same cache but for the log.

Owns: caches without their log, and that registrations, look-ups, helpers and the evaluation
of templates are blind to it.

Does not own: tasks that wait (`Proofs.Unheard`).
-/

namespace DeferredText

variable {α β : Type}

namespace CacheState

/-- The log of the cache fails to write an event. -/
def Refuses
    (state : CacheState)
    (event : Event) : Prop :=
  ∃ settings failure, state.log = some settings ∧ event.lines settings = .error failure

/-- From one state to another the log stays the same, and every event that it could not write
is kept. -/
structure Misses (before after : CacheState) : Prop where
  log : after.log = before.log
  missed : ∃ missed, after.unwritten = before.unwritten ++ missed ∧
    ∀ event ∈ missed, event.Told ∧ before.Refuses event

namespace Misses

variable {before middle after : CacheState}

theorem of_same (log : after.log = before.log) (unwritten : after.unwritten = before.unwritten) :
    Misses before after :=
  ⟨log, [], by rw [unwritten, List.append_nil], nofun⟩

theorem refl (state : CacheState) : Misses state state :=
  .of_same rfl rfl

theorem trans (first : Misses before middle) (second : Misses middle after) :
    Misses before after := by
  obtain ⟨log, missed, kept, told⟩ := first
  obtain ⟨logAfter, more, keptAfter, toldAfter⟩ := second
  refine ⟨logAfter.trans log, missed ++ more, by rw [keptAfter, kept, List.append_assoc], ?_⟩
  intro event member
  rcases List.mem_append.mp member with early | late
  · exact told event early
  · have refused := toldAfter event late
    unfold Refuses at refused ⊢
    rwa [log] at refused

/-- Nothing that was refused is forgotten. -/
theorem heard (first : Misses before middle) (second : Misses middle after)
    (none : after.unwritten = before.unwritten) :
    middle.unwritten = before.unwritten ∧ after.unwritten = middle.unwritten := by
  obtain ⟨-, missed, kept, -⟩ := first
  obtain ⟨-, more, keptAfter, -⟩ := second
  rw [keptAfter, kept, List.append_assoc, List.append_right_eq_self, List.append_eq_nil_iff] at none
  rw [keptAfter, kept, none.1, none.2]
  simp

/-- What is the same in two stretches if nothing is refused in them is the same in both. -/
theorem unheard {kind : Type} {double twin target : kind} (first : Misses before middle)
    (second : Misses middle after) (early : middle.unwritten = before.unwritten → double = twin)
    (late : after.unwritten = middle.unwritten → twin = target)
    (none : after.unwritten = before.unwritten) : double = target :=
  have ⟨nothing, nothingMore⟩ := first.heard second none
  (early nothing).trans (late nothingMore)

end Misses

end CacheState

open CacheState

/-! ### Actions -/

/-- Unless the log refuses an event, the action does the same in the cache without a log. -/
def Action.Blind (action : CacheAction α) : Prop :=
  ∀ state, Misses state (action state).2 ∧
    ((action state).2.unwritten = state.unwritten →
      action state.unlogged = ((action state).1, (action state).2.unlogged))

namespace Action

theorem blind_of_same {action : CacheAction α} (log : ∀ state, (action state).2.log = state.log)
    (unwritten : ∀ state, (action state).2.unwritten = state.unwritten)
    (same : ∀ state, action state.unlogged = ((action state).1, (action state).2.unlogged)) :
    Blind action :=
  fun state => ⟨.of_same (log state) (unwritten state), fun _ => same state⟩

theorem Blind.bind {action : CacheAction α} {next : α → CacheAction β} (first : Blind action)
    (second : ∀ value, Blind (next value)) : Blind (action >>= next) := by
  intro state
  obtain ⟨misses, unheard⟩ := first state
  rw [bind_eq, bind_eq]
  rcases acts : action state with ⟨stop | value, middle⟩
  · rw [acts] at misses unheard
    refine ⟨misses, fun none => ?_⟩
    rw [unheard none]
  · rw [acts] at misses unheard
    obtain ⟨missesNext, unheardNext⟩ := second value middle
    refine ⟨misses.trans missesNext, fun none => ?_⟩
    obtain ⟨early, late⟩ := misses.heard missesNext none
    rw [unheard early]
    exact unheardNext late

theorem blind_pure (value : α) : Blind (pure value) :=
  blind_of_same (fun _ => rfl) (fun _ => rfl) fun _ => rfl

theorem blind_throw (stop : Stop) : Blind (throw stop : CacheAction α) :=
  blind_of_same (fun _ => rfl) (fun _ => rfl) fun _ => rfl

theorem blind_fail (failure : Failure) : Blind (fail failure : CacheAction α) :=
  blind_throw (.failed failure)

theorem blind_ofOutcome (outcome : Outcome α) : Blind (ofOutcome outcome : CacheAction α) := by
  cases outcome with
  | ok value => exact blind_pure value
  | error failure => exact blind_fail failure

/-- What is read may be anything but the log. -/
theorem blind_read {next : CacheState → CacheAction α}
    (same : ∀ state, next state.unlogged = next state) (further : ∀ state, Blind (next state)) :
    Blind (get >>= next) := by
  intro state
  obtain ⟨misses, unheard⟩ := further state state
  refine ⟨misses, fun none => ?_⟩
  change next state.unlogged state.unlogged = _
  rw [same]
  exact unheard none

/-- An action that changes what is not the log and goes on with something it has read. -/
theorem blind_change {action : CacheAction α} (change : CacheState → CacheState)
    (next : CacheState → CacheAction α) (acts : ∀ state, action state = next state (change state))
    (log : ∀ state, (change state).log = state.log)
    (unwritten : ∀ state, (change state).unwritten = state.unwritten)
    (commutes : ∀ state, change state.unlogged = (change state).unlogged)
    (same : ∀ state, next state.unlogged = next state) (further : ∀ state, Blind (next state)) :
    Blind action := by
  intro state
  obtain ⟨misses, unheard⟩ := further state (change state)
  rw [acts, acts, commutes, same]
  refine ⟨(Misses.of_same (log state) (unwritten state)).trans misses, fun none => ?_⟩
  exact unheard (none.trans (unwritten state).symm)

theorem Blind.attempt {action : CacheAction α} (blind : Blind action) : Blind (attempt action) := by
  intro state
  obtain ⟨misses, unheard⟩ := blind state
  rw [attempt_eq, attempt_eq]
  refine ⟨misses, fun none => ?_⟩
  rw [unheard none]

theorem Blind.mapFailure {action : CacheAction α} (blind : Blind action)
    (change : Failure → Failure) : Blind (mapFailure change action) := by
  intro state
  obtain ⟨misses, unheard⟩ := blind state
  unfold Action.mapFailure
  rcases acts : action state with ⟨(failure | _ | _) | value, after⟩
  all_goals
    rw [acts] at misses unheard
    refine ⟨misses, fun none => ?_⟩
    rw [unheard none]

theorem Blind.discard {action : CacheAction α} (blind : Blind action) : Blind (discard action) :=
  blind.bind fun _ => blind_pure _

end Action

open DeferredText.Action

/-! ### Elementary actions -/

namespace CacheState

theorem blind_tell {event : Event} (told : event.Told) : Blind (tell event) := by
  intro state
  have silent : tell event state.unlogged = (.ok (), state.unlogged) := tell_silent event rfl
  rw [silent, tell_eq]
  cases log : state.log with
  | none => exact ⟨.refl state, fun _ => rfl⟩
  | some settings =>
      rw [Option.map_some]
      cases written : event.lines settings with
      | ok lines => exact ⟨.of_same rfl rfl, fun _ => rfl⟩
      | error failure =>
          refine ⟨⟨rfl, [event], rfl, ?_⟩, fun none => ?_⟩
          · intro other member
            rw [List.mem_singleton.mp member]
            exact ⟨told, settings, failure, log, written⟩
          · simp [refusing, withLog] at none

theorem blind_schedule (delivery : Delivery) : Blind (schedule delivery) :=
  blind_of_same (fun _ => rfl) (fun _ => rfl) fun _ => rfl

theorem blind_makePromise (helperName cycleId : String) : Blind (makePromise helperName cycleId) :=
  blind_of_same (fun _ => rfl) (fun _ => rfl) fun _ => rfl

theorem blind_noteCall (label : String) (arguments : Arguments) : Blind (noteCall label arguments) :=
  blind_of_same (fun _ => rfl) (fun _ => rfl) fun _ => rfl

theorem blind_noteStart (number : Nat) : Blind (noteStart number) :=
  blind_of_same (fun _ => rfl) (fun _ => rfl) fun _ => rfl

theorem blind_advanceClock (amount : Int) : Blind (advanceClock amount) :=
  blind_of_same (fun _ => rfl) (fun _ => rfl) fun _ => rfl

theorem blind_record (name : String) (target : Callable) (arguments : Arguments)
    (current : Option Nat) : Blind (record name target arguments current) :=
  blind_of_same (fun _ => rfl) (fun _ => rfl) fun _ => rfl

theorem blind_openWaitlist : Blind openWaitlist :=
  blind_of_same (fun _ => rfl) (fun _ => rfl) fun _ => rfl

theorem blind_clearWaitlist (index : Nat) : Blind (clearWaitlist index) :=
  blind_of_same (fun _ => rfl) (fun _ => rfl) fun _ => rfl

theorem blind_updateInvocation (number : Nat) (change : Invocation → Invocation) :
    Blind (updateInvocation number change) :=
  blind_of_same (fun _ => rfl) (fun _ => rfl) fun _ => rfl

theorem blind_argumentsOf (number : Nat) : Blind (argumentsOf number) :=
  blind_of_same (fun _ => rfl) (fun _ => rfl) fun _ => rfl

theorem blind_takeNext (index : Nat) : Blind (takeNext index) := by
  have same : ∀ state : CacheState, state.unlogged.waitlist index = state.waitlist index :=
    fun _ => rfl
  apply blind_of_same
  all_goals
    intro state
    simp only [takeNext_eq, same]
    cases (state.waitlist index).take? <;> rfl

end CacheState

instance : Action.Covers fun _ => Blind where
  pure := blind_pure
  throw := blind_throw
  bind := Blind.bind
  attempt := Blind.attempt
  mapFailure := Blind.mapFailure
  read := blind_read
  noteCall := blind_noteCall
  advanceClock := blind_advanceClock
  record := blind_record
  begin := fun _ _ _ => (blind_makePromise "" "").bind fun _ => blind_schedule _

/-! ### Registrations and look-ups -/

namespace Cache

variable {expand : Option String → Value → CacheAction (List String)}
  {callHelper : Callable → CacheAction Value}

theorem blind_refuse (name : Value) (reason : String) :
    Blind (refuse name reason : CacheAction α) :=
  (blind_tell (.rejected name reason)).bind fun _ => blind_fail _

theorem blind_refuseName (name : Value) : Blind (refuseName name : CacheAction α) :=
  (blind_ofOutcome _).bind fun _ => blind_refuse _ _

theorem blind_validated (name : Value) (source : Source) : Blind (validated name source) := by
  unfold validated
  split
  · split
    · split
      · exact blind_pure _
      · exact blind_refuse _ _
    · exact blind_refuseName _
  · exact blind_refuseName _

theorem blind_store (entry : Entry) : Blind (store entry) := by
  have last : Blind (do
      CacheState.tell (.registered (.text entry.name) (.text entry.kind.name))
      return entry) :=
    (blind_tell (.registered _ _)).bind fun _ => blind_pure entry
  refine blind_change (fun state => { state with registry := state.registry.store entry })
    (noteStored entry) (fun _ => rfl) (fun _ => rfl) (fun _ => rfl) (fun _ => rfl) (fun _ => rfl)
    fun state => ?_
  rcases noteStored_cases entry state with same | ⟨replaced, same⟩
  · rw [same]
    exact last
  · rw [same]
    exact (blind_tell (.overridden _ _ _)).bind fun _ => last

theorem blind_register (isAsync : Bool) (name : Value) (source : Source) :
    Blind (register isAsync name source) :=
  (blind_validated name source).bind fun _ => (blind_ofOutcome _).bind blind_store

theorem blind_refuseProduct (name : Option String) (typeName : String) :
    Blind (refuseProduct name typeName : CacheAction α) :=
  blind_refuse _ _

theorem blind_refuseSource (value : Value) : Blind (refuseSource value : CacheAction α) := by
  unfold refuseSource
  split
  · exact (blind_ofOutcome _).bind fun _ => blind_refuse _ _
  · exact blind_refuse _ _

theorem blind_memberKey (key : Value) : Blind (memberKey key) := by
  unfold memberKey
  split
  · exact blind_pure _
  · exact (blind_ofOutcome _).bind fun _ => blind_refuse _ _

mutual

theorem blind_walk (expands : ∀ group value, Blind (expand group value))
    (calls : ∀ callable, Blind (callHelper callable)) (isAsync : Bool) (group : Option String) :
    ∀ source : Source, Blind (walk expand callHelper isAsync group source)
  | .mapping entries => by
      rw [walk]
      exact blind_walkEntries expands calls isAsync group entries
  | .list items => by
      rw [walk]
      exact blind_walkItems expands calls isAsync group items
  | .tuple items => by
      rw [walk]
      exact blind_walkItems expands calls isAsync group items
  | .callable (.factory name (.mapping entries)) => by
      rw [walk]
      exact (blind_noteCall name .none).bind fun _ =>
        blind_walkEntries expands calls isAsync group entries
  | .callable (.factory name (.list items)) => by
      rw [walk]
      exact (blind_noteCall name .none).bind fun _ =>
        blind_walkItems expands calls isAsync group items
  | .callable (.factory name (.tuple items)) => by
      rw [walk]
      exact (blind_noteCall name .none).bind fun _ =>
        blind_walkItems expands calls isAsync group items
  | .callable (.factory name (.callable _)) | .callable (.factory name (.plain _)) => by
      rw [walk]
      · exact (blind_noteCall name .none).bind fun _ => blind_refuseProduct _ _
      all_goals nofun
  | .callable (.helper helper) => by
      rw [walk]
      · refine (calls _).bind fun produced => ?_
        split
        · exact expands group _
        · exact expands group _
        · exact expands group _
        · exact blind_refuseProduct _ _
      · nofun
  | .callable (.deferred name target) => by
      rw [walk]
      · refine (calls _).bind fun produced => ?_
        split
        · exact expands group _
        · exact expands group _
        · exact expands group _
        · exact blind_refuseProduct _ _
      · nofun
  | .plain value => by
      rw [walk]
      exact blind_refuseSource value

theorem blind_walkItems (expands : ∀ group value, Blind (expand group value))
    (calls : ∀ callable, Blind (callHelper callable)) (isAsync : Bool) (group : Option String) :
    ∀ items : List Source, Blind (walkItems expand callHelper isAsync group items)
  | [] => by
      rw [walkItems]
      exact blind_pure _
  | item :: rest => by
      rw [walkItems]
      exact (blind_walk expands calls isAsync group item).bind fun _ =>
        (blind_walkItems expands calls isAsync group rest).bind fun _ => blind_pure _

theorem blind_walkEntries (expands : ∀ group value, Blind (expand group value))
    (calls : ∀ callable, Blind (callHelper callable)) (isAsync : Bool) (group : Option String) :
    ∀ entries : List (Value × Source), Blind (walkEntries expand callHelper isAsync group entries)
  | [] => by
      rw [walkEntries]
      exact blind_pure _
  | (key, member) :: rest => by
      rw [walkEntries]
      refine (blind_memberKey key).bind fun content => ?_
      have others : ∀ first, Blind (do
          let further ← walkEntries expand callHelper isAsync group rest
          return first ++ further) := fun first =>
        (blind_walkEntries expands calls isAsync group rest).bind fun _ => blind_pure _
      cases member with
      | mapping entries =>
          exact (blind_walkEntries expands calls isAsync _ entries).bind others
      | callable callable =>
          exact (blind_register isAsync _ _).bind fun entry => others [entry.name]
      | list items => exact (blind_refuse _ _).bind others
      | tuple items => exact (blind_refuse _ _).bind others
      | plain value => exact (blind_refuse _ _).bind others

end

theorem blind_walkSource (limits : Limits) (current : Option Nat) (isAsync : Bool)
    (group : Option String) (source : Source) :
    Blind (walkSource limits current isAsync group source) := by
  refine blind_walk (fun group value => ?_) (fun callable => ?_) isAsync group source
  · exact blind_walk (fun _ produced => blind_refuseSource produced) (fun _ => blind_pure _)
      isAsync group _
  · exact callable.composed_call (fun _ => Blind)
      (composed_runRoutine (fun _ => Blind) limits current) .none

theorem blind_registerGroup (limits : Limits) (current : Option Nat) (isAsync : Bool)
    (group : Value) (source : Source) :
    Blind (registerGroup limits current isAsync group source) := by
  have refuses : ∀ name, Blind (registerGroup.refuseGroup name) := fun name =>
    (blind_ofOutcome _).bind fun _ => blind_refuse _ _
  unfold registerGroup
  split
  · split
    · exact blind_walkSource limits current isAsync _ source
    · exact refuses _
  · exact refuses _

/-- What removing a helper does. -/
theorem unregister_eq (name : Value) (state : CacheState) :
    unregister name state =
      match tableKey name with
      | .error failure => (.error (.failed failure), state)
      | .ok none => (.ok false, state)
      | .ok (some content) =>
          if state.registry.contains content then
            (.ok true, { state with registry := state.registry.remove content })
          else (.ok false, state) := by
  rw [unregister, Action.bind_ok (Action.get_eq state) rfl]
  cases tableKey name with
  | error failure => rfl
  | ok key =>
      cases key with
      | none => rfl
      | some content =>
          rw [Action.bind_eq]
          change (if state.registry.contains content then _ else _ : CacheAction Bool) state = _
          by_cases present : state.registry.contains content = true
          · rw [if_pos present]
            exact (if_pos present).symm
          · rw [if_neg present]
            exact (if_neg present).symm

theorem blind_unregister (name : Value) : Blind (unregister name) := by
  have same : ∀ state : CacheState, state.unlogged.registry = state.registry := fun _ => rfl
  apply blind_of_same
  all_goals
    intro state
    simp only [unregister_eq, same]
    split
    · rfl
    · rfl
    · split <;> rfl

theorem blind_shortForm (limits : Limits) (current : Option Nat) (isAsync : Bool)
    (first second : Source) : Blind (shortForm limits current isAsync first second) := by
  have registers : ∀ name source, Blind (do
      discard (register isAsync name source)
      return ShortAnswer.source source) := fun name source =>
    (blind_register isAsync name source).discard.bind fun _ => blind_pure _
  have batch : ∀ source, Blind (do
      return ShortAnswer.names (← registerBatch limits current isAsync source)) := fun source =>
    (blind_walkSource limits current isAsync none source).bind fun _ => blind_pure _
  unfold shortForm
  split
  · split
    · exact blind_read (fun _ => rfl) fun _ => (blind_ofOutcome _).bind fun _ => blind_pure _
    · exact (blind_registerGroup limits current isAsync _ _).bind fun _ => blind_pure _
    · exact registers _ _
  · split
    · exact blind_read (fun _ => rfl) fun _ => blind_pure _
    · split
      · split
        · exact registers _ _
        · exact batch _
      · exact batch _

theorem blind_callFound (limits : Limits) (current : Option Nat) (name : Value)
    (arguments : Arguments) : Blind (callFound limits current name arguments) := by
  refine blind_read (fun _ => rfl) fun state => (blind_ofOutcome _).bind fun found => ?_
  cases found with
  | nothing => exact blind_fail _
  | group members => exact blind_fail _
  | callable callable =>
      exact callable.composed_call (fun _ => Blind)
        (composed_runRoutine (fun _ => Blind) limits current) arguments

end Cache

end DeferredText
