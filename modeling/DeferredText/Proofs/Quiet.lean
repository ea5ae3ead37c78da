import DeferredText.Proofs.Composed
import DeferredText.Proofs.Territory

/-!
Contract: evaluating templates and running helpers only adds calls.

All that helpers can ask for at once leaves waitlists and recorded calls alone, or records
a fresh call, and so does the evaluation of a template. Such an action respects every
relation between states that admits these two changes.

Owns: relations that admit quiet actions, and that everything below the resolution of a
waitlist is quiet.

Does not own: tasks that wait (`Proofs.Conduct`).
-/

namespace DeferredText

open CacheState Territory

variable {α β : Type}

/-- The state after a call was recorded. -/
def CacheState.recordedIn
    (state : CacheState)
    (index : Nat)
    (invocation : Invocation)
    (supply : Supply) : CacheState :=
  { state with
    supply := supply
    invocations := state.invocations ++ [invocation]
    waitlists := state.waitlists.set index
      ((state.waitlist index).append state.invocations.length) }

/-- The state after a rendering was started whose outcome nobody is told of. -/
def CacheState.begun
    (state : CacheState)
    (template data : Value)
    (current : Option Nat) : CacheState :=
  { state with
    promises := state.promises ++ [⟨"", "", none⟩]
    ready := state.ready ++ [.begin state.promises.length template data current] }

/-- A relation between states that allows what happens while a template is evaluated: every
change of anything but waitlists, calls, promises and what is due, the recording of a call,
and the start of a rendering whose outcome nobody is told of. -/
class Allows (allowed : CacheState → CacheState → Prop) : Prop where
  refl : ∀ state, allowed state state
  trans : ∀ {before middle after}, allowed before middle → allowed middle after →
    allowed before after
  calm : ∀ {before after}, after.core = before.core → after.started = before.started →
    after.promises = before.promises → after.ready = before.ready → allowed before after
  recorded : ∀ state index invocation supply, invocation.status = .pending →
    allowed state (state.recordedIn index invocation supply)
  begun : ∀ state template data current, allowed state (state.begun template data current)

/-- A relation between states that admits every change of anything but waitlists and calls,
and the recording of a call. -/
class Admits (allowed : CacheState → CacheState → Prop) : Prop where
  refl : ∀ state, allowed state state
  trans : ∀ {before middle after}, allowed before middle → allowed middle after →
    allowed before after
  idle : ∀ {before after}, after.core = before.core → after.started = before.started →
    allowed before after
  recorded : ∀ state index invocation supply, invocation.status = .pending →
    allowed state (state.recordedIn index invocation supply)

instance {allowed : CacheState → CacheState → Prop} [Admits allowed] : Allows allowed where
  refl := Admits.refl
  trans := Admits.trans
  calm := fun same started _ _ => Admits.idle same started
  recorded := Admits.recorded
  begun := fun _ _ _ _ => Admits.idle rfl rfl

/-- The action changes states as the relation allows. -/
def Action.Respects
    (allowed : CacheState → CacheState → Prop)
    (action : CacheAction α) : Prop :=
  ∀ state, allowed state (action state).2

/-- The action stays within a territory. -/
abbrev Action.Within
    (territory : Territory)
    (action : CacheAction α) : Prop :=
  Respects (Moves territory) action

/-- The action adds calls to waitlists at most. -/
abbrev Action.Quiet (action : CacheAction α) : Prop :=
  Within .empty action

variable {allowed : CacheState → CacheState → Prop}

namespace Action

theorem Respects.attempt {action : CacheAction α} (respects : Respects allowed action) :
    Respects allowed (attempt action) := by
  intro state
  rw [attempt_eq]
  exact respects state

theorem Respects.mapFailure {action : CacheAction α} (respects : Respects allowed action)
    (change : Failure → Failure) : Respects allowed (mapFailure change action) := by
  intro state
  have moves := respects state
  rw [Action.mapFailure]
  generalize action state = reached at moves ⊢
  rcases reached with ⟨(failure | _ | _) | value, after⟩ <;> exact moves

/-- An action that leaves waitlists and calls alone, and starts none. -/
theorem quiet_of_idle [Admits allowed] {action : CacheAction α}
    (same : ∀ state, (action state).2.core = state.core)
    (started : ∀ state, (action state).2.started = state.started) : Respects allowed action :=
  fun state => Admits.idle (same state) (started state)

variable [Allows allowed]

theorem Respects.bind {action : CacheAction α} {next : α → CacheAction β}
    (first : Respects allowed action) (second : ∀ value, Respects allowed (next value)) :
    Respects allowed (action >>= next) := by
  intro state
  rw [bind_eq]
  have moves := first state
  generalize action state = reached at moves ⊢
  rcases reached with ⟨stop | value, after⟩
  · exact moves
  · exact Allows.trans moves (second value after)

theorem quiet_pure (value : α) : Respects allowed (pure value) :=
  fun state => Allows.refl state

theorem quiet_get : Respects allowed get :=
  fun state => Allows.refl state

theorem quiet_fail (failure : Failure) : Respects allowed (fail failure : CacheAction α) :=
  fun state => Allows.refl state

theorem quiet_throw (stop : Stop) : Respects allowed (throw stop : CacheAction α) :=
  fun state => Allows.refl state

theorem quiet_ofOutcome (outcome : Outcome α) :
    Respects allowed (ofOutcome outcome : CacheAction α) := by
  intro state
  cases outcome <;> exact Allows.refl state

theorem Respects.discard {action : CacheAction α} (respects : Respects allowed action) :
    Respects allowed (discard action) :=
  respects.bind fun _ => quiet_pure _

end Action

open DeferredText.Action

/-! ### Elementary actions -/

namespace CacheState

section Admitted

variable [Admits allowed]

theorem quiet_schedule (delivery : Delivery) : Respects allowed (schedule delivery) :=
  quiet_of_idle (fun _ => rfl) fun _ => rfl

theorem quiet_makePromise (helperName cycleId : String) :
    Respects allowed (makePromise helperName cycleId) :=
  quiet_of_idle (fun _ => rfl) fun _ => rfl

end Admitted

variable [Allows allowed]

theorem quiet_noteCall (label : String) (arguments : Arguments) :
    Respects allowed (noteCall label arguments) :=
  fun _ => Allows.calm rfl rfl rfl rfl

theorem quiet_advanceClock (amount : Int) : Respects allowed (advanceClock amount) :=
  fun _ => Allows.calm rfl rfl rfl rfl

theorem quiet_tell (event : Event) : Respects allowed (tell event) := by
  intro state
  obtain ⟨lines, unwritten, told⟩ := tell_changes event state
  rw [told]
  exact Allows.calm rfl rfl rfl rfl

variable {state : CacheState} {index : Nat} {invocation : Invocation} {supply : Supply}

theorem queue_recordedIn (other : Nat) :
    (state.recordedIn index invocation supply).queue other =
      state.queue other ++
        if other = index ∧ index < state.waitlists.length then [state.invocations.length]
        else [] := by
  by_cases same : other = index
  · subst same
    by_cases inside : other < state.waitlists.length
    · simp [recordedIn, queue, waitlist, List.getD, inside, Waitlist.append]
    · simp [recordedIn, queue, waitlist, List.getD, inside, Waitlist.empty]
  · simp [recordedIn, queue, waitlist, List.getD, same, List.getElem?_set_ne (Ne.symm same)]

theorem mem_queue_recordedIn {other number : Nat} :
    number ∈ (state.recordedIn index invocation supply).queue other ↔
      number ∈ state.queue other ∨
        (number = state.invocations.length ∧ other = index ∧ index < state.waitlists.length) := by
  rw [queue_recordedIn, List.mem_append]
  split
  · rename_i inside
    simp [inside]
  · rename_i outside
    simp [outside]

theorem extended_recordedIn (other : Nat) :
    Extended state (state.recordedIn index invocation supply) other := by
  refine ⟨_, queue_recordedIn other, ?_⟩
  intro number member
  split at member
  · rw [List.mem_singleton.mp member]
  · cases member

theorem orderly_recordedIn (orderly : state.Orderly) :
    (state.recordedIn index invocation supply).Orderly := by
  have fresh : ∀ other, state.invocations.length ∉ state.queue other := fun other member =>
    Nat.lt_irrefl _ (orderly.exist other _ member)
  constructor
  · intro other number member
    have grown : (state.recordedIn index invocation supply).invocations.length =
        state.invocations.length + 1 := by simp [recordedIn]
    rw [grown]
    rcases mem_queue_recordedIn.mp member with old | ⟨new, -⟩
    · exact Nat.lt_succ_of_lt (orderly.exist other number old)
    · rw [new]
      exact Nat.lt_succ_self _
  · intro other
    rw [queue_recordedIn]
    split
    · rw [List.nodup_append]
      refine ⟨orderly.distinct other, by simp, ?_⟩
      rintro number old _ new rfl
      rw [List.mem_singleton.mp new] at old
      exact fresh other old
    · simpa using orderly.distinct other
  · intro first second number inFirst inSecond
    rcases mem_queue_recordedIn.mp inFirst with oldFirst | ⟨rfl, isFirst, -⟩
    · rcases mem_queue_recordedIn.mp inSecond with oldSecond | ⟨rfl, -⟩
      · exact orderly.separate first second number oldFirst oldSecond
      · exact absurd oldFirst (fresh first)
    · rcases mem_queue_recordedIn.mp inSecond with oldSecond | ⟨-, isSecond, -⟩
      · exact absurd oldSecond (fresh second)
      · exact isFirst.trans isSecond.symm
  · simpa [recordedIn] using orderly.fallback

theorem queue_initial (shape : PlaceholderShape) (strict warnsOnOverride : Bool)
    (log : Option LogSettings) (index : Nat) :
    (initial shape strict warnsOnOverride log).queue index = [] := by
  cases index with
  | zero => rfl
  | succ index => exact queue_eq_nil (Nat.succ_le_succ (Nat.zero_le index))

theorem orderly_initial (shape : PlaceholderShape) (strict warnsOnOverride : Bool)
    (log : Option LogSettings) : (initial shape strict warnsOnOverride log).Orderly := by
  have nothing := queue_initial shape strict warnsOnOverride log
  constructor
  · intro index number member
    rw [nothing] at member
    cases member
  · intro index
    rw [nothing]
    exact List.nodup_nil
  · intro index other number member
    rw [nothing] at member
    cases member
  · exact Nat.zero_lt_one

theorem invocation_recordedIn {number : Nat} (old : number < state.invocations.length) :
    (state.recordedIn index invocation supply).invocations[number]? =
      state.invocations[number]? := by
  simp [recordedIn, List.getElem?_append_left old]

theorem cycleId_recordedIn (other : Nat) :
    (state.recordedIn index invocation supply).cycleId other = state.cycleId other := by
  by_cases same : other = index
  · subst same
    by_cases inside : other < state.waitlists.length
    · simp [recordedIn, cycleId, waitlist, List.getD, inside, Waitlist.append]
    · simp [recordedIn, cycleId, waitlist, List.getD, inside, Waitlist.empty]
  · simp [recordedIn, cycleId, waitlist, List.getD, List.getElem?_set_ne (Ne.symm same)]

theorem moves_recordedIn : Moves .empty state (state.recordedIn index invocation supply) where
  waitlists := by simp [recordedIn]
  invocations := by simp [recordedIn]
  queued := fun other number member old => by
    rcases mem_queue_recordedIn.mp member with queued | ⟨new, -⟩
    · exact queued
    · exact absurd old (new ▸ Nat.lt_irrefl _)
  identity := fun number old => by rw [identity?, identity?, invocation_recordedIn old]
  cycles := fun other _ => cycleId_recordedIn other
  shape := rfl
  strict := rfl
  log := rfl
  registry := rfl
  fallback := rfl
  orderly := orderly_recordedIn
  recorded := fun other _ _ => extended_recordedIn other
  untouched := fun _ _ old => invocation_recordedIn old

theorem quiet_record (name : String) (target : Callable) (arguments : Arguments)
    (current : Option Nat) : Respects allowed (record name target arguments current) := by
  intro state
  exact Allows.recorded state _ _ _ rfl

instance (territory : Territory) : Admits (Moves territory) where
  refl := .refl territory
  trans := fun first second => first.trans (.refl _ _) second
  idle := fun same _ => .of_core same
  recorded := fun state index invocation supply _ => by
    have moves : Moves (territory.union .empty) state
        (state.recordedIn index invocation supply) := moves_recordedIn.union_left territory
    rwa [union_empty] at moves

theorem within_of_quiet {action : CacheAction α} (quiet : Quiet action) (territory : Territory) :
    Within territory action := fun state => by
  have moves := (quiet state).union_left territory
  rwa [union_empty] at moves

theorem quiet_noteStart (number : Nat) : Quiet (noteStart number) :=
  fun _ => .of_core rfl

end CacheState

/-! ### Fresh waitlists -/

namespace CacheState

/-- The state with one more waitlist. -/
def opened (state : CacheState) : CacheState :=
  { state with
    cyclesNamed := state.cyclesNamed + 1
    waitlists := state.waitlists ++ [Waitlist.empty (cycleName (state.cyclesNamed + 1))] }

theorem openWaitlist_eq (state : CacheState) :
    openWaitlist state = (.ok state.waitlists.length, state.opened) := by
  rfl

theorem waitlist_opened {state : CacheState} {index : Nat}
    (old : index < state.waitlists.length) :
    state.opened.waitlist index = state.waitlist index := by
  simp [opened, waitlist, List.getD, List.getElem?_append_left old]

theorem queue_opened (state : CacheState) (index : Nat) :
    state.opened.queue index = state.queue index := by
  rcases Nat.lt_trichotomy index state.waitlists.length with old | rfl | beyond
  · rw [queue, waitlist_opened old, queue]
  · rw [queue_eq_nil (Nat.le_refl _)]
    simp [opened, queue, waitlist, List.getD, Waitlist.empty]
  · rw [queue_eq_nil (Nat.le_of_lt beyond), queue_eq_nil]
    simpa [opened] using Nat.succ_le_of_lt beyond

theorem moves_opened (state : CacheState) : Moves .empty state state.opened where
  waitlists := by simp [opened]
  invocations := Nat.le_refl _
  queued := fun index number member _ => queue_opened state index ▸ member
  identity := fun _ _ => rfl
  cycles := fun index old => by rw [cycleId, waitlist_opened old, cycleId]
  shape := rfl
  strict := rfl
  log := rfl
  registry := rfl
  fallback := rfl
  orderly := fun orderly =>
    { exist := fun index number member =>
        orderly.exist index number (queue_opened state index ▸ member)
      distinct := fun index => by
        rw [queue_opened]
        exact orderly.distinct index
      separate := fun index other number first second =>
        orderly.separate index other number (queue_opened state index ▸ first)
          (queue_opened state other ▸ second)
      fallback := orderly.fallback.trans_le (by simp [opened]) }
  recorded := fun index _ _ => ⟨[], by simp [queue_opened], by simp⟩
  untouched := fun _ _ _ => rfl

end CacheState

/-! ### Helpers and templates -/

section Composed

variable [Allows allowed]

instance : Action.Covers fun _ => Respects allowed where
  pure := quiet_pure
  throw := quiet_throw
  bind := Respects.bind
  attempt := Respects.attempt
  mapFailure := Respects.mapFailure
  read := fun _ each => quiet_get.bind each
  noteCall := quiet_noteCall
  advanceClock := quiet_advanceClock
  record := quiet_record
  begin := fun template data current state => Allows.begun state template data current

theorem Callable.quiet_call {granted : Routine → CacheAction Value} {current : Option Nat}
    (quiet : ∀ routine, Respects allowed (granted routine)) (callable : Callable)
    (arguments : Arguments) : Respects allowed (callable.call granted current arguments) :=
  callable.composed_call (fun _ => Respects allowed) quiet arguments

theorem quiet_runRoutine (limits : Limits) (current : Option Nat) (routine : Routine) :
    Respects allowed (runRoutine limits current routine) :=
  composed_runRoutine (fun _ => Respects allowed) limits current routine

theorem Cache.quiet_renderPass (limits : Limits) (index : Nat) (template data : Value) :
    Respects allowed (Cache.renderPass limits index template data) :=
  Cache.composed_renderPass (fun _ => Respects allowed) limits index template data

end Composed

end DeferredText
