import DeferredText.Proofs.Promised
import DeferredText.Proofs.Steady

/-!
Contract: who tells the log of a cycle.

A drain tells of the cycle of its waitlist, and a rendering of the one that it has opened. All else
that runs is aloof: helpers and templates tell nothing, and what is told of a callback that is used
again is of no cycle. So beside the drain of a waitlist nobody tells of its cycle, as long as the
tasks that wait are at work on other cycles.

Owns: what the log was told between two states, names of cycles, and that tasks keep aloof from all
cycles but their own.

Does not own: what a drain tells of its own cycle (`Proofs.Account`).
-/

namespace DeferredText

open CacheState DeferredText.Action

variable {α β : Type} {cycle : String} {before middle after state : CacheState}

/-! ### Names of cycles -/

/-- The digits below sixteen. -/
def hexPlaces : List Char :=
  ['0', '1', '2', '3', '4', '5', '6', '7', '8', '9', 'a', 'b', 'c', 'd', 'e', 'f']

def readHex (digits : List Char) : Nat :=
  digits.foldl (fun total digit => total * 16 + hexPlaces.idxOf digit) 0

theorem readHex_snoc (digits : List Char) (digit : Char) :
    readHex (digits ++ [digit]) = readHex digits * 16 + hexPlaces.idxOf digit := by
  rw [readHex, List.foldl_append]
  rfl

theorem idxOf_digitChar {digit : Nat} (small : digit < 16) :
    hexPlaces.idxOf digit.digitChar = digit := by
  have each : ∀ place : Fin 16, hexPlaces.idxOf (Nat.digitChar place) = place := by decide
  exact each ⟨digit, small⟩

theorem readHex_toDigits (number : Nat) : readHex (Nat.toDigits 16 number) = number := by
  induction number using Nat.strongRecOn with
  | ind number inductionHypothesis =>
      by_cases small : number < 16
      · rw [Nat.toDigits_of_lt_base small, ← List.nil_append [number.digitChar], readHex_snoc,
          idxOf_digitChar small]
        exact Nat.zero_add number
      · have fewer : number / 16 < number := by omega
        rw [Nat.toDigits_of_base_le (by decide) (Nat.le_of_not_lt small), readHex_snoc,
          inductionHypothesis _ fewer, idxOf_digitChar (Nat.mod_lt _ (by decide))]
        omega

theorem readHex_hexDigits (width number : Nat) : readHex (hexDigits width number) = number := by
  have leading : ∀ count, readHex (List.replicate count '0') = 0 := by
    intro count
    induction count with
    | zero => rfl
    | succ count inductionHypothesis =>
        rw [List.replicate_succ', readHex_snoc, inductionHypothesis]
        rfl
  rw [hexDigits, readHex, List.foldl_append]
  exact (congrArg (List.foldl _ · _) (leading _)).trans (readHex_toDigits number)

/-- Cycles of different numbers have different names. -/
theorem cycleName_injective : Function.Injective cycleName := by
  intro first second same
  have digits : hexDigits 8 first = hexDigits 8 second := String.ofList_injective same
  rw [← readHex_hexDigits 8 first, digits, readHex_hexDigits]

/-! ### What the log is told -/

namespace Event

/-- The cycle that an event is about. That a callback was used again is about no cycle: the drain
of the call may long be over. -/
def cycle? : Event → Option String
  | .renderCompleted cycle _ _ | .renderFailed cycle _ | .started cycle _ | .skipped cycle _ _
  | .invoking cycle _ _ | .completed cycle _ _ | .failed cycle _ _ _ | .finished cycle _ _ _
  | .aborted cycle _ => cycle.text?
  | .registered _ _ | .overridden _ _ _ | .rejected _ _ | .duplicate _ _ => none

def concerns
    (cycle : String)
    (event : Event) : Bool :=
  event.cycle? == some cycle

theorem concerns_eq_false {event : Event} (other : event.cycle? ≠ some cycle) :
    event.concerns cycle = false :=
  beq_eq_false_iff_ne.mpr other

theorem concerns_eq_true {event : Event} (own : event.cycle? = some cycle) :
    event.concerns cycle = true :=
  beq_iff_eq.mpr own

end Event

namespace CacheState

/-- The lines that the log gains by an event, if it can write it. -/
def linesOf
    (state : CacheState)
    (event : Event) : List String :=
  match state.log.map event.lines with
  | some (.ok lines) => lines
  | _ => []

/-- The log cannot write the event. -/
def refuses
    (state : CacheState)
    (event : Event) : Bool :=
  match state.log.map event.lines with
  | some (.error _) => true
  | _ => false

/-- Between two states the log was told of these events, one after the other. -/
structure Told (events : List Event) (before after : CacheState) : Prop where
  log : after.log = before.log
  lines : after.lines = before.lines ++ events.flatMap before.linesOf
  unwritten : after.unwritten = before.unwritten ++ events.filter before.refuses

theorem Told.nothing (log : after.log = before.log) (lines : after.lines = before.lines)
    (unwritten : after.unwritten = before.unwritten) : Told [] before after :=
  ⟨log, by simpa using lines, by simpa using unwritten⟩

theorem Told.trans {first second : List Event} (early : Told first before middle)
    (late : Told second middle after) : Told (first ++ second) before after := by
  have lines : middle.linesOf = before.linesOf := by
    funext event
    rw [linesOf, early.log, linesOf]
  have refuses : middle.refuses = before.refuses := by
    funext event
    rw [CacheState.refuses, early.log, CacheState.refuses]
  refine ⟨late.log.trans early.log, ?_, ?_⟩
  · rw [late.lines, early.lines, lines, List.flatMap_append, List.append_assoc]
  · rw [late.unwritten, early.unwritten, refuses, List.filter_append, List.append_assoc]

theorem told_tell (event : Event) (state : CacheState) :
    Told [event] state (tell event state).2 := by
  rw [tell_eq]
  cases told : state.log.map event.lines with
  | none => exact ⟨rfl, by simp [linesOf, told], by simp [refuses, told]⟩
  | some written =>
      cases written with
      | ok lines =>
          exact ⟨rfl, by simp [linesOf, told, withLines], by simp [refuses, told, withLines]⟩
      | error failure =>
          exact ⟨rfl, by simp [linesOf, told, refusing, withLog],
            by simp [refuses, told, refusing, withLog]⟩

/-- Between two states the log was told of these events of a cycle, whatever else it was told. -/
def ToldOf
    (cycle : String)
    (own : List Event)
    (before after : CacheState) : Prop :=
  ∃ events, Told events before after ∧ events.filter (Event.concerns cycle) = own

theorem ToldOf.trans {first second : List Event} (early : ToldOf cycle first before middle)
    (late : ToldOf cycle second middle after) : ToldOf cycle (first ++ second) before after := by
  obtain ⟨events, told, rfl⟩ := early
  obtain ⟨more, toldMore, rfl⟩ := late
  exact ⟨events ++ more, told.trans toldMore, List.filter_append ..⟩

/-! ### Keeping aloof -/

/-- What every change of a cache leaves of the names of cycles. -/
structure Names (before after : CacheState) : Prop where
  waitlists : before.waitlists.length ≤ after.waitlists.length
  cycles : ∀ index < before.waitlists.length, after.cycleId index = before.cycleId index
  named : before.cyclesNamed ≤ after.cyclesNamed

theorem Names.refl (state : CacheState) : Names state state :=
  ⟨Nat.le_refl _, fun _ _ => rfl, Nat.le_refl _⟩

theorem Names.trans (first : Names before middle) (second : Names middle after) :
    Names before after where
  waitlists := first.waitlists.trans second.waitlists
  cycles := fun index inside =>
    (second.cycles index (inside.trans_le first.waitlists)).trans (first.cycles index inside)
  named := first.named.trans second.named

/-- A change during which nothing is told of a cycle. -/
structure Aloof (cycle : String) (before after : CacheState) : Prop extends Names before after where
  told : ToldOf cycle [] before after

theorem Aloof.trans (first : Aloof cycle before middle) (second : Aloof cycle middle after) :
    Aloof cycle before after :=
  ⟨first.toNames.trans second.toNames, first.told.trans second.told⟩

/-- The log is told nothing, and cycles are what they were. -/
theorem Aloof.of_names (names : Names before after) (log : after.log = before.log)
    (lines : after.lines = before.lines) (unwritten : after.unwritten = before.unwritten) :
    Aloof cycle before after :=
  ⟨names, [], .nothing log lines unwritten, rfl⟩

/-- Waitlists are what they were, and the log too. -/
theorem Aloof.of_same (waitlists : after.waitlists = before.waitlists)
    (named : after.cyclesNamed = before.cyclesNamed) (log : after.log = before.log)
    (lines : after.lines = before.lines) (unwritten : after.unwritten = before.unwritten) :
    Aloof cycle before after :=
  .of_names ⟨Nat.le_of_eq (congrArg _ waitlists.symm),
    fun index _ => by rw [cycleId, waitlist, waitlists, cycleId, waitlist],
    Nat.le_of_eq named.symm⟩ log lines unwritten

theorem Aloof.refl (cycle : String) (state : CacheState) : Aloof cycle state state :=
  .of_same rfl rfl rfl rfl rfl

theorem aloof_recordedIn (state : CacheState) (index : Nat) (invocation : Invocation)
    (supply : Supply) : Aloof cycle state (state.recordedIn index invocation supply) :=
  .of_names ⟨by simp [recordedIn], fun other _ => cycleId_recordedIn other, Nat.le_refl _⟩ rfl rfl
    rfl

/-- The cycle has got its name. -/
def Known
    (cycle : String)
    (state : CacheState) : Prop :=
  ∃ number ≤ state.cyclesNamed, cycle = cycleName number

/-- The waitlist is not that of the cycle. -/
structure Elsewhere (cycle : String) (index : Nat) (state : CacheState) : Prop where
  known : state.Known cycle
  inside : index < state.waitlists.length
  other : state.cycleId index ≠ cycle

/-- What stays true of cycles whatever happens. -/
class Lasting (needs : CacheState → Prop) : Prop where
  lasts : ∀ {before after}, Names before after → needs before → needs after

instance : Lasting (Known cycle) where
  lasts := fun names ⟨number, small, isName⟩ => ⟨number, small.trans names.named, isName⟩

instance (index : Nat) : Lasting (Elsewhere cycle index) where
  lasts := fun names elsewhere =>
    ⟨Lasting.lasts names elsewhere.known, elsewhere.inside.trans_le names.waitlists,
      names.cycles index elsewhere.inside ▸ elsewhere.other⟩

end CacheState

/-! ### Actions -/

namespace Action

theorem aloof_bind {action : CacheAction α} {next : α → CacheAction β}
    (first : Respects (Aloof cycle) action)
    (second : ∀ value, Respects (Aloof cycle) (next value)) :
    Respects (Aloof cycle) (action >>= next) := by
  intro state
  have early := first state
  rw [bind_eq]
  rcases acts : action state with ⟨stop | value, after⟩ <;> rw [acts] at early
  · exact early
  · exact early.trans (second value after)

theorem aloof_pure (value : α) : Respects (Aloof cycle) (pure value) :=
  fun state => .refl cycle state

theorem aloof_get : Respects (Aloof cycle) get :=
  fun state => .refl cycle state

theorem aloof_throw (stop : Stop) : Respects (Aloof cycle) (throw stop : CacheAction α) :=
  fun state => .refl cycle state

instance : Covers fun _ => Respects (Aloof cycle) where
  pure := aloof_pure
  throw := aloof_throw
  bind := aloof_bind
  attempt := Respects.attempt
  mapFailure := Respects.mapFailure
  read := fun _ each => aloof_bind aloof_get each
  noteCall := fun _ _ _ => .of_same rfl rfl rfl rfl rfl
  advanceClock := fun _ _ => .of_same rfl rfl rfl rfl rfl
  record := fun _ _ _ _ state => aloof_recordedIn state _ _ _
  begin := fun _ _ _ _ => .of_same rfl rfl rfl rfl rfl

end Action

namespace CacheState

theorem aloof_tell {event : Event} (other : event.cycle? ≠ some cycle) :
    Respects (Aloof cycle) (tell event) := by
  intro state
  obtain ⟨lines, unwritten, changes⟩ := tell_changes event state
  refine ⟨?_, [event], told_tell event state, ?_⟩
  · rw [changes]
    exact ⟨Nat.le_refl _, fun _ _ => rfl, Nat.le_refl _⟩
  · rw [List.filter_cons_of_neg (by simp [Event.concerns_eq_false other]), List.filter_nil]

theorem aloof_schedule (delivery : Delivery) : Respects (Aloof cycle) (schedule delivery) :=
  fun _ => .of_same rfl rfl rfl rfl rfl

theorem aloof_makePromise (helperName cycleId : String) :
    Respects (Aloof cycle) (makePromise helperName cycleId) :=
  fun _ => .of_same rfl rfl rfl rfl rfl

theorem aloof_noteCall (label : String) (arguments : Arguments) :
    Respects (Aloof cycle) (noteCall label arguments) :=
  fun _ => .of_same rfl rfl rfl rfl rfl

theorem aloof_noteStart (number : Nat) : Respects (Aloof cycle) (noteStart number) :=
  fun _ => .of_same rfl rfl rfl rfl rfl

theorem aloof_setStatus (number : Nat) (status : InvocationStatus) :
    Respects (Aloof cycle) (setStatus number status) :=
  fun _ => .of_same rfl rfl rfl rfl rfl

theorem aloof_prepared (number : Nat) (results : Results) :
    Aloof cycle state (state.prepared number results) := by
  rw [prepared]
  split <;> exact .of_same rfl rfl rfl rfl rfl

theorem names_withQueue (index : Nat) (numbers : List Nat) :
    Names state (state.withQueue index numbers) where
  waitlists := by simp [withQueue, setWaitlist]
  cycles := fun other _ => cycleId_withQueue numbers other
  named := Nat.le_refl _

theorem aloof_withQueue (index : Nat) (numbers : List Nat) :
    Aloof cycle state (state.withQueue index numbers) :=
  .of_names (names_withQueue index numbers) rfl rfl rfl

theorem aloof_opened (state : CacheState) : Aloof cycle state state.opened :=
  .of_names ⟨by simp [opened], fun index old => by rw [cycleId, waitlist_opened old, cycleId],
    Nat.le_succ _⟩ rfl rfl rfl

/-- A waitlist that is opened gets a name that no cycle has. -/
theorem elsewhere_opened (known : state.Known cycle) :
    Elsewhere cycle state.waitlists.length state.opened := by
  have opens : Aloof cycle state state.opened := aloof_opened state
  refine ⟨Lasting.lasts opens.toNames known, by simp [opened], ?_⟩
  obtain ⟨number, small, rfl⟩ := known
  have named : state.opened.cycleId state.waitlists.length = cycleName (state.cyclesNamed + 1) := by
    simp [opened, cycleId, waitlist, List.getD, Waitlist.empty]
  rw [named]
  exact fun same => absurd (cycleName_injective same) (by omega)

end CacheState

/-! ### Steps -/

namespace Step

/-- Whenever the step goes on, nothing is told of the cycle. -/
def Aloof (cycle : String) : CacheState → Step CacheState α → Prop
  | before, .done _ after => CacheState.Aloof cycle before after
  | before, .waiting _ middle resume =>
      CacheState.Aloof cycle before middle ∧
        ∀ outcome later, Names middle later → Aloof cycle later (resume outcome later)

theorem Aloof.behind {step : Step CacheState α} (first : CacheState.Aloof cycle before middle)
    (aloof : Aloof cycle middle step) : Aloof cycle before step := by
  cases step with
  | done result after => exact CacheState.Aloof.trans first aloof
  | waiting promise after resume => exact ⟨first.trans aloof.1, aloof.2⟩

theorem Aloof.andThen {step : Step CacheState α} {next : α → CacheState → Step CacheState β}
    (aloof : Aloof cycle before step)
    (further : ∀ value after, Names before after → Aloof cycle after (next value after)) :
    Aloof cycle before (step.andThen next) := by
  induction step generalizing before with
  | done result after =>
      cases result with
      | ok value => exact .behind aloof (further value after aloof.toNames)
      | error stop => exact aloof
  | waiting promise middle resume inductionHypothesis =>
      refine ⟨aloof.1, fun outcome later waited => ?_⟩
      apply inductionHypothesis outcome later (aloof.2 outcome later waited)
      intro value after names
      exact further value after ((aloof.1.toNames.trans waited).trans names)

theorem Aloof.attempt {step : Step CacheState α} (aloof : Aloof cycle before step) :
    Aloof cycle before step.attempt := by
  induction step generalizing before with
  | done result after =>
      rw [attempt_done]
      exact aloof
  | waiting promise middle resume inductionHypothesis =>
      exact ⟨aloof.1, fun outcome later waited =>
        inductionHypothesis outcome later (aloof.2 outcome later waited)⟩

end Step

namespace Task

variable {needs : CacheState → Prop}

/-- From every state with what the task needs, nothing is told of the cycle. -/
def Aloof
    (cycle : String)
    (needs : CacheState → Prop)
    (task : Task CacheState α) : Prop :=
  ∀ state, needs state → Step.Aloof cycle state (task state)

theorem aloof_pure (value : α) : Aloof cycle needs (pure value : Task CacheState α) :=
  fun state _ => .refl cycle state

theorem aloof_stop (reason : Stop) : Aloof cycle needs (stop reason : Task CacheState α) :=
  fun state _ => .refl cycle state

theorem aloof_await (promise : Nat) : Aloof cycle needs (await promise) := by
  intro state _
  refine ⟨.refl cycle state, ?_⟩
  rintro (failure | value) later - <;> exact .refl cycle later

theorem aloof_acts {action : CacheAction α}
    (aloof : CacheState.Aloof cycle state (action state).2) :
    Step.Aloof cycle state (ofAction action state) := by
  rw [ofAction]
  generalize action state = reached at aloof ⊢
  exact aloof

theorem Aloof.of_action {action : CacheAction α}
    (respects : Respects (CacheState.Aloof cycle) action) : Aloof cycle needs (ofAction action) :=
  fun state _ => aloof_acts (respects state)

theorem Aloof.attempt {task : Task CacheState α} (aloof : task.Aloof cycle needs) :
    Aloof cycle needs task.attempt :=
  fun state met => (aloof state met).attempt

variable [Lasting needs]

theorem Aloof.bind {task : Task CacheState α} {next : α → Task CacheState β}
    (first : task.Aloof cycle needs) (second : ∀ value, (next value).Aloof cycle needs) :
    Aloof cycle needs (task >>= next) :=
  fun state met => (first state met).andThen fun value after names =>
    second value after (Lasting.lasts names met)

end Task

open DeferredText.Task

/-! ### Implementations -/

section Implementations

variable {needs : CacheState → Prop} [Lasting needs] {granted : Routine → CacheAction Value}
  {render : NestedRender} {promise : Nat}

theorem Coroutine.aloof_run
    (respects : ∀ routine, Respects (CacheState.Aloof cycle) (granted routine))
    (renders : ∀ template data, (render template data).Aloof cycle needs) (coroutine : Coroutine) :
    (coroutine.run granted render).Aloof cycle needs := by
  induction coroutine with
  | finish value => exact aloof_pure value
  | fail failure => exact .of_action (aloof_throw _)
  | compute routine next inductionHypothesis =>
      exact (Aloof.of_action (respects routine).attempt).bind inductionHypothesis
  | render template data next inductionHypothesis =>
      exact (renders template data).attempt.bind inductionHypothesis

theorem aloof_runRoutine (limits : Limits) (current : Option Nat) (routine : Routine) :
    Respects (CacheState.Aloof cycle) (runRoutine limits current routine) :=
  composed_runRoutine (fun _ => Respects (CacheState.Aloof cycle)) limits current routine

/-- The implementation of a call tells nothing itself. -/
theorem Invoke.aloof_implementation (limits : Limits) (current : Option Nat) (cycleId : String)
    (renders : ∀ template data, (render template data).Aloof cycle needs) (number : Nat) :
    (Invoke.implementation limits current cycleId render number).Aloof cycle needs := by
  apply (Aloof.of_action aloof_get).bind
  intro state
  split
  · exact aloof_pure _
  · apply (Aloof.of_action (aloof_noteStart number)).bind
    intro _
    split
    · exact (Aloof.of_action (aloof_noteCall _ _)).bind fun _ =>
        Coroutine.aloof_run (aloof_runRoutine limits current) renders _
    · exact (Aloof.of_action (aloof_makePromise _ cycleId)).bind fun promise =>
        (Aloof.of_action (composed_callback (fun _ => Respects (CacheState.Aloof cycle))
          aloof_schedule (aloof_runRoutine limits current) promise _ _)).bind fun _ =>
            aloof_await promise

end Implementations

/-! ### Resolutions -/

namespace Drain

variable {invoke : Invoke} {id : String} {index number : Nat}

theorem aloof_abort (other : id ≠ cycle) (name : Value) (started : Int) (failure : Failure) :
    Respects (CacheState.Aloof cycle) (abort index number (.text id) name started failure) := by
  have elsewhere : some id ≠ some cycle := fun same => other (Option.some.inj same)
  exact aloof_bind (aloof_setStatus number .failed) fun _ =>
    aloof_bind (fun _ => aloof_withQueue index []) fun _ =>
      aloof_bind (fun state => .refl cycle state) fun _ =>
        aloof_bind (aloof_tell elsewhere) fun _ =>
          aloof_bind (aloof_tell elsewhere) fun _ => aloof_throw _

theorem aloof_accept (other : id ≠ cycle) (name value : Value) (token : String) (started : Int)
    (progress : Progress) :
    Respects (CacheState.Aloof cycle)
      (accept number (.text id) name token started progress value) := by
  have elsewhere : some id ≠ some cycle := fun same => other (Option.some.inj same)
  exact aloof_bind (aloof_setStatus number .completed) fun _ =>
    aloof_bind (composed_ofOutcome (fun _ => Respects (CacheState.Aloof cycle)) _) fun _ =>
      aloof_bind (fun state => .refl cycle state) fun _ =>
        aloof_bind (aloof_tell elsewhere) fun _ => Action.aloof_pure _

/-- What a step on a call tells is of the cycle of its waitlist. -/
theorem aloof_step (invokes : ∀ number, (invoke number).Aloof cycle (Elsewhere cycle index))
    (number : Nat) (progress : Progress) :
    (step invoke index number progress).Aloof cycle (Elsewhere cycle index) := by
  intro state elsewhere
  have reads : (get : CacheAction CacheState) state = (.ok state, state) := rfl
  have tells : ∀ event : Event, event.cycle? = some (state.cycleId index) →
      Respects (CacheState.Aloof cycle) (tell event) := fun event isOf =>
    aloof_tell fun same => elsewhere.other (Option.some.inj (isOf.symm.trans same))
  rw [step_eq, Task.bind_ok reads]
  cases found : state.invocations[number]? with
  | none => exact .refl cycle state
  | some invocation =>
    dsimp only
    by_cases needed : isNeeded progress.text invocation.token (state.queued index) = true
    · rw [if_pos needed]
      have prepares : Respects (CacheState.Aloof cycle) (prepare number progress.results) := by
        intro state
        rw [prepare_eq]
        exact aloof_prepared number _
      have reads : Respects (CacheState.Aloof cycle) (argumentsOf number) :=
        fun state => .refl cycle state
      refine ((Aloof.of_action prepares).bind fun _ => (Aloof.of_action reads).bind fun arguments =>
        (Aloof.of_action (tells _ rfl)).bind fun _ =>
          (invokes number).attempt.bind ?_) state elsewhere
      rintro (failure | value)
      · exact .of_action (aloof_abort elsewhere.other _ _ failure)
      · exact .of_action (aloof_accept elsewhere.other _ value _ _ progress)
    · rw [if_neg needed]
      exact ((Aloof.of_action (aloof_setStatus number .skipped)).bind fun _ =>
        (Aloof.of_action (tells _ rfl)).bind fun _ => aloof_pure _) state elsewhere

theorem aloof_loop (invokes : ∀ number, (invoke number).Aloof cycle (Elsewhere cycle index))
    (fuel : Nat) (progress : Progress) :
    (loop invoke index fuel progress).Aloof cycle (Elsewhere cycle index) := by
  induction fuel generalizing progress with
  | zero => exact aloof_stop .exhausted
  | succ fuel inductionHypothesis =>
      have takes : Respects (CacheState.Aloof cycle) (takeNext index) := by
        intro state
        cases queued : state.queue index with
        | nil =>
            rw [takeNext_nil queued]
            exact .refl cycle state
        | cons number rest =>
            rw [takeNext_cons queued]
            exact aloof_withQueue index rest
      rw [loop_succ]
      apply (Aloof.of_action takes).bind
      rintro (_ | number)
      · exact aloof_pure progress
      · exact (aloof_step invokes number progress).bind inductionHypothesis

theorem aloof_run (invokes : ∀ number, (invoke number).Aloof cycle (Elsewhere cycle index))
    (fuel : Nat) (text : String) :
    (run invoke fuel index text).Aloof cycle (Elsewhere cycle index) := by
  intro state elsewhere
  have reads : (get : CacheAction CacheState) state = (.ok state, state) := rfl
  have tells : ∀ event : Event, event.cycle? = some (state.cycleId index) →
      Respects (CacheState.Aloof cycle) (tell event) := fun event isOf =>
    aloof_tell fun same => elsewhere.other (Option.some.inj (isOf.symm.trans same))
  rw [run_eq, Task.bind_ok reads]
  exact ((Aloof.of_action (tells _ rfl)).bind fun _ =>
    (aloof_loop invokes fuel (.start text)).bind fun _ =>
      (Aloof.of_action fun state => .refl cycle state).bind fun _ =>
        (Aloof.of_action (tells _ rfl)).bind fun _ => aloof_pure _) state elsewhere

end Drain

/-! ### Renderings -/

namespace Cache

variable {limits : Limits} {current : Option Nat} {done : Option Notify} {index depth : Nat}

/-- The completion function, if there is one, tells nothing. -/
def Hushed
    (cycle : String)
    (done : Option Notify) : Prop :=
  ∀ notify ∈ done, ∀ current call, Respects (CacheState.Aloof cycle) (notify current call)

theorem hushed_none : Hushed cycle none :=
  fun _ isNone => absurd isNone (Option.not_mem_none _)

theorem aloof_handFailure (hushed : Hushed cycle done) (current : Option Nat) (failure : Failure) :
    Respects (CacheState.Aloof cycle) (handFailure done current failure) := by
  cases done with
  | none => exact aloof_throw _
  | some notify => exact aloof_bind (hushed notify rfl current _) fun _ => Action.aloof_pure _

theorem aloof_handText (hushed : Hushed cycle done) (current : Option Nat) (text : String) :
    Respects (CacheState.Aloof cycle) (handText done current text) := by
  cases done with
  | none => exact Action.aloof_pure _
  | some notify => exact aloof_bind (hushed notify rfl current _) fun _ => Action.aloof_pure _

theorem aloof_resolveWaitlist {invoke : Drain.Invoke}
    (invokes : ∀ number, (invoke number).Aloof cycle (Elsewhere cycle index)) (fuel : Nat)
    (hushed : Hushed cycle done) (current : Option Nat) (text : String) :
    (resolveWaitlist invoke fuel done current index text).Aloof cycle (Elsewhere cycle index) := by
  rw [resolveWaitlist_eq]
  apply (Drain.aloof_run invokes fuel text).attempt.bind
  rintro (failure | result)
  · exact .of_action (aloof_handFailure hushed current failure)
  · exact .of_action (aloof_handText hushed current result)

theorem aloof_invoker {needs : CacheState → Prop} [Lasting needs] {nests : NestedRender}
    (renders : ∀ template data, (nests template data).Aloof cycle needs) (index number : Nat) :
    (invoker limits current index nests number).Aloof cycle needs :=
  (Aloof.of_action aloof_get).bind fun _ =>
    Invoke.aloof_implementation limits current _ renders number

theorem aloof_renderFailed (hushed : Hushed cycle done) (elsewhere : Elsewhere cycle index state)
    (failure : Failure) :
    CacheState.Aloof cycle state (renderFailed done index failure state).2 := by
  have other : some (state.cycleId index) ≠ some cycle := fun same =>
    elsewhere.other (Option.some.inj same)
  have tells : Respects (CacheState.Aloof cycle) (do
      tell (.renderFailed (.text (state.cycleId index)) (.failure failure))
      discard (clearWaitlist index)
      handFailure done (some index) failure) :=
    aloof_bind (aloof_tell other) fun _ =>
      aloof_bind (composed_discard (fun _ => Respects (CacheState.Aloof cycle))
        fun _ => aloof_withQueue index []) fun _ => aloof_handFailure hushed (some index) failure
  exact tells state

theorem aloof_renderCompleted (elsewhere : Elsewhere cycle index state) (rendered : Rendered) :
    CacheState.Aloof cycle state (renderCompleted index rendered state).2 := by
  have other : some (state.cycleId index) ≠ some cycle := fun same =>
    elsewhere.other (Option.some.inj same)
  have tells : Respects (CacheState.Aloof cycle) (tell
      (.renderCompleted (.text (state.cycleId index)) (.int rendered.expressions.length)
        (.int (state.waitlist index).pending.length))) := aloof_tell other
  exact tells state

/-- What a rendering tells is of the cycle that it has opened. -/
theorem aloof_renderInto (hushed : Hushed cycle done)
    (renders : ∀ template data,
      (nested limits current depth template data).Aloof cycle (Known cycle))
    (template data : Value) (index : Nat) :
    (renderInto limits current depth done template data index).Aloof cycle
      (Elsewhere cycle index) := by
  have nests : ∀ number, (invoker limits current index (nested limits current depth) number).Aloof
      cycle (Elsewhere cycle index) := fun number state elsewhere =>
    aloof_invoker renders index number state elsewhere.known
  apply (Aloof.of_action (composed_renderPass (fun _ => Respects (CacheState.Aloof cycle)) limits
    index template data).attempt).bind
  rintro (failure | rendered) state elsewhere
  · exact aloof_acts (aloof_renderFailed hushed elsewhere failure)
  · exact (aloof_acts (aloof_renderCompleted elsewhere rendered)).andThen fun _ after names =>
      aloof_resolveWaitlist nests limits.steps hushed current rendered.text after
        (Lasting.lasts names elsewhere)

theorem aloof_renderWithin (depth : Nat) (hushed : Hushed cycle done) (template data : Value) :
    (renderWithin limits current depth done template data).Aloof cycle (Known cycle) := by
  induction depth generalizing done template data with
  | zero => exact aloof_stop .exhausted
  | succ depth inductionHypothesis =>
      intro state known
      have renders : ∀ template data,
          (nested limits current depth template data).Aloof cycle (Known cycle) :=
        fun template data => (inductionHypothesis hushed_none template data).bind fun text =>
          aloof_pure (asValue text)
      rw [renderWithin_into, Task.bind_ok (openWaitlist_eq state)]
      exact .behind (aloof_opened state)
        (aloof_renderInto hushed renders template data _ state.opened (elsewhere_opened known))

theorem aloof_nested (depth : Nat) (template data : Value) :
    (nested limits current depth template data).Aloof cycle (Known cycle) :=
  (aloof_renderWithin depth hushed_none template data).bind fun text => aloof_pure (asValue text)

/-- A rendering that was started tells nothing of older cycles. -/
theorem aloof_startRender (limits : Limits) (promise : Nat) (template data : Value)
    (current : Option Nat) :
    (startRender limits promise template data current).Aloof cycle (Known cycle) := by
  apply (aloof_renderWithin limits.depth _ template data).bind fun _ => aloof_pure _
  intro notify isReport current call
  cases isReport
  exact aloof_schedule _

end Cache

/-! ### Worlds -/

variable {start : Starter} {world rest : World} {delivery : Delivery}

/-- What settles a promise is of no cycle. -/
theorem aloof_settle (promise : Nat) (completion : Completion) :
    Respects (CacheState.Aloof cycle) (settle promise completion) := by
  intro state
  cases found : state.promises[promise]? with
  | none =>
      rw [settle_unknown found]
      exact .refl cycle state
  | some owed =>
      cases decided : owed.outcome with
      | some earlier =>
          have none : (Event.duplicate (.text owed.cycleId) (.text owed.helperName)).cycle? ≠
              some cycle := nofun
          rw [settle_again found decided]
          exact aloof_tell none state
      | none =>
          cases becomes : completion.outcome owed.helperName with
          | error failure =>
              rw [settle_unread found decided becomes]
              exact .refl cycle state
          | ok outcome =>
              rw [settle_first found decided becomes]
              exact .of_same rfl rfl rfl rfl rfl

namespace World

/-- The cycle has got its name, and nothing that waits will tell of it. -/
structure Aloof (cycle : String) (world : World) : Prop where
  known : world.state.Known cycle
  tasks : ∀ task ∈ world.suspended, ∀ outcome later, Names world.state later →
    Step.Aloof cycle later (task.resume outcome later)

/-- Renderings that may be started tell nothing of the cycle. -/
def Aloofness (cycle : String) (start : Starter) : Prop :=
  ∀ promise template data current, (start promise template data current).Aloof cycle (Known cycle)

theorem Aloof.withState (aloof : world.Aloof cycle) (names : Names world.state state) :
    (world.withState state).Aloof cycle :=
  ⟨Lasting.lasts names aloof.known, fun task member outcome later waited =>
    aloof.tasks task member outcome later (names.trans waited)⟩

theorem Aloof.fewer (aloof : world.Aloof cycle) {suspended : List Suspended}
    (fewer : suspended ⊆ world.suspended) : Aloof cycle ⟨world.state, suspended⟩ :=
  ⟨aloof.known, fun task member => aloof.tasks task (fewer member)⟩

theorem Aloof.keep (aloof : world.Aloof cycle) {step : Step CacheState Unit}
    (steps : step.Aloof cycle world.state) :
    CacheState.Aloof cycle world.state (World.keep world.suspended step).state ∧
      (World.keep world.suspended step).Aloof cycle := by
  cases step with
  | done result after => exact ⟨steps, aloof.withState (CacheState.Aloof.toNames steps)⟩
  | waiting promise after resume =>
      obtain ⟨known, tasks⟩ := aloof.withState steps.1.toNames
      refine ⟨steps.1, known, fun task member => ?_⟩
      rcases List.mem_append.mp member with old | new
      · exact tasks task old
      · obtain rfl := List.mem_singleton.mp new
        exact steps.2

theorem Aloof.next (aloof : world.Aloof cycle) (due : world.next? = some (delivery, rest)) :
    CacheState.Aloof cycle world.state rest.state ∧ rest.Aloof cycle := by
  obtain ⟨later, -, rfl⟩ := World.next?_eq due
  have popped : CacheState.Aloof cycle world.state (world.state.withReady later) :=
    .of_same rfl rfl rfl rfl rfl
  exact ⟨popped, aloof.withState popped.toNames⟩

theorem Aloof.deliver (aloof : world.Aloof cycle) (starts : Aloofness cycle start)
    (delivery : Delivery) :
    CacheState.Aloof cycle world.state (world.deliver start delivery).state ∧
      (world.deliver start delivery).Aloof cycle := by
  cases delivery with
  | settle promise completion =>
      have settles : CacheState.Aloof cycle world.state (settle promise completion world.state).2 :=
        aloof_settle promise completion world.state
      exact ⟨settles, aloof.withState settles.toNames⟩
  | complete promise completion =>
      have schedules : CacheState.Aloof cycle world.state
          (schedule (.settle promise completion) world.state).2 :=
        aloof_schedule (.settle promise completion) world.state
      exact ⟨schedules, aloof.withState schedules.toNames⟩
  | begin promise template data current =>
      exact aloof.keep (starts promise template data current world.state aloof.known)
  | resume promise =>
      rw [World.deliver, World.resume]
      split
      · rename_i outcome task known found
        exact (aloof.fewer (List.filter_subset_self _)).keep
          (aloof.tasks task (List.mem_of_find?_eq_some found) outcome world.state (.refl _))
      · exact ⟨.refl cycle world.state, aloof⟩

/-- The world went on to an aloof one, and nothing told of the cycle meanwhile. -/
def StaysAloof
    (cycle : String)
    (before after : World) : Prop :=
  CacheState.Aloof cycle before.state after.state ∧ after.Aloof cycle

theorem steady_aloof (starts : Aloofness cycle start) :
    Steady start (Aloof cycle) (StaysAloof cycle) where
  refl := fun aloof => ⟨.refl cycle _, aloof⟩
  trans := fun first second => ⟨first.1.trans second.1, second.2⟩
  reaches := And.right
  next := Aloof.next
  deliver := fun aloof due =>
    have ⟨popped, rest⟩ := aloof.next due
    have ⟨delivers, delivered⟩ := rest.deliver starts _
    ⟨popped.trans delivers, delivered⟩

theorem carries_aloof : Step.Carries (StaysAloof cycle) fun world (step : Step CacheState α) =>
    world.Aloof cycle ∧ step.Aloof cycle world.state where
  stands := by
    rintro world (⟨result, after⟩ | ⟨promise, after, resume⟩) ⟨aloof, steps⟩
    · exact ⟨steps, aloof.withState (CacheState.Aloof.toNames steps)⟩
    · exact ⟨steps.1, aloof.withState steps.1.toNames⟩
  resumes := fun ⟨_, steps⟩ stays outcome => ⟨stays.2, steps.2 outcome _ stays.1.toNames⟩
  sleeps := fun ⟨_, steps⟩ stays => ⟨stays.2, .refl cycle _, fun outcome later waited =>
    steps.2 outcome later (stays.1.toNames.trans waited)⟩

end World

/-- The run of an aloof step in an aloof world tells nothing of the cycle. -/
theorem Ends.aloof {world : World} {step : Step CacheState α} {result : Except Stop α}
    {last : World} (ends : Ends start world.suspended step result last)
    (starts : World.Aloofness cycle start) (aloof : world.Aloof cycle)
    (steps : step.Aloof cycle world.state) :
    CacheState.Aloof cycle world.state last.state ∧ last.Aloof cycle :=
  (World.steady_aloof starts).ends World.carries_aloof ⟨aloof, steps⟩ ends

end DeferredText
