import DeferredText.Proofs.Sound
import DeferredText.Proofs.Steady
import DeferredText.Proofs.Substitution

/-!
Contract: recorded calls in a cache in use.

Users call wrappers, open and close cycles, resolve and render, one request after the
other, and what is due happens in between. Whatever they do, a call is recorded on the
waitlist of the innermost open cycle, is on one waitlist at most, and is started at most
once.

Owns: worlds and sessions in which recorded calls are in order.

Does not own: what single tasks do (`Proofs.Sound`).
-/

namespace DeferredText

open CacheState

/-! ### Worlds -/

/-- What a waiting task does when it is resumed advances the cache. -/
def Suspended.Sound
    (state : CacheState)
    (task : Suspended) : Prop :=
  ∀ outcome later, Advances state later → Step.Sound later (task.resume outcome later)

namespace World

/-- The calls are in order, and whatever waits keeps them so. -/
structure Sound (world : World) : Prop where
  tidy : world.state.Tidy
  tasks : ∀ task ∈ world.suspended, task.Sound world.state

/-- A world goes on to another one. -/
def GoesOn (before after : World) : Prop :=
  after.Sound ∧ Advances before.state after.state

variable {α : Type} {start : Starter} {world rest : World} {delivery : Delivery} {after : CacheState}

theorem GoesOn.trans {middle last : World} (first : GoesOn world middle)
    (second : GoesOn middle last) : GoesOn world last :=
  ⟨second.1, first.2.trans second.2⟩

theorem Sound.goesOn (sound : world.Sound) : GoesOn world world :=
  ⟨sound, .refl sound.tidy⟩

/-- The waiting tasks stay sound while the cache advances. -/
theorem Sound.advance (sound : world.Sound) (advances : Advances world.state after) :
    GoesOn world (world.withState after) := by
  refine ⟨⟨advances.tidy, ?_⟩, advances⟩
  intro task member outcome later waited
  exact sound.tasks task member outcome later (advances.trans waited)

/-- A sound step beside sound tasks leaves a sound world. -/
theorem Sound.keep (sound : world.Sound) {fewer : List Suspended}
    (among : ∀ task ∈ fewer, task ∈ world.suspended) {step : Step CacheState Unit}
    (steps : Step.Sound world.state step) : GoesOn world (World.keep fewer step) := by
  cases step with
  | done result after =>
      have goesOn := sound.advance steps
      exact ⟨⟨goesOn.1.tidy, fun task member => goesOn.1.tasks task (among task member)⟩, steps⟩
  | waiting promise after resume =>
      obtain ⟨advances, resumes⟩ := steps
      have goesOn := sound.advance advances
      refine ⟨⟨goesOn.1.tidy, ?_⟩, advances⟩
      intro task member
      rcases List.mem_append.mp member with old | new
      · exact goesOn.1.tasks task (among task old)
      · rw [List.mem_singleton.mp new]
        exact resumes

theorem Sound.next (sound : world.Sound) (due : world.next? = some (delivery, rest)) :
    GoesOn world rest := by
  obtain ⟨later, ready, rfl⟩ := World.next?_eq due
  exact sound.advance (.of_idle sound.tidy rfl rfl)

/-- Every rendering that may be started is sound. -/
def Starts (start : Starter) : Prop :=
  ∀ promise template data current, (start promise template data current).Sound

theorem steady_sound (starts : Starts start) : Steady start Sound GoesOn :=
  .of_keeping Sound.goesOn GoesOn.trans And.left
    (fun sound _ _ _ _ => sound.advance (.of_idle sound.tidy rfl rfl))
    (fun sound promise template data current =>
      sound.keep (fun _ member => member) (starts promise template data current _ sound.tidy))
    fun sound task member outcome _ among =>
      sound.keep among (sound.tasks task member outcome _ (.refl sound.tidy))

/-- What a sound step waits for may take as long as it does. -/
theorem carries_sound : Step.Carries GoesOn fun world (step : Step CacheState α) =>
    world.Sound ∧ Step.Sound world.state step where
  stands := by
    rintro world (⟨result, after⟩ | ⟨promise, after, resume⟩) ⟨sound, steps⟩
    · exact sound.advance steps
    · exact sound.advance steps.1
  resumes := fun ⟨_, steps⟩ goesOn outcome => ⟨goesOn.1, steps.2 outcome _ goesOn.2⟩
  sleeps := fun ⟨_, steps⟩ goesOn => ⟨goesOn.1, .refl goesOn.1.tidy,
    fun outcome later waited => steps.2 outcome later (goesOn.2.trans waited)⟩

/-- A sound task that is run beside sound tasks leaves a sound world, also if the run is cut
short. -/
theorem Sound.run (sound : world.Sound) (starts : Starts start) (fuel : Nat)
    {task : Task CacheState α} (runs : task.Sound) :
    GoesOn world (world.run start fuel task).2 :=
  (steady_sound starts).runToEnd carries_sound fuel ⟨sound, runs world.state sound.tidy⟩

theorem Sound.ends (sound : world.Sound) (starts : Starts start) {step : Step CacheState α}
    (steps : Step.Sound world.state step) {result : Except Stop α} {last : World}
    (ends : Ends start world.suspended step result last) : GoesOn world last :=
  (steady_sound starts).ends carries_sound ⟨sound, steps⟩ ends

end World

/-! ### Requests -/

namespace CacheState

/-- A cache without recorded calls, whatever is registered in it. -/
def unused
    (shape : PlaceholderShape)
    (strict warnsOnOverride : Bool)
    (log : Option LogSettings)
    (registry : Registry) : CacheState :=
  { initial shape strict warnsOnOverride log with registry := registry }

theorem tidy_unused (shape : PlaceholderShape) (strict warnsOnOverride : Bool)
    (log : Option LogSettings) (registry : Registry) :
    (unused shape strict warnsOnOverride log registry).Tidy := by
  have orderly := orderly_initial shape strict warnsOnOverride log
  have nothing : ∀ index, (unused shape strict warnsOnOverride log registry).queue index = [] :=
    queue_initial shape strict warnsOnOverride log
  refine ⟨⟨orderly.exist, orderly.distinct, orderly.separate, orderly.fallback⟩, ?_,
    List.nodup_nil, ?_, ?_⟩
  · intro index number member
    rw [nothing] at member
    cases member
  · exact fun number member => absurd member List.not_mem_nil
  · exact fun number member => absurd member List.not_mem_nil

end CacheState

namespace Cache

variable {limits : Limits} {current given : Option Nat} {done : Option Notify} {spent : Set Nat}

/-- The waitlist a resolution takes may be replaced as the default one. -/
theorem onward_takeWaitlist (given current : Option Nat) :
    Action.Respects (Onward spent) (takeWaitlist given current) := by
  intro state tidy isSpent
  cases given with
  | some index => exact .refl tidy
  | none =>
    cases current with
    | some index => exact .refl tidy
    | none =>
      have opens := (Change.opens state).advances tidy
      have last : state.waitlists.length < state.opened.waitlists.length := by simp [opened]
      exact opens.trans ((Change.replaces state.opened _ last).advances opens.tidy)

theorem sound_resolve (notifies : Notifies done) (given : Option Nat) (text : String) :
    (resolve limits current done given text).Sound := by
  have nests : ∀ template data, Task.Sound (do
      let text ← render limits current none template data
      return asValue text) := fun template data =>
    (sound_render (by simp [Notifies]) template data).bind fun text =>
      Task.sound_pure (asValue text)
  apply (Task.Sound.of_action (onward_takeWaitlist given current)).bind
  intro index
  exact sound_resolveWaitlist (sound_invoker nests index) limits.steps notifies current index text

theorem quiet_callFound {allowed : CacheState → CacheState → Prop} [Allows allowed]
    (limits : Limits) (current : Option Nat) (name : Value) (arguments : Arguments) :
    Action.Respects allowed (callFound limits current name arguments) := by
  refine Action.Respects.bind Action.quiet_get fun state => ?_
  refine Action.Respects.bind (Action.quiet_ofOutcome _) fun found => ?_
  cases found with
  | nothing => exact Action.quiet_fail _
  | group members => exact Action.quiet_fail _
  | callable callable =>
      exact callable.quiet_call (quiet_runRoutine limits current) arguments

end Cache

namespace Session

variable {session before middle after : Session}

/-- The completion functions of a session note what they are given, and may run scripts. -/
theorem quiet_notify {allowed : CacheState → CacheState → Prop} [Allows allowed]
    (session : Session) (done : Option (Option Script)) : ∀ notify ∈ done.map session.notify, ∀ current call,
      Action.Respects allowed (notify current call) := by
  intro notify isNotify current call
  obtain ⟨script, -, rfl⟩ := Option.map_eq_some_iff.mp isNotify
  refine Action.Respects.bind (fun _ => Allows.calm rfl rfl rfl rfl) fun _ => ?_
  cases script with
  | none => exact Action.quiet_pure _
  | some body => exact (quiet_runRoutine session.limits current _).discard

/-- What a user may ask for inside the innermost open cycle. -/
inductive Request where
  | call (name : Value) (arguments : Arguments)
  | resolve (done : Option (Option Script)) (given : Option Nat) (text : String)
  | render (done : Option (Option Script)) (template data : Value)
  | wait (turns : Nat)

/-- The session after a request, whether it succeeds or fails. -/
def serve
    (session : Session) : Request → Session
  | .call name arguments => (session.call name arguments).2
  | .resolve done given text => (session.resolve (done.map session.notify) given text).2
  | .render done template data => (session.render (done.map session.notify) template data).2
  | .wait turns => session.takeTurns turns

/-- The calls are in order, and every open cycle has its waitlist. -/
structure Sound (session : Session) : Prop where
  world : session.world.Sound
  cycles : ∀ index ∈ session.cycles, index < session.state.waitlists.length

/-- A session goes on to another one with the same open cycles. -/
def GoesOn (before after : Session) : Prop :=
  World.GoesOn before.world after.world ∧ after.cycles = before.cycles

theorem Sound.of_goesOn (sound : before.Sound) (goesOn : GoesOn before after) : after.Sound := by
  refine ⟨goesOn.1.1, ?_⟩
  intro index member
  rw [goesOn.2] at member
  exact (sound.cycles index member).trans_le goesOn.1.2.waitlists

theorem starts_startRender (limits : Limits) : World.Starts (Cache.startRender limits) :=
  fun promise template data current => Cache.sound_startRender limits promise template data current

theorem Sound.act {α : Type} {action : CacheAction α} (sound : session.Sound)
    (respects : Action.Respects (Onward ∅) action) : GoesOn session (session.act action).2 := by
  have advances := respects session.state sound.world.tidy fun _ member =>
    absurd member (Set.notMem_empty _)
  rw [Session.act]
  generalize action session.state = reached at advances ⊢
  exact ⟨sound.world.advance advances, rfl⟩

theorem Sound.perform {α : Type} {task : Task CacheState α} (sound : session.Sound)
    (runs : task.Sound) : GoesOn session (session.perform task).2 :=
  ⟨sound.world.run (starts_startRender session.limits) session.limits.steps runs, rfl⟩

theorem cycles_takeTurns (session : Session) (count : Nat) :
    (session.takeTurns count).cycles = session.cycles := by
  induction count generalizing session with
  | zero => rfl
  | succ count inductionHypothesis =>
      exact inductionHypothesis { session with
        world := session.world.turn (Cache.startRender session.limits) }

theorem Sound.serve (sound : session.Sound) (request : Request) :
    GoesOn session (session.serve request) := by
  cases request with
  | call name arguments =>
      exact sound.act (Cache.quiet_callFound session.limits session.current name arguments)
  | resolve done given text =>
      exact sound.perform (Cache.sound_resolve (session.quiet_notify done) given text)
  | render done template data =>
      exact sound.perform (Cache.sound_render (session.quiet_notify done) template data)
  | wait turns =>
      have steady := World.steady_sound (starts_startRender session.limits)
      exact ⟨steady.takeTurns sound.world turns, session.cycles_takeTurns turns⟩

theorem cycles_serve (session : Session) (request : Request) :
    (session.serve request).cycles = session.cycles := by
  cases request with
  | wait turns => exact session.cycles_takeTurns turns
  | _ => rfl

/-! ### Cycles -/

/-- A given waitlist is one of the cache. -/
def Knows (session : Session) (given : Option Nat) : Prop :=
  ∀ index ∈ given, index < session.state.waitlists.length

/-- The session in which one more cycle is open. -/
def opening
    (session : Session)
    (given : Option Nat) : Session :=
  (session.openCycle given).2

/-- The waitlist of a cycle that is opened. -/
def ofCycle
    (session : Session)
    (given : Option Nat) : Nat :=
  given.getD session.state.waitlists.length

theorem openCycle_eq (session : Session) (given : Option Nat) :
    session.openCycle given = (.ok (session.ofCycle given), session.opening given) ∧
      (session.opening given).cycles = session.ofCycle given :: session.cycles := by
  cases given <;> exact ⟨rfl, rfl⟩

theorem Sound.opening {given : Option Nat} (sound : session.Sound) (knows : session.Knows given) :
    (session.opening given).Sound ∧ Advances session.state (session.opening given).state := by
  cases given with
  | some index =>
      refine ⟨⟨sound.world, ?_⟩, .refl sound.world.tidy⟩
      intro other member
      rcases List.mem_cons.mp member with rfl | old
      · exact knows other rfl
      · exact sound.cycles other old
  | none =>
      have opens := (Change.opens session.state).advances sound.world.tidy
      refine ⟨⟨(sound.world.advance opens).1, ?_⟩, opens⟩
      have last : session.state.waitlists.length < session.state.opened.waitlists.length := by
        simp [opened]
      intro other member
      rcases List.mem_cons.mp member with rfl | old
      · exact last
      · exact (sound.cycles other old).trans last

theorem Sound.closeCycle (sound : session.Sound) : session.closeCycle.Sound :=
  ⟨sound.world, fun index member => sound.cycles index (List.mem_of_mem_tail member)⟩

/-- What users do with a session: they make requests, and they open and close cycles. -/
inductive Uses : Session → Session → Prop where
  | nothing (session : Session) : Uses session session
  | request {before after : Session} (request : Request) (uses : Uses before after) :
      Uses before (after.serve request)
  | opens {before after : Session} (given : Option Nat) (knows : after.Knows given)
      (uses : Uses before after) : Uses before (after.opening given)
  | closes {before after : Session} (uses : Uses before after) : Uses before after.closeCycle

/-- What users do between opening a cycle and closing it again: requests, and whole cycles
inside the cycle. -/
inductive Nested : Session → Session → Prop where
  | nothing (session : Session) : Nested session session
  | request {before after : Session} (request : Request) (nested : Nested before after) :
      Nested before (after.serve request)
  | cycle {before outer inner : Session} (given : Option Nat) (knows : outer.Knows given)
      (nested : Nested before outer) (inside : Nested (outer.opening given) inner) :
      Nested before inner.closeCycle

theorem Uses.trans (first : Uses before middle) (second : Uses middle after) :
    Uses before after := by
  induction second with
  | nothing => exact first
  | request request _ inductionHypothesis => exact .request request inductionHypothesis
  | opens given knows _ inductionHypothesis => exact .opens given knows inductionHypothesis
  | closes _ inductionHypothesis => exact .closes inductionHypothesis

theorem Nested.uses (nested : Nested before after) : Uses before after := by
  induction nested with
  | nothing => exact .nothing _
  | request request _ inductionHypothesis => exact .request request inductionHypothesis
  | cycle given knows _ _ outside inside =>
      exact .closes ((Uses.opens given knows outside).trans inside)

/-- Closing a cycle undoes its opening, whatever was done inside. -/
theorem Nested.cycles (nested : Nested before after) : after.cycles = before.cycles := by
  induction nested with
  | nothing => rfl
  | request request _ inductionHypothesis =>
      exact (cycles_serve _ request).trans inductionHypothesis
  | @cycle before outer inner given knows _ _ outside inside =>
      have closed : inner.closeCycle.cycles = (outer.opening given).cycles.tail := by
        rw [Session.closeCycle, inside]
      rw [closed, (outer.openCycle_eq given).2, List.tail_cons, outside]

theorem Uses.sound (uses : Uses before after) (sound : before.Sound) :
    after.Sound ∧ Advances before.state after.state := by
  induction uses with
  | nothing => exact ⟨sound, .refl sound.world.tidy⟩
  | request request _ inductionHypothesis =>
      have reached := inductionHypothesis
      have serves := reached.1.serve request
      exact ⟨reached.1.of_goesOn serves, reached.2.trans serves.1.2⟩
  | opens given knows _ inductionHypothesis =>
      have reached := inductionHypothesis
      have opens := reached.1.opening knows
      exact ⟨opens.1, reached.2.trans opens.2⟩
  | closes _ inductionHypothesis =>
      have reached := inductionHypothesis
      exact ⟨reached.1.closeCycle, reached.2⟩

theorem sound_start {state : CacheState} (tidy : state.Tidy) : (start state).Sound :=
  ⟨⟨tidy, fun _ member => absurd member List.not_mem_nil⟩,
    fun _ member => absurd member List.not_mem_nil⟩

end Session

/-! ### Calls of wrappers -/

/-- One call was added, at the end of one waitlist, and nothing was queued elsewhere. -/
structure CacheState.Adds (before after : CacheState) (index : Nat) (invocation : Invocation) :
    Prop where
  invocations : after.invocations = before.invocations ++ [invocation]
  queue : after.queue index = before.queue index ++ [before.invocations.length]
  others : ∀ other, other ≠ index → after.waitlist other = before.waitlist other

/-- A call of a wrapper is added where calls made now are recorded. -/
theorem Callable.adds_deferred {state : CacheState} {current : Option Nat}
    (inside : state.recording current < state.waitlists.length)
    (granted : Routine → CacheAction Value) (name : String) (target : Callable)
    (arguments : Arguments) :
    ∃ token after,
      Callable.call granted current (.deferred name target) arguments state =
        (.ok (.text token), after) ∧
      state.Adds after (state.recording current)
        ⟨token, name, arguments, target, target.style, .pending⟩ := by
  let made := Supply.token state.shape state.supply
  let invocation : Invocation := ⟨made.1, name, arguments, target, target.style, .pending⟩
  have acts : Callable.call granted current (.deferred name target) arguments state =
      (.ok (.text made.1),
        state.recordedIn (state.recording current) invocation made.2) := by
    rw [Callable.call.eq_def]
    rfl
  refine ⟨made.1, _, acts, rfl, ?_, ?_⟩
  · rw [queue_recordedIn, if_pos ⟨rfl, inside⟩]
  · intro other distinct
    simp [recordedIn, waitlist, List.getD, List.getElem?_set_ne (Ne.symm distinct)]

/-- Every open cycle has a waitlist, and so has a cache without one. -/
theorem CacheState.Tidy.recording_lt {state : CacheState} {current : Option Nat}
    (tidy : state.Tidy) (known : ∀ index ∈ current, index < state.waitlists.length) :
    state.recording current < state.waitlists.length := by
  cases current with
  | none => exact tidy.fallback
  | some index => exact known index rfl

/-- Whatever users do with a cache, its recorded calls change only one elementary step at a
time, and are in order after every step: a call is on one waitlist at most, is pending while
it is there, and is started once at most. A call of a wrapper adds one call, at the end of the
waitlist of the innermost open cycle or of the default one. Closing a cycle makes current what
was current when it was opened. -/
theorem recorded_once (shape : PlaceholderShape) (strict warnsOnOverride : Bool)
    (log : Option LogSettings) (registry : Registry) {session : Session}
    (uses : Session.Uses (.start (unused shape strict warnsOnOverride log registry)) session) :
    Relation.ReflTransGen (fun before after => Change before after ∧ after.Tidy)
        (unused shape strict warnsOnOverride log registry) session.state ∧
      session.state.Tidy ∧
      session.Knows session.current ∧
      (∀ state : CacheState, state.Tidy → ∀ current : Option Nat,
        (∀ index ∈ current, index < state.waitlists.length) →
        ∀ granted name target arguments, ∃ token after,
          Callable.call granted current (.deferred name target) arguments state =
            (.ok (.text token), after) ∧
          state.Adds after (state.recording current)
            ⟨token, name, arguments, target, target.style, .pending⟩) ∧
      ∀ given, session.Knows given → ∀ inner, Session.Nested (session.opening given) inner →
        inner.recording = session.ofCycle given ∧
          inner.closeCycle.cycles = session.cycles := by
  have tidy := tidy_unused shape strict warnsOnOverride log registry
  obtain ⟨sound, advances⟩ := uses.sound (Session.sound_start tidy)
  have throughout := tidy.throughout advances.history
  refine ⟨throughout.1, throughout.2, ?_, ?_, ?_⟩
  · intro index isCurrent
    exact sound.cycles index (List.mem_of_mem_head? isCurrent)
  · intro state isTidy current known granted name target arguments
    exact Callable.adds_deferred (isTidy.recording_lt known) granted name target arguments
  · intro given _ inner nested
    have cycles := nested.cycles.trans (session.openCycle_eq given).2
    constructor
    · rw [Session.recording, Session.current, cycles]
      rfl
    · rw [Session.closeCycle, cycles]
      rfl

namespace Sample

/-- A registry with one deferred helper. -/
def later : Registry :=
  .ofEntries
    [⟨"later", .deferred "later" (call "" (.int 1)).target, true, some (call "" (.int 1)).target⟩]

def fresh : Session :=
  .start (unused .standard false false none later)

/-- The waitlist of the first cycle is resolved in the text of the first token. -/
def resolution : Session.Request :=
  .resolve none (some 1) (Supply.token .standard .initial).1

/-- A call is made inside a cycle, which is closed and then resolved twice. -/
def used : Session :=
  (((fresh.opening none).serve (.call (.text "later") .none)).closeCycle.serve resolution).serve
    resolution

theorem uses_used : Session.Uses fresh used := by
  have opened : Session.Uses fresh (fresh.opening none) :=
    .opens none (fun index isGiven => absurd isGiven (by simp)) (.nothing fresh)
  exact .request resolution (.request resolution (.closes (.request _ opened)))

/-- The call is recorded in the second waitlist and started once. -/
theorem recorded_used :
    Session.Uses fresh used ∧
      used.state.invocations.length = 1 ∧ used.state.started = [0] ∧
      used.state.Tidy ∧ used.Knows used.current :=
  have sound := recorded_once .standard false false none later uses_used
  ⟨uses_used, rfl, rfl, sound.2.1, sound.2.2.1⟩

end Sample

end DeferredText
