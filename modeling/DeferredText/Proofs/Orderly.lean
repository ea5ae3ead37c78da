import DeferredText.Proofs.Started

/-!
Contract: worlds that are in order in every respect.

Recorded calls are queued once and started once, waiting tasks take calls from waitlists of
their own, and they report to promises of their own. A step that conforms to this leaves such
a world behind, however it is interrupted, and so does everything a user can ask for.

Owns: the three invariants of worlds as one, and what steps, runs and deliveries leave of it.

Does not own: the invariants themselves (`Proofs.Sound`, `Proofs.Retired`, `Proofs.Promised`).
-/

namespace DeferredText

open CacheState

variable {α : Type} {waitlists promises own : Set Nat} {limits : Limits}

/-! ### Calls that were dropped -/

namespace CacheState

variable {before after : CacheState} {number index : Nat}

/-- A call that is not queued is not started by those who take calls from other waitlists
than some given one. -/
theorem Ready.spared (ready : before.Ready number) (advances : Advances before after)
    (spares : Spares own before after) (outside : index ∉ own)
    (inside : index < before.waitlists.length) : after.Ready number := by
  have rests : before.Rests number index :=
    ⟨inside, ready.1.1, fun other member => absurd member (ready.1.2 other)⟩
  exact ⟨advances.staysSpent ready.1,
    fun started => ready.2 ((spares.rests index outside number rests).2 started)⟩

end CacheState

/-! ### Orderly worlds -/

/-- Calls are in order, the waiting tasks take none from some of the waitlists, and neither
they nor what is due is about some of the promises. -/
structure World.Orderly (waitlists promises : Set Nat) (world : World) : Prop where
  sound : world.Sound
  sparing : world.Sparing waitlists
  reserves : world.Reserves promises
  clear : Clear promises world.state.ready

/-- An orderly world goes on to another one, and calls are taken from other waitlists than the
spared ones, or from those of a task. -/
structure World.Proceeds (waitlists promises own : Set Nat) (before after : World) : Prop where
  orderly : after.Orderly waitlists promises
  advances : Advances before.state after.state
  spares : Spares (waitlistsᶜ ∪ own) before.state after.state
  upholds : Upholds promises before.state after.state

/-- From the given state on, the step keeps the world in order: it takes calls from its own
waitlists, and waits for promises that it makes itself. -/
structure Step.Conforms (own : Set Nat) (before : CacheState) (step : Step CacheState α) :
    Prop where
  sound : Step.Sound before step
  owns : Step.Owns own before step
  assigns : Step.Assigns ∅ before step

/-- An action that every relation respects which allows what an evaluation does. -/
def Action.Mild (action : CacheAction α) : Prop :=
  ∀ {allowed : CacheState → CacheState → Prop} [Allows allowed], Respects allowed action

namespace World

variable {world before middle after : World} {promise : Nat}

theorem Proceeds.refl (orderly : world.Orderly waitlists promises) :
    Proceeds waitlists promises own world world :=
  ⟨orderly, .refl orderly.sound.tidy, .refl _ _, .of_same rfl rfl⟩

theorem Proceeds.trans (first : Proceeds waitlists promises own before middle)
    (second : Proceeds waitlists promises own middle after) :
    Proceeds waitlists promises own before after :=
  ⟨second.orderly, first.advances.trans second.advances, first.spares.then second.spares,
    first.upholds.trans second.upholds⟩

theorem Proceeds.mono (proceeds : Proceeds waitlists promises own before after) {wider : Set Nat}
    (subset : own ⊆ wider) : Proceeds waitlists promises wider before after :=
  ⟨proceeds.orderly, proceeds.advances,
    proceeds.spares.mono (Set.union_subset_union_right _ subset), proceeds.upholds⟩

theorem Sparing.fewer (sparing : world.Sparing waitlists) {fewer : Set Nat}
    (subset : fewer ⊆ waitlists) : world.Sparing fewer where
  opened := fun index member => sparing.opened index (subset member)
  tasks := fun task member => by
    obtain ⟨own, apart, owns⟩ := sparing.tasks task member
    exact ⟨own, fun index owned => ⟨(apart index owned).1, fun inFewer =>
      (apart index owned).2 (subset inFewer)⟩, owns⟩

/-- A conforming step leaves an orderly world where it ends or waits. -/
theorem Orderly.step (orderly : world.Orderly waitlists promises) {step : Step CacheState α}
    (conforms : step.Conforms own world.state) :
    Proceeds waitlists promises own world (world.withState step.state) := by
  have advances : Advances world.state step.state := by
    cases step with
    | done result state => exact conforms.sound
    | waiting promise state resume => exact conforms.sound.1
  have spares : Spares own world.state step.state := by
    cases step with
    | done result state => exact conforms.owns
    | waiting promise state resume => exact conforms.owns.1
  obtain ⟨beside, leaves⟩ :=
    conforms.assigns.beside orderly.reserves orderly.clear (grants_empty world.state)
  have passes := orderly.sparing.withState (spares.mono (Set.subset_union_right : own ⊆ _ ∪ own))
  exact ⟨⟨(orderly.sound.advance advances).1, passes.1, leaves.reserves, beside.clear⟩, advances,
    passes.2, leaves.toUpholds⟩

/-- The run of a conforming step leaves an orderly world. -/
theorem Orderly.ends (orderly : world.Orderly waitlists promises) {step : Step CacheState α}
    (conforms : step.Conforms own world.state) {result : Except Stop α}
    (ends : Ends (Cache.startRender limits) world.suspended step result after) :
    Proceeds waitlists promises own world after := by
  have goesOn := orderly.sound.ends (Session.starts_startRender limits) conforms.sound ends
  have passes := orderly.sparing.ends (Session.separates_startRender limits) conforms.owns ends
  obtain ⟨beside, begins⟩ :=
    conforms.assigns.beside orderly.reserves orderly.clear (grants_empty world.state)
  obtain ⟨leaves, clear⟩ := beside.ends (Cache.reporting_startRender limits) ends
  exact ⟨⟨goesOn.1, passes.1, leaves.reserves, clear⟩, goesOn.2, passes.2,
    begins.toUpholds.trans leaves.toUpholds⟩

/-- A mild action leaves an orderly world. -/
theorem Orderly.act (orderly : world.Orderly waitlists promises) {action : CacheAction α}
    (mild : action.Mild) :
    Proceeds waitlists promises own world (world.withState (action world.state).2) := by
  have onward : Action.Respects (Onward ∅) action := mild
  have spares : Action.Respects (Spares own) action := mild
  have assigns : Action.Respects (Assigns ∅) action := mild
  have conforms : (Step.done (action world.state).1 (action world.state).2).Conforms own
      world.state :=
    ⟨onward world.state orderly.sound.tidy fun _ member => absurd member (Set.notMem_empty _),
      spares world.state, assigns world.state⟩
  exact orderly.step conforms

theorem Orderly.tell (orderly : world.Orderly waitlists promises) {event : Event} {told : World}
    (tells : world.Tells event told) : Proceeds waitlists promises own world told := by
  have mild : (CacheState.tell event).Mild := quiet_tell event
  have proceeds : Proceeds waitlists promises own world
      (world.withState (CacheState.tell event world.state).2) := orderly.act mild
  rw [tells.1, withState, ← tells.2] at proceeds
  exact proceeds

/-- A waitlist that is just opened is spared by the waiting tasks. -/
theorem Orderly.opening (orderly : world.Orderly ∅ promises) :
    (world.withState world.state.opened).Orderly {world.state.waitlists.length} promises where
  sound := (orderly.sound.advance ((Change.opens world.state).advances orderly.sound.tidy)).1
  sparing := orderly.sparing.opening
  reserves := (orderly.reserves.change (assigns_openWaitlist world.state)
    (grants_empty world.state)).reserves
  clear := orderly.clear

/-! ### Deliveries -/

theorem steady_startRender (limits : Limits) :
    Steady (Cache.startRender limits) Sound GoesOn :=
  steady_sound (Session.starts_startRender limits)

theorem steady_spared (limits : Limits) (waitlists own : Set Nat) :
    Steady (Cache.startRender limits) (Sparing waitlists) (Passes waitlists own) :=
  steady_sparing own (Session.separates_startRender limits)

theorem Delivers.goesOn (delivers : Delivers (Cache.startRender limits) promise before after)
    (sound : before.Sound) : GoesOn before after :=
  (steady_startRender limits).delivers sound delivers

theorem Delivers.passes (delivers : Delivers (Cache.startRender limits) promise before after)
    (sparing : before.Sparing waitlists) : Passes waitlists own before after :=
  (steady_spared limits waitlists own).delivers sparing delivers

/-- While a task sleeps, and when it is woken, nobody starts a call that was dropped, as long
as there is a waitlist that is spared. -/
theorem Awakens.ready {outcome : Outcome Value} {index number : Nat}
    (awakens : Awakens (Cache.startRender limits) promise before outcome after)
    (sound : before.Sound) (sparing : before.Sparing {index}) (ready : before.state.Ready number) :
    after.state.Ready number := by
  obtain ⟨last, delivery, delivers, due, -⟩ := awakens
  have goesOn := (delivers.goesOn sound).trans ((delivers.goesOn sound).1.next due)
  have delivered : Passes {index} ∅ before last := delivers.passes sparing
  have passes : Passes {index} ∅ before after := delivered.trans (delivered.1.next ∅ due)
  have outside : index ∉ ({index}ᶜ ∪ ∅ : Set Nat) := by
    rintro (other | nowhere)
    · exact other rfl
    · exact nowhere
  exact ready.spared goesOn.2 passes.2 outside (sparing.opened index rfl)

end World

/-! ### Sessions -/

theorem clear_empty (deliveries : List Delivery) : Clear ∅ deliveries :=
  fun _ _ => Set.notMem_empty _

namespace World

variable {world : World}

theorem Reserves.unbarred (reserves : world.Reserves ∅) {state : CacheState}
    (assigns : Assigns ∅ world.state state) : (world.withState state).Reserves ∅ :=
  (reserves.change assigns (grants_empty world.state)).reserves

/-- Where no promise is barred, whatever is due may happen next. -/
theorem steady_reserves (limits : Limits) :
    Steady (Cache.startRender limits) (Reserves ∅) (Leaves ∅) where
  refl := Leaves.refl
  trans := Leaves.trans
  reaches := Leaves.reserves
  next := fun reserves due => (reserves.next due).1
  deliver := fun reserves due =>
    (reserves.deliver_next (Cache.reporting_startRender limits) due (Set.notMem_empty _)).1

/-- Where no promise is barred, a step leaves the world in order where it ends or waits, and so
it does when it is resumed. -/
structure Unbarred (world : World) (step : Step CacheState α) : Prop where
  leaves : Leaves ∅ world (world.withState step.state)
  resumes : ∀ promise state resume, step = .waiting promise state resume → ∀ outcome later,
    state.promises.length ≤ later.promises.length → Step.Assigns ∅ later (resume outcome later)

theorem Reserves.step (reserves : world.Reserves ∅) {step : Step CacheState α}
    (assigns : step.Assigns ∅ world.state) : world.Unbarred step := by
  obtain ⟨beside, leaves⟩ := assigns.beside reserves (clear_empty _) (grants_empty world.state)
  exact ⟨leaves, fun promise state resume waits =>
    (beside.waits promise state resume waits).2.2.2⟩

theorem carries_assigns : Step.Carries (Leaves ∅) (Unbarred (α := α)) where
  stands := Unbarred.leaves
  resumes := fun unbarred leaves outcome =>
    leaves.reserves.step (unbarred.resumes _ _ _ rfl outcome _ leaves.promises)
  sleeps := by
    intro world later promise state resume unbarred leaves
    refine ⟨.refl leaves.reserves, ?_⟩
    rintro _ _ _ ⟨⟩ outcome last waited
    exact unbarred.resumes _ _ _ rfl outcome last (leaves.promises.trans waited)

/-- Also if the run is cut short. -/
theorem Reserves.runToEnd (reserves : world.Reserves ∅) (fuel : Nat) {step : Step CacheState α}
    (assigns : step.Assigns ∅ world.state) :
    (runToEnd (Cache.startRender limits) fuel world.suspended step).2.Reserves ∅ :=
  ((steady_reserves limits).runToEnd carries_assigns fuel (reserves.step assigns)).reserves

end World

namespace Cache

variable {current given : Option Nat} {done : Option Notify}

theorem assigns_takeWaitlist (given current : Option Nat) :
    Action.Respects (Assigns own) (takeWaitlist given current) := by
  intro state
  rcases given with _ | index <;> rcases current with _ | index <;> exact .of_same rfl rfl rfl

theorem assigns_resolve (reports : Reports own done) (given : Option Nat) (text : String) :
    (resolve limits current done given text).Assigns own := by
  rw [resolve_eq]
  apply (Task.Assigns.of_action (assigns_takeWaitlist given current)).bind
  intro index
  exact assigns_resolveWaitlist (assigns_invoker (assigns_nested limits.depth) index) limits.steps
    reports current index text

end Cache

namespace Session

variable {session before after : Session}

theorem reserves_serve (reserves : session.world.Reserves ∅) (request : Request) :
    (session.serve request).world.Reserves ∅ := by
  cases request with
  | call name arguments =>
      exact reserves.unbarred
        (Cache.quiet_callFound session.limits session.current name arguments session.state)
  | resolve done given text =>
      exact reserves.runToEnd session.limits.steps
        (Cache.assigns_resolve (session.quiet_notify done) given text session.state)
  | render done template data =>
      exact reserves.runToEnd session.limits.steps
        (Cache.assigns_render (session.quiet_notify done) template data session.state)
  | wait turns => exact ((World.steady_reserves session.limits).takeTurns reserves turns).reserves

/-- Whatever users do, waiting tasks report to promises of their own only. -/
theorem Uses.reserves (uses : Uses before after) (reserves : before.world.Reserves ∅) :
    after.world.Reserves ∅ := by
  induction uses with
  | nothing => exact reserves
  | request request _ inductionHypothesis => exact reserves_serve inductionHypothesis request
  | opens given _ _ inductionHypothesis =>
      cases given with
      | some index => exact inductionHypothesis
      | none => exact inductionHypothesis.unbarred (assigns_openWaitlist _)
  | closes _ inductionHypothesis => exact inductionHypothesis

/-- Whatever users do with a new cache, its world stays in order. -/
theorem Uses.orderly {shape : PlaceholderShape} {strict warnsOnOverride : Bool}
    {log : Option LogSettings} {registry : Registry}
    (uses : Uses (.start (unused shape strict warnsOnOverride log registry)) session) :
    session.world.Orderly ∅ ∅ where
  sound := (uses.sound (sound_start (tidy_unused shape strict warnsOnOverride log registry))).1.world
  sparing := (uses.usesBut.passes (sparing_start _)).1.world
  reserves := uses.reserves
    ⟨fun _ member => absurd member (Set.notMem_empty _), fun _ member => absurd member List.not_mem_nil,
      List.nodup_nil, fun _ member => absurd member List.not_mem_nil,
      fun _ member => absurd member List.not_mem_nil⟩
  clear := clear_empty _

end Session

end DeferredText
