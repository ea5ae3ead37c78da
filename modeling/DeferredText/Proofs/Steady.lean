import DeferredText.Cache.Session
import DeferredText.Proofs.Course
import DeferredText.Proofs.Guarded

/-!
Contract: what one delivery leaves, everything that is due leaves.

A world goes on by deliveries: a number of them, the turns of a session, or those that happen
while a task is run. What is shown of a single delivery, and of the places where a step ends
or waits, holds of all of these.

Owns: the inductions over counted deliveries, turns and runs, for any invariant of worlds.

Does not own: particular invariants (`Proofs.Sessions`, `Proofs.Completion`, `Proofs.Upkeep`).
-/

namespace DeferredText

variable {α : Type} {start : Starter} {good : World → Prop} {goes : World → World → Prop}

/-- The state of a cache when a step has come to its end or waits. -/
def Step.state : Step CacheState α → CacheState
  | .done _ state => state
  | .waiting _ state _ => state

/-- Whatever is delivered, either nothing but promises, what is due and the log change, or a task
is kept: a rendering that is started, or one that was waiting and goes on. -/
theorem World.deliver_cases (start : Starter) (world : World) (delivery : Delivery) :
    (∃ promises ready lines unwritten, world.deliver start delivery =
      world.withState { world.state.withLog lines unwritten with
        promises := promises
        ready := ready }) ∨
    (∃ promise template data current, world.deliver start delivery =
      keep world.suspended (start promise template data current world.state)) ∨
    ∃ task ∈ world.suspended, ∃ outcome, ∃ fewer ⊆ world.suspended, world.deliver start delivery =
      keep fewer (task.resume outcome world.state) := by
  cases delivery with
  | settle promise completion =>
      obtain ⟨promises, ready, lines, unwritten, changed⟩ :=
        settle_changes promise completion world.state
      exact .inl ⟨promises, ready, lines, unwritten, by rw [deliver, changed]; rfl⟩
  | complete promise completion => exact .inl ⟨_, _, world.state.lines, world.state.unwritten, rfl⟩
  | begin promise template data current => exact .inr (.inl ⟨promise, template, data, current, rfl⟩)
  | resume promise =>
      rw [deliver, World.resume]
      split
      · rename_i outcome task known found
        exact .inr (.inr ⟨task, List.mem_of_find?_eq_some found, outcome, _,
          List.filter_subset_self _, rfl⟩)
      · exact .inl ⟨world.state.promises, world.state.ready, world.state.lines,
          world.state.unwritten, rfl⟩

/-- Good worlds go on to good ones when the oldest delivery is taken from what is due, and when
it happens. -/
structure World.Steady (start : Starter) (good : World → Prop)
    (goes : World → World → Prop) : Prop where
  refl : ∀ {world}, good world → goes world world
  trans : ∀ {before middle after}, goes before middle → goes middle after → goes before after
  reaches : ∀ {before after}, goes before after → good after
  next : ∀ {world rest delivery}, good world → world.next? = some (delivery, rest) →
    goes world rest
  deliver : ∀ {world rest delivery}, good world → world.next? = some (delivery, rest) →
    goes world (rest.deliver start delivery)

/-- What is known of a step in the world in which it is run: the world goes on to where the
step ends or waits, and as long as the step sleeps, and when it is resumed, the same is known. -/
structure Step.Carries (goes : World → World → Prop)
    (knows : World → Step CacheState α → Prop) : Prop where
  stands : ∀ {world step}, knows world step → goes world (world.withState step.state)
  resumes : ∀ {world later promise state resume}, knows world (.waiting promise state resume) →
    goes (world.withState state) later → ∀ outcome, knows later (resume outcome later.state)
  sleeps : ∀ {world later promise state resume}, knows world (.waiting promise state resume) →
    goes (world.withState state) later → knows later (.waiting promise later.state resume)

namespace World.Steady

variable {world last : World} {knows : World → Step CacheState α → Prop}
  {step : Step CacheState α}

/-- Whatever is delivered changes nothing that matters or keeps a task, so these are the cases
to be shown. -/
theorem of_keeping (refl : ∀ {world}, good world → goes world world)
    (trans : ∀ {before middle after}, goes before middle → goes middle after → goes before after)
    (reaches : ∀ {before after}, goes before after → good after)
    (idle : ∀ {world}, good world → ∀ promises ready lines unwritten,
      goes world (world.withState { world.state.withLog lines unwritten with
        promises := promises
        ready := ready }))
    (begins : ∀ {world}, good world → ∀ promise template data current,
      goes world (keep world.suspended (start promise template data current world.state)))
    (resumes : ∀ {world}, good world → ∀ task ∈ world.suspended, ∀ outcome, ∀ fewer ⊆ world.suspended,
      goes world (keep fewer (task.resume outcome world.state))) :
    Steady start good goes := by
  have next : ∀ {world rest delivery}, good world → world.next? = some (delivery, rest) →
      goes world rest := by
    intro world rest delivery valid due
    obtain ⟨later, -, rfl⟩ := World.next?_eq due
    exact idle valid world.state.promises later world.state.lines world.state.unwritten
  refine ⟨refl, trans, reaches, next, fun {world rest delivery} valid due => ?_⟩
  have popped := next valid due
  refine trans popped ?_
  rcases rest.deliver_cases start delivery with ⟨promises, ready, lines, unwritten, same⟩ |
    ⟨promise, template, data, current, same⟩ | ⟨task, member, outcome, fewer, among, same⟩
  · rw [same]
    exact idle (reaches popped) promises ready lines unwritten
  · rw [same]
    exact begins (reaches popped) promise template data current
  · rw [same]
    exact resumes (reaches popped) task member outcome fewer among

theorem deliverMany (steady : Steady start good goes) (valid : good world) (count : Nat) :
    goes world (world.deliverMany start count) := by
  induction count generalizing world with
  | zero => exact steady.refl valid
  | succ count inductionHypothesis =>
      rw [World.deliverMany]
      cases due : world.next? with
      | none => exact steady.refl valid
      | some pair =>
          obtain ⟨delivery, rest⟩ := pair
          have delivered := steady.deliver valid due
          exact steady.trans delivered (inductionHypothesis (steady.reaches delivered))

theorem takeTurns {session : Session}
    (steady : Steady (Cache.startRender session.limits) good goes) (valid : good session.world)
    (count : Nat) : goes session.world (session.takeTurns count).world := by
  induction count generalizing session with
  | zero => exact steady.refl valid
  | succ count inductionHypothesis =>
      have turned : goes session.world (session.world.turn (Cache.startRender session.limits)) :=
        steady.deliverMany valid session.world.state.ready.length
      exact steady.trans turned (@inductionHypothesis
        { session with world := session.world.turn (Cache.startRender session.limits) } steady
        (steady.reaches turned))

/-- The run of a step, also if it is cut short. -/
theorem runToEnd (steady : Steady start good goes) (carries : Step.Carries goes knows)
    (fuel : Nat) (known : knows world step) :
    goes world (runToEnd start fuel world.suspended step).2 := by
  induction fuel generalizing world step with
  | zero => cases step <;> exact carries.stands known
  | succ fuel inductionHypothesis =>
      cases step with
      | done result state => exact carries.stands known
      | waiting promise state resume =>
          have waits : goes world (world.withState state) := carries.stands known
          rw [runToEnd_waiting]
          cases due : World.next? ⟨state, world.suspended⟩ with
          | none => exact waits
          | some pair =>
              obtain ⟨delivery, rest⟩ := pair
              dsimp only
              cases rest.wakes promise delivery with
              | some outcome =>
                  have popped := steady.next (steady.reaches waits) due
                  exact steady.trans (steady.trans waits popped)
                    (inductionHypothesis (carries.resumes known popped outcome))
              | none =>
                  have delivered := steady.deliver (steady.reaches waits) due
                  exact steady.trans (steady.trans waits delivered)
                    (inductionHypothesis (carries.sleeps known delivered))

theorem ends (steady : Steady start good goes) (carries : Step.Carries goes knows)
    (known : knows world step) {result : Except Stop α}
    (ends : Ends start world.suspended step result last) : goes world last := by
  obtain ⟨fuel, counted⟩ := ends.runToEnd
  have ran := steady.runToEnd carries fuel known
  rwa [counted fuel (Nat.le_refl fuel)] at ran

end World.Steady

end DeferredText
