import DeferredText.Proofs.Territory

/-!
Contract: tasks that stay within their territories, step by step and side by side.

A guarded step moves within its territory until it is done or waits, and goes on
guarded whatever others did to the cache meanwhile, as long as they kept its
territory. `fit` is what all tasks together preserve of the cache.

Owns: guarded steps and their rules; guarded worlds; that a run in a guarded world
keeps every separate territory.

Does not own: which tasks are guarded (`Proofs.Conduct`).
-/

namespace DeferredText

open CacheState Territory

variable {α β : Type} {fit : CacheState → Prop} {territory sheltered own : Territory}

/-- The outcome of a decided promise. -/
def CacheState.outcome?
    (state : CacheState)
    (promise : Nat) : Option (Outcome Value) :=
  (state.promises[promise]?).bind Promise.outcome

namespace Step

/-- From the given state on, the step stays within its territory, and what it ends with
satisfies the postcondition. -/
def Guarded
    (fit : CacheState → Prop)
    (post : Except Stop α → CacheState → Prop) :
    Territory → CacheState → Step CacheState α → Prop
  | territory, before, .done result after =>
      Moves territory before after ∧ fit after ∧ post result after
  | territory, before, .waiting promise after resume =>
      Moves territory before after ∧ fit after ∧
        ∃ wider, Extends wider territory before ∧ Holds wider after ∧
          ∀ outcome later, Keeps wider after later → fit later →
            later.outcome? promise = some outcome →
            Guarded fit post wider later (resume outcome later)

variable {post other : Except Stop α → CacheState → Prop} {before middle : CacheState}

theorem Guarded.weaken {step : Step CacheState α}
    (guarded : Guarded fit post territory before step)
    (implies : ∀ result after, post result after → other result after) :
    Guarded fit other territory before step := by
  induction step generalizing territory before with
  | done result after =>
      obtain ⟨moves, fits, holds⟩ := guarded
      exact ⟨moves, fits, implies result after holds⟩
  | waiting promise after resume inductionHypothesis =>
      obtain ⟨moves, fits, wider, extending, holds, further⟩ := guarded
      refine ⟨moves, fits, wider, extending, holds, ?_⟩
      intro outcome later keeps fitsLater known
      exact inductionHypothesis outcome later (further outcome later keeps fitsLater known)

/-- A step after moves within the territory. -/
theorem Guarded.after_moves {wider : Territory} {step : Step CacheState α}
    (moves : Moves territory before middle)
    (extending : Extends wider territory before)
    (guarded : Guarded fit post wider middle step) :
    Guarded fit post territory before step := by
  cases step with
  | done result after =>
      obtain ⟨further, fits, holds⟩ := guarded
      exact ⟨moves.trans extending further, fits, holds⟩
  | waiting promise after resume =>
      obtain ⟨further, fits, widest, extendingMore, holds, later⟩ := guarded
      exact ⟨moves.trans extending further, fits, widest,
        extendingMore.trans extending moves.toGrows, holds, later⟩

theorem Guarded.attempt {post : Except Stop (Outcome α) → CacheState → Prop}
    {step : Step CacheState α}
    (guarded : Guarded fit (fun result after => post (caught result) after) territory before step) :
    Guarded fit post territory before step.attempt := by
  induction step generalizing territory before with
  | done result after =>
      rw [attempt_done]
      exact guarded
  | waiting promise after resume inductionHypothesis =>
      obtain ⟨moves, fits, wider, extending, holds, further⟩ := guarded
      refine ⟨moves, fits, wider, extending, holds, ?_⟩
      intro outcome later keeps fitsLater known
      exact inductionHypothesis outcome later (further outcome later keeps fitsLater known)

/-- A part of a task that has a territory of its own, and the rest of the task, which
finds its own territory kept. -/
theorem Guarded.andThen_beside {post : Except Stop β → CacheState → Prop} {start : CacheState}
    {step : Step CacheState α} {next : α → CacheState → Step CacheState β}
    (orderly : before.Orderly)
    (apart : Apart own territory)
    (ownHolds : Holds own before)
    (holds : Holds territory before)
    (kept : Keeps territory start before)
    (guarded : Guarded fit other own before step)
    (goesOn : ∀ value after, Keeps territory start after → fit after → other (.ok value) after →
      Guarded fit post territory after (next value after))
    (stops : ∀ stop after, Keeps territory start after → fit after → other (.error stop) after →
      post (.error stop) after) :
    Guarded fit post (territory.union own) before (step.andThen next) := by
  induction step generalizing own before with
  | done result after =>
      obtain ⟨moves, fits, holdsOther⟩ := guarded
      have keptAfter := kept.trans (moves.keeps apart orderly ownHolds holds)
      cases result with
      | ok value =>
          exact (goesOn value after keptAfter fits holdsOther).after_moves
            (moves.union_left territory) (.of_union territory own before)
      | error stop =>
          exact ⟨moves.union_left territory, fits, stops stop after keptAfter fits holdsOther⟩
  | waiting promise after resume inductionHypothesis =>
      obtain ⟨moves, fits, wider, extending, widerHolds, further⟩ := guarded
      have keptAfter := kept.trans (moves.keeps apart orderly ownHolds holds)
      have holdsAfter := holds.keeps (moves.keeps apart orderly ownHolds holds)
      refine ⟨moves.union_left territory, fits, territory.union wider,
        extending.union_right territory, holdsAfter.union widerHolds, ?_⟩
      intro outcome later keeps fitsLater known
      exact inductionHypothesis outcome later
        (keeps.orderly (moves.orderly orderly))
        (apart.extend extending holds)
        (widerHolds.keeps keeps.of_union_right)
        (holdsAfter.keeps keeps.of_union_left)
        (keptAfter.trans keeps.of_union_left)
        (further outcome later keeps.of_union_right fitsLater known)

/-- A task that lets a part without a territory run and goes on with its result. -/
theorem Guarded.andThen {post : Except Stop β → CacheState → Prop}
    {step : Step CacheState α} {next : α → CacheState → Step CacheState β}
    (orderly : before.Orderly)
    (holds : Holds territory before)
    (guarded : Guarded fit other .empty before step)
    (goesOn : ∀ value after, Keeps territory before after → fit after → other (.ok value) after →
      Guarded fit post territory after (next value after))
    (stops : ∀ stop after, Keeps territory before after → fit after → other (.error stop) after →
      post (.error stop) after) :
    Guarded fit post territory before (step.andThen next) := by
  rw [← union_empty territory]
  exact guarded.andThen_beside orderly (.empty_left territory) (.empty before) holds (.refl _ _)
    goesOn stops

/-- A task that goes on with nothing of its territory. -/
theorem Guarded.andThen_free {post : Except Stop β → CacheState → Prop}
    {step : Step CacheState α} {next : α → CacheState → Step CacheState β}
    (orderly : before.Orderly)
    (guarded : Guarded fit other territory before step)
    (goesOn : ∀ value after, after.Orderly → fit after → other (.ok value) after →
      Guarded fit post .empty after (next value after))
    (stops : ∀ stop after, fit after → other (.error stop) after → post (.error stop) after) :
    Guarded fit post territory before (step.andThen next) := by
  induction step generalizing territory before with
  | done result after =>
      obtain ⟨moves, fits, holds⟩ := guarded
      cases result with
      | ok value =>
          exact (goesOn value after (moves.orderly orderly) fits holds).after_moves moves
            (.of_empty territory before)
      | error stop => exact ⟨moves, fits, stops stop after fits holds⟩
  | waiting promise after resume inductionHypothesis =>
      obtain ⟨moves, fits, wider, extending, holds, further⟩ := guarded
      refine ⟨moves, fits, wider, extending, holds, ?_⟩
      intro outcome later keeps fitsLater known
      exact inductionHypothesis outcome later (keeps.orderly (moves.orderly orderly))
        (further outcome later keeps fitsLater known)

end Step

/-! ### Worlds -/

/-- What a waiting task does when it is resumed stays within its territory. -/
def Suspended.Guarded
    (fit : CacheState → Prop)
    (territory : Territory)
    (state : CacheState)
    (task : Suspended) : Prop :=
  ∀ outcome later, Keeps territory state later → fit later →
    later.outcome? task.promise = some outcome →
    Step.Guarded fit (fun _ _ => True) territory later (task.resume outcome later)

/-- Deliveries preserve what all tasks preserve, and the renderings they start are
guarded. -/
structure Orders (fit : CacheState → Prop) (start : Starter) : Prop where
  begins : ∀ state promise template data current rest, fit state → state.Orderly →
    state.ready = .begin promise template data current :: rest →
    Step.Guarded fit (fun _ _ => True) .empty (state.withReady rest)
      (start promise template data current (state.withReady rest))
  settles : ∀ state promise completion rest, fit state →
    state.ready = .settle promise completion :: rest →
    fit (settle promise completion (state.withReady rest)).2
  completes : ∀ state promise completion rest, fit state →
    state.ready = .complete promise completion :: rest →
    fit (state.withReady (rest ++ [.settle promise completion]))
  resumes : ∀ state promise rest, fit state → state.ready = .resume promise :: rest →
    fit (state.withReady rest)

theorem Suspended.Guarded.keeps {before after : CacheState} {task : Suspended}
    (guarded : task.Guarded fit territory before) (keeps : Keeps territory before after) :
    task.Guarded fit territory after := by
  intro outcome later keepsLater
  exact guarded outcome later (keeps.trans keepsLater)

/-- Waiting tasks with territories of their own, separate from a protected one. -/
structure Guards
    (fit : CacheState → Prop)
    (sheltered : Territory)
    (state : CacheState)
    (holdings : List (Territory × Suspended)) : Prop where
  apart : ∀ holding ∈ holdings, Apart holding.1 sheltered
  holds : ∀ holding ∈ holdings, Holds holding.1 state
  guarded : ∀ holding ∈ holdings, holding.2.Guarded fit holding.1 state
  separate : holdings.Pairwise fun left right => Apart left.1 right.1

/-- A world whose waiting tasks keep off a protected territory. -/
structure World.Guarded
    (fit : CacheState → Prop)
    (sheltered : Territory)
    (world : World) : Prop where
  orderly : world.state.Orderly
  fits : fit world.state
  holds : Holds sheltered world.state
  tasks : ∃ holdings, holdings.map Prod.snd = world.suspended ∧
    Guards fit sheltered world.state holdings

section Guards

variable {holdings : List (Territory × Suspended)} {before after state : CacheState}
  {start : Starter} {world rest : World} {delivery : Delivery}

/-- The waiting tasks stay guarded while a task with a separate territory moves. -/
theorem Guards.moves (guards : Guards fit sheltered before holdings)
    (moves : Moves own before after) (orderly : before.Orderly) (holds : Holds own before)
    (apart : ∀ holding ∈ holdings, Apart own holding.1) :
    Guards fit sheltered after holdings := by
  have keeps : ∀ holding ∈ holdings, Keeps holding.1 before after := fun holding member =>
    moves.keeps (apart holding member) orderly holds (guards.holds holding member)
  exact
    { apart := guards.apart
      holds := fun holding member => (guards.holds holding member).keeps (keeps holding member)
      guarded := fun holding member =>
        (guards.guarded holding member).keeps (keeps holding member)
      separate := guards.separate }

/-- A guarded step beside guarded tasks leaves a guarded world. -/
theorem Guards.keep (guards : Guards fit sheltered before holdings)
    (orderly : before.Orderly) (holds : Holds sheltered before)
    (apart : Apart own sheltered) (ownHolds : Holds own before)
    (separate : ∀ holding ∈ holdings, Apart own holding.1)
    {step : Step CacheState Unit}
    (guarded : Step.Guarded fit (fun _ _ => True) own before step) :
    Keeps sheltered before (World.keep (holdings.map Prod.snd) step).state ∧
      World.Guarded fit sheltered (World.keep (holdings.map Prod.snd) step) := by
  cases step with
  | done result after =>
      obtain ⟨moves, fits, -⟩ := guarded
      have keeps := moves.keeps apart orderly ownHolds holds
      exact ⟨keeps, moves.orderly orderly, fits, holds.keeps keeps, holdings, rfl,
        guards.moves moves orderly ownHolds separate⟩
  | waiting promise after resume =>
      obtain ⟨moves, fits, wider, extending, widerHolds, further⟩ := guarded
      have keeps := moves.keeps apart orderly ownHolds holds
      have others := guards.moves moves orderly ownHolds separate
      refine ⟨keeps, moves.orderly orderly, fits, holds.keeps keeps,
        holdings ++ [(wider, ⟨promise, resume⟩)], by simp [World.keep], ?_⟩
      have widerApart : ∀ holding ∈ holdings, Apart wider holding.1 := fun holding member =>
        (separate holding member).extend extending (guards.holds holding member)
      constructor
      · intro holding member
        rcases List.mem_append.mp member with old | new
        · exact guards.apart holding old
        · rw [List.mem_singleton.mp new]
          exact apart.extend extending holds
      · intro holding member
        rcases List.mem_append.mp member with old | new
        · exact others.holds holding old
        · rw [List.mem_singleton.mp new]
          exact widerHolds
      · intro holding member
        rcases List.mem_append.mp member with old | new
        · exact others.guarded holding old
        · rw [List.mem_singleton.mp new]
          exact further
      · rw [List.pairwise_append]
        refine ⟨guards.separate, List.pairwise_singleton _ _, ?_⟩
        intro holding old added new
        rw [List.mem_singleton.mp new]
        exact (widerApart holding old).symm

/-- Some of the waiting tasks. -/
theorem Guards.sublist {fewer : List (Territory × Suspended)}
    (guards : Guards fit sheltered state holdings) (part : fewer.Sublist holdings) :
    Guards fit sheltered state fewer where
  apart := fun holding member => guards.apart holding (part.mem member)
  holds := fun holding member => guards.holds holding (part.mem member)
  guarded := fun holding member => guards.guarded holding (part.mem member)
  separate := guards.separate.sublist part

section Settle

variable {number : Nat} {completion : Completion} {state : CacheState} {owed : Promise}

/-- A promise that was never made is left alone. -/
theorem settle_unknown (unknown : state.promises[number]? = none) :
    settle number completion state = (.ok (), state) := by
  refine Action.bind_ok (Action.get_eq state) ?_
  rw [unknown]
  rfl

/-- A promise is settled once. -/
theorem settle_again {earlier : Outcome Value} (found : state.promises[number]? = some owed)
    (decided : owed.outcome = some earlier) : settle number completion state =
      tell (.duplicate (.text owed.cycleId) (.text owed.helperName)) state := by
  refine Action.bind_ok (Action.get_eq state) ?_
  rw [found]
  dsimp only
  rw [decided]

theorem settle_unread {failure : Failure} (found : state.promises[number]? = some owed)
    (undecided : owed.outcome = none)
    (fails : completion.outcome owed.helperName = .error failure) :
    settle number completion state = (.error (.failed failure), state) := by
  refine Action.bind_ok (Action.get_eq state) ?_
  rw [found]
  dsimp only
  rw [undecided]
  dsimp only
  rw [fails]
  rfl

/-- The first outcome is kept, and whoever waits for it is due. -/
theorem settle_first {outcome : Outcome Value} (found : state.promises[number]? = some owed)
    (undecided : owed.outcome = none)
    (becomes : completion.outcome owed.helperName = .ok outcome) :
    settle number completion state = (.ok (),
      { state with
        promises := state.promises.set number { owed with outcome := some outcome }
        ready := state.ready ++ [.resume number] }) := by
  refine Action.bind_ok (Action.get_eq state) ?_
  rw [found]
  dsimp only
  rw [undecided]
  dsimp only
  rw [becomes]
  rfl

end Settle

/-- What a completion that reaches its promise does. -/
theorem settle_cases (number : Nat) (completion : Completion) (state : CacheState) :
    (∃ lines unwritten,
      (settle number completion state).2 = state.withLog lines unwritten) ∨
    ∃ owed outcome, state.promises[number]? = some owed ∧ owed.outcome = none ∧
      completion.outcome owed.helperName = .ok outcome ∧
      (settle number completion state).2 =
        { state with
          promises := state.promises.set number { owed with outcome := some outcome }
          ready := state.ready ++ [.resume number] } := by
  cases found : state.promises[number]? with
  | none =>
      rw [settle_unknown found]
      exact .inl ⟨_, _, rfl⟩
  | some owed =>
      cases decided : owed.outcome with
      | some earlier =>
          rw [settle_again found decided]
          exact .inl (tell_changes _ state)
      | none =>
          cases becomes : completion.outcome owed.helperName with
          | error failure =>
              rw [settle_unread found decided becomes]
              exact .inl ⟨_, _, rfl⟩
          | ok outcome =>
              rw [settle_first found decided becomes]
              exact .inr ⟨owed, outcome, rfl, decided, becomes, rfl⟩

/-- A completion that reaches its promise changes nothing but promises, what is due, and
the log. -/
theorem settle_changes (promise : Nat) (completion : Completion) (state : CacheState) :
    ∃ promises ready lines unwritten, (settle promise completion state).2 =
      { state.withLog lines unwritten with
        promises := promises
        ready := ready } := by
  rcases settle_cases promise completion state with
    ⟨lines, unwritten, told⟩ | ⟨owed, outcome, -, -, -, decides⟩
  · exact ⟨state.promises, state.ready, lines, unwritten, told⟩
  · exact ⟨_, _, state.lines, state.unwritten, decides⟩

theorem core_settle (promise : Nat) (completion : Completion) (state : CacheState) :
    (settle promise completion state).2.core = state.core := by
  obtain ⟨promises, ready, lines, unwritten, changed⟩ := settle_changes promise completion state
  rw [changed]
  rfl

/-- Taking a delivery off those that are due. -/
theorem World.next?_eq (due : world.next? = some (delivery, rest)) :
    ∃ later, world.state.ready = delivery :: later ∧
      rest = ⟨world.state.withReady later, world.suspended⟩ := by
  rw [World.next?] at due
  split at due
  · cases due
  · rename_i head later ready
    cases due
    exact ⟨later, ready, rfl⟩

theorem World.wakes_eq {promise : Nat} {outcome : Outcome Value}
    (wakes : world.wakes promise delivery = some outcome) :
    delivery = .resume promise ∧ world.state.outcome? promise = some outcome := by
  cases delivery with
  | resume resumed =>
      rw [World.wakes] at wakes
      split at wakes
      · rename_i same
        exact ⟨congrArg Delivery.resume (by simpa [Delivery.resumes] using same), wakes⟩
      · cases wakes
  | _ => cases wakes

/-- A guarded world after a change of nothing that territories are about. -/
theorem World.Guarded.of_core (guarded : World.Guarded fit sheltered world)
    (same : state.core = world.state.core) (fits : fit state) :
    Keeps sheltered world.state state ∧
      World.Guarded fit sheltered ⟨state, world.suspended⟩ := by
  have moves : Moves .empty world.state state := .of_core same
  have keeps := moves.keeps (.empty_left sheltered) guarded.orderly (.empty _) guarded.holds
  obtain ⟨holdings, suspended, guards⟩ := guarded.tasks
  exact ⟨keeps, moves.orderly guarded.orderly, fits, guarded.holds.keeps keeps, holdings, suspended,
    guards.moves moves guarded.orderly (.empty _) fun holding _ => .empty_left holding.1⟩

/-- The task that a decided promise lets go on, and the tasks that stay. -/
theorem Guards.resume (guards : Guards fit sheltered state holdings)
    (orderly : state.Orderly) (fits : fit state) (holds : Holds sheltered state)
    {task : Suspended} {outcome : Outcome Value} {promise : Nat}
    (found : (holdings.map Prod.snd).find? (fun task => task.promise == promise) = some task)
    (known : state.outcome? promise = some outcome) :
    let after := World.keep ((holdings.map Prod.snd).filter fun other => other.promise != promise)
      (task.resume outcome state)
    Keeps sheltered state after.state ∧ World.Guarded fit sheltered after := by
  have member : task ∈ holdings.map Prod.snd := List.mem_of_find?_eq_some found
  obtain ⟨holding, held, rfl⟩ := List.mem_map.mp member
  have waits : holding.2.promise = promise := by
    simpa using List.find?_some found
  rw [List.filter_map]
  apply (guards.sublist List.filter_sublist).keep orderly holds (guards.apart _ held)
    (guards.holds _ held)
  · intro other stays
    obtain ⟨old, sleeps⟩ := List.mem_filter.mp stays
    have distinct : holding ≠ other := by
      rintro rfl
      simp [waits] at sleeps
    have symmetric : Std.Symm fun left right : Territory × Suspended => Apart left.1 right.1 :=
      ⟨fun _ _ apart => apart.symm⟩
    exact guards.separate.forall held old distinct
  · exact guards.guarded _ held outcome state (.refl _ _) fits (waits ▸ known)

theorem World.Guarded.deliver (orders : Orders fit start)
    (guarded : World.Guarded fit sheltered world)
    (due : world.next? = some (delivery, rest)) :
    Keeps sheltered world.state (rest.deliver start delivery).state ∧
      World.Guarded fit sheltered (rest.deliver start delivery) := by
  obtain ⟨later, ready, rfl⟩ := World.next?_eq due
  cases delivery with
  | settle promise completion =>
      exact guarded.of_core (core_settle promise completion _)
        (orders.settles world.state promise completion later guarded.fits ready)
  | complete promise completion =>
      exact guarded.of_core rfl
        (orders.completes world.state promise completion later guarded.fits ready)
  | begin promise template data current =>
      have begins := orders.begins world.state promise template data current later guarded.fits
        guarded.orderly ready
      have popped : Moves .empty world.state (world.state.withReady later) := .of_core rfl
      obtain ⟨holdings, suspended, guards⟩ := guarded.tasks
      have kept := guards.keep guarded.orderly guarded.holds (.empty_left _) (.empty _)
        (fun holding _ => .empty_left holding.1)
        (begins.after_moves popped (.refl _ _))
      rw [suspended] at kept
      exact kept
  | resume promise =>
      have fits := orders.resumes world.state promise later guarded.fits ready
      have same : (world.state.withReady later).core = world.state.core := rfl
      have popped := guarded.of_core same fits
      rw [World.deliver, World.resume]
      split
      · rename_i outcome task known found
        obtain ⟨holdings, suspended, guards⟩ := popped.2.tasks
        rw [← suspended] at found
        have resumed := guards.resume popped.2.orderly popped.2.fits popped.2.holds found known
        rw [suspended] at resumed
        exact ⟨popped.1.trans resumed.1, resumed.2⟩
      · exact popped

/-- A task goes on with a part of the protected territory as its own. -/
theorem World.Guarded.advance {wider : Territory} {suspended : List Suspended}
    (guarded : World.Guarded fit (sheltered.union own) ⟨before, suspended⟩)
    (apart : Apart own sheltered)
    (moves : Moves own before after) (fits : fit after)
    (extending : Extends wider own before) (holds : Holds wider after) :
    Keeps sheltered before after ∧ Apart wider sheltered ∧
      World.Guarded fit (sheltered.union wider) ⟨after, suspended⟩ := by
  have ownHolds : Holds own before := guarded.holds.of_union_right
  have protectedHolds : Holds sheltered before := guarded.holds.of_union_left
  have keeps := moves.keeps apart guarded.orderly ownHolds protectedHolds
  obtain ⟨holdings, same, guards⟩ := guarded.tasks
  have separate : ∀ holding ∈ holdings, Apart own holding.1 := fun holding member =>
    (guards.apart holding member).of_union_right.symm
  have others := guards.moves moves guarded.orderly ownHolds separate
  refine ⟨keeps, apart.extend extending protectedHolds, moves.orderly guarded.orderly, fits,
    (protectedHolds.keeps keeps).union holds, holdings, same, ?_⟩
  exact
    { apart := fun holding member =>
        (guards.apart holding member).of_union_left.union
          ((separate holding member).extend extending (guards.holds holding member)).symm
      holds := others.holds
      guarded := others.guarded
      separate := others.separate }

/-- A guarded task that runs to its end in a guarded world keeps what is protected from
it, and so does everything that happens meanwhile. -/
theorem Ends.guarded (orders : Orders fit start) {suspended : List Suspended}
    {step : Step CacheState α} {result : Except Stop α} {final : World}
    {post : Except Stop α → CacheState → Prop}
    (ends : Ends start suspended step result final)
    (world : World.Guarded fit (sheltered.union own) ⟨before, suspended⟩)
    (apart : Apart own sheltered)
    (guarded : Step.Guarded fit post own before step)
    (stalls : ∀ state, post (.error .stalled) state) :
    Keeps sheltered before final.state ∧ World.Guarded fit sheltered final ∧
      post result final.state := by
  induction ends generalizing before own with
  | @done suspended result after =>
      obtain ⟨moves, fits, satisfied⟩ := guarded
      have advanced := world.advance apart moves fits (.of_empty _ _) (.empty _)
      rw [union_empty] at advanced
      exact ⟨advanced.1, advanced.2.2, satisfied⟩
  | stalled idle =>
      obtain ⟨moves, fits, wider, extending, holds, -⟩ := guarded
      have advanced := world.advance apart moves fits (.of_empty _ _) (.empty _)
      rw [union_empty] at advanced
      exact ⟨advanced.1, advanced.2.2, stalls _⟩
  | @resumed suspended promise state _ _ _ _ _ _ due wakes _ inductionHypothesis =>
      obtain ⟨moves, fits, wider, extending, holds, resumes⟩ := guarded
      obtain ⟨keeps, widerApart, advanced⟩ := world.advance apart moves fits extending holds
      obtain ⟨later, ready, rfl⟩ := World.next?_eq due
      obtain ⟨woken, known⟩ := World.wakes_eq wakes
      have same : (state.withReady later).core = state.core := rfl
      have popped := advanced.of_core same (orders.resumes state promise later fits (woken ▸ ready))
      obtain ⟨final, guardedFinal, satisfied⟩ := inductionHypothesis popped.2 widerApart
        (resumes _ _ popped.1.of_union_right popped.2.fits known)
      exact ⟨(keeps.trans popped.1.of_union_left).trans final, guardedFinal, satisfied⟩
  | delivered due sleeps further inductionHypothesis =>
      obtain ⟨moves, fits, wider, extending, holds, resumes⟩ := guarded
      obtain ⟨keeps, widerApart, advanced⟩ := world.advance apart moves fits extending holds
      obtain ⟨delivered, advancedMore⟩ := advanced.deliver orders due
      obtain ⟨final, guardedFinal, satisfied⟩ := inductionHypothesis advancedMore widerApart
        ⟨.refl _ _, advancedMore.fits, wider, .refl _ _, advancedMore.holds.of_union_right,
          fun outcome later keepsLater =>
            resumes outcome later (delivered.of_union_right.trans keepsLater)⟩
      exact ⟨(keeps.trans delivered.of_union_left).trans final, guardedFinal, satisfied⟩

end Guards

end DeferredText
