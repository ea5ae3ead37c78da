import DeferredText.Proofs.Conduct

/-!
Contract: what the turns of a resolution do to the cache, among tasks that keep off.

A turn settles the status of its call and may change its arguments. Every other call of
the waitlist stays as it is, and fresh calls at most are added to the waitlist, unless
the turn fails and clears it.

Owns: the effect of a turn, and that worlds stay guarded along a course.

Does not own: which calls are run (`Proofs.Needed`) and the text (`Proofs.Substitution`).
-/

namespace DeferredText

open CacheState Territory

variable {fit : CacheState → Prop} {territory : Territory} {start : Starter}
  {invoke : Drain.Invoke} {index : Nat}

/-- A task moves within its own territory, among others that keep off it. -/
theorem World.Guarded.move {world : World} {after : CacheState}
    (guarded : World.Guarded fit territory world)
    (moves : Moves territory world.state after) (fits : fit after) :
    World.Guarded fit territory (world.withState after) := by
  obtain ⟨holdings, same, guards⟩ := guarded.tasks
  exact ⟨moves.orderly guarded.orderly, fits, guarded.holds.grows moves.toGrows, holdings, same,
    guards.moves moves guarded.orderly guarded.holds fun holding member =>
      (guards.apart holding member).symm⟩

theorem World.Tells.eq {world told : World} {event : Event} (tells : world.Tells event told) :
    ∃ lines, told = world.withState (world.state.withLines lines) := by
  obtain ⟨written, same⟩ := tells
  obtain ⟨lines, state⟩ := tell_lines written
  exact ⟨lines, by cases told; cases same; cases state; rfl⟩

theorem World.Tells.invocations {world told : World} {event : Event}
    (tells : world.Tells event told) : told.state.invocations = world.state.invocations := by
  obtain ⟨lines, rfl⟩ := tells.eq
  rfl

theorem World.Tells.queue {world told : World} {event : Event} (tells : world.Tells event told)
    (index : Nat) : told.state.queue index = world.state.queue index := by
  obtain ⟨lines, rfl⟩ := tells.eq
  rfl

/-! ### Sparing a territory -/

namespace Territory

/-- A change that spares all of a territory but one call. -/
structure Spares
    (territory : Territory)
    (number : Nat)
    (before after : CacheState) : Prop extends Grows before after where
  recorded : ∀ index ∈ territory.waitlists, Extended before after index
  others : ∀ other ∈ territory.reach before, other ≠ number →
    after.invocations[other]? = before.invocations[other]?

variable {number : Nat} {before middle after : CacheState}

theorem Spares.trans (first : Spares territory number before middle)
    (second : Spares territory number middle after) : Spares territory number before after where
  toGrows := first.toGrows.trans second.toGrows
  recorded := fun index member =>
    (first.recorded index member).trans (second.recorded index member) first.invocations
  others := fun other member distinct => by
    have stillReached : other ∈ territory.reach middle := by
      rcases member with taken | ⟨index, owned, queued⟩
      · exact .inl taken
      · obtain ⟨recorded, appended, -⟩ := first.recorded index owned
        exact .inr ⟨index, owned, by rw [appended]; exact List.mem_append_left _ queued⟩
    exact (second.others other stillReached distinct).trans (first.others other member distinct)

theorem Spares.of_keeps (keeps : Keeps territory before after) :
    Spares territory number before after where
  toGrows := keeps.toGrows
  recorded := keeps.recorded
  others := fun other member _ => keeps.untouched other member

theorem Spares.refl : Spares territory number before before :=
  .of_keeps (.refl _ _)

theorem Spares.withInvocation {change : Invocation → Invocation}
    (moves : Moves territory before (before.withInvocation number change)) :
    Spares territory number before (before.withInvocation number change) where
  toGrows := moves.toGrows
  recorded := fun index _ => ⟨[], by simp, by simp⟩
  others := fun other _ distinct => by
    simp [CacheState.withInvocation, Ne.symm distinct]

theorem Spares.withLines (lines : List String) :
    Spares territory number before (before.withLines lines) :=
  .of_keeps
    { toGrows := (Moves.of_core rfl : Moves .empty before (before.withLines lines)).toGrows
      recorded := fun index _ => ⟨[], by simp, by simp⟩
      untouched := fun _ _ => rfl }

end Territory

variable {number : Nat} {world told : World} {event : Event}

theorem World.Guarded.tell (guarded : World.Guarded anyState territory world)
    (tells : world.Tells event told) (number : Nat) :
    Spares territory number world.state told.state ∧ World.Guarded anyState territory told := by
  obtain ⟨lines, rfl⟩ := tells.eq
  exact ⟨.withLines lines, guarded.move (.of_core rfl) trivial⟩

theorem World.Guarded.setStatus (guarded : World.Guarded anyState territory world)
    (taken : number ∈ territory.calls) (status : InvocationStatus) :
    Spares territory number world.state (world.state.withStatus number status) ∧
      World.Guarded anyState territory (world.withState (world.state.withStatus number status)) :=
  ⟨.withInvocation (moves_withStatus taken status),
    guarded.move (moves_withStatus taken status) trivial⟩

theorem CacheState.status_withStatus {state : CacheState} (status : InvocationStatus)
    (inside : number < state.invocations.length) :
    ((state.withStatus number status).invocations[number]?).map Invocation.status =
      some status := by
  simp [withStatus, CacheState.withInvocation, inside]

/-! ### The effect of a turn -/

namespace Drain

/-- What a turn does, seen from the territory of the resolution. -/
structure Effect
    (territory : Territory)
    (index : Nat)
    (turn : Turn) : Prop where
  grows : Grows turn.before.state turn.after.state
  status : (turn.after.state.invocations[turn.number]?).map Invocation.status =
    some turn.fate.status
  others : ∀ number ∈ territory.reach turn.before.state, number ≠ turn.number →
    turn.after.state.invocations[number]? = turn.before.state.invocations[number]?
  queue : (∀ failure, turn.fate ≠ .failed failure) →
    Extended turn.before.state turn.after.state index
  cleared : ∀ failure, turn.fate = .failed failure → turn.after.state.queue index = []
  guarded : World.Guarded anyState territory turn.after

/-- A turn that did not fail spares everything but its call. -/
theorem Effect.of_spares {turn : Turn}
    (spares : Spares territory turn.number turn.before.state turn.after.state)
    (owned : index ∈ territory.waitlists)
    (status : (turn.after.state.invocations[turn.number]?).map Invocation.status =
      some turn.fate.status)
    (unfailing : ∀ failure, turn.fate ≠ .failed failure)
    (guarded : World.Guarded anyState territory turn.after) : Effect territory index turn where
  grows := spares.toGrows
  status := status
  others := spares.others
  queue := fun _ => spares.recorded index owned
  cleared := fun failure fails => absurd fails (unfailing failure)
  guarded := guarded

variable {progress : Progress} {invocation : Invocation} {asked answered : World}

/-- Running the implementation of a call spares everything but the call. -/
theorem Calls.spares {result : Except Stop Value}
    (calls : Calls index progress number invocation world asked)
    (runs : World.Runs start asked (invoke number) result answered)
    (orders : Orders anyState start) (invokes : ∀ number, (invoke number).Guarded)
    (guarded : World.Guarded anyState territory world) (taken : number ∈ territory.calls) :
    Spares territory number world.state answered.state ∧
      World.Guarded anyState territory answered := by
  have prepares : Moves territory world.state (world.state.prepared number progress.results) :=
    moves_prepared taken _
  have prepared : Spares territory number world.state
      (world.state.prepared number progress.results) := by
    rw [CacheState.prepared] at prepares ⊢
    split
    · exact .refl
    · rename_i some
      rw [if_neg some] at prepares
      exact .withInvocation prepares
  obtain ⟨asks, guardedAsked⟩ := (guarded.move prepares trivial).tell calls.tells number
  have unowned : World.Guarded anyState (territory.union .empty) asked := by
    rwa [union_empty]
  obtain ⟨keeps, guardedAnswered, -⟩ := Ends.guarded orders runs unowned (.empty_left _)
    (invokes number asked.state guardedAsked.orderly) fun _ => trivial
  exact ⟨(prepared.trans asks).trans (.of_keeps keeps), guardedAnswered⟩

theorem Serves.effect {progress : Progress} {turn : Turn} {outcome : Outcome Progress}
    (serves : Serves start invoke index progress turn outcome)
    (orders : Orders anyState start)
    (invokes : ∀ number, (invoke number).Guarded)
    (guarded : World.Guarded anyState territory turn.before)
    (owned : index ∈ territory.waitlists) (taken : turn.number ∈ territory.calls) :
    Effect territory index turn := by
  have inside : turn.number < turn.before.state.invocations.length :=
    guarded.holds.calls turn.number taken
  cases serves with
  | skipped found unneeded tells =>
      obtain ⟨marks, guardedMarked⟩ := guarded.setStatus taken .skipped
      obtain ⟨writes, guardedTold⟩ := guardedMarked.tell tells _
      refine .of_spares (marks.trans writes) owned ?_ nofun guardedTold
      rw [tells.invocations]
      exact status_withStatus .skipped inside
  | returned calls runs readable tells =>
      obtain ⟨ran, guardedAnswered⟩ := calls.spares runs orders invokes guarded taken
      obtain ⟨marks, guardedMarked⟩ := guardedAnswered.setStatus taken .completed
      obtain ⟨writes, guardedTold⟩ := guardedMarked.tell tells _
      refine .of_spares ((ran.trans marks).trans writes) owned ?_ nofun guardedTold
      rw [tells.invocations]
      exact status_withStatus .completed (inside.trans_le ran.invocations)
  | unreadable calls runs unreadable =>
      obtain ⟨ran, guardedAnswered⟩ := calls.spares runs orders invokes guarded taken
      obtain ⟨marks, guardedMarked⟩ := guardedAnswered.setStatus taken .completed
      exact .of_spares (ran.trans marks) owned
        (status_withStatus .completed (inside.trans_le ran.invocations)) nofun guardedMarked
  | @failed number _ _ _ answered _ closed _ calls runs tells closes =>
      obtain ⟨ran, guardedAnswered⟩ := calls.spares runs orders invokes guarded taken
      obtain ⟨marks, guardedMarked⟩ := guardedAnswered.setStatus taken .failed
      have clears : Moves territory (answered.state.withStatus number .failed)
          ((answered.state.withStatus number .failed).withQueue index []) :=
        moves_withQueue owned (List.nil_sublist _)
      obtain ⟨writes, guardedTold⟩ := (guardedMarked.move clears trivial).tell tells number
      obtain ⟨closing, guardedClosed⟩ := guardedTold.tell closes number
      have spares := ran.trans marks
      have same : closed.state.invocations =
          (answered.state.withStatus number .failed).invocations := by
        rw [closes.invocations, tells.invocations]
        rfl
      exact
        { grows := ((spares.toGrows.trans clears.toGrows).trans writes.toGrows).trans
            closing.toGrows
          status := by
            rw [same]
            exact status_withStatus .failed (inside.trans_le ran.invocations)
          others := by
            rw [same]
            exact spares.others
          queue := fun fails => absurd rfl (fails _)
          cleared := fun _ _ => by
            rw [closes.queue, tells.queue]
            exact queue_cleared
          guarded := guardedClosed }

end Drain

/-! ### Taking a call -/

/-- A call goes off a waitlist of the territory and belongs to it from then on. -/
theorem World.Guarded.take {rest : List Nat} (guarded : World.Guarded anyState territory world)
    (owned : index ∈ territory.waitlists) (queued : world.state.queue index = number :: rest) :
    World.Guarded anyState (territory.taking number)
      (world.withState (world.state.withQueue index rest)) := by
  have moves : Moves territory world.state (world.state.withQueue index rest) :=
    moves_withQueue owned (by rw [queued]; exact List.sublist_cons_self _ _)
  have isQueued : number ∈ world.state.queue index := by simp [queued]
  obtain ⟨holdings, same, guards⟩ := guarded.tasks
  have others : Guards anyState (territory.taking number) world.state holdings :=
    { apart := fun holding member =>
        { waitlists := (guards.apart holding member).waitlists
          calls := fun other mine yours => by
            rcases yours with rfl | old
            · exact (guards.holds holding member).taken other mine index isQueued
            · exact (guards.apart holding member).calls other mine old }
      holds := guards.holds
      guarded := guards.guarded
      separate := guards.separate }
  exact ⟨moves.orderly guarded.orderly, trivial, holds_taking queued guarded.orderly guarded.holds
    owned, holdings, same, others.moves moves guarded.orderly guarded.holds fun holding member =>
      (guards.apart holding member).symm⟩

namespace Drain

theorem Takes.guarded {turn : Turn} (takes : Takes index world turn)
    (guarded : World.Guarded anyState territory world) (owned : index ∈ territory.waitlists) :
    World.Guarded anyState (territory.taking turn.number) turn.before := by
  obtain ⟨rest, queued, taken⟩ := takes
  rw [taken]
  exact guarded.take owned queued

theorem takes_queue {turn : Turn} {rest : List Nat}
    (queued : world.state.queue index = turn.number :: rest)
    (taken : turn.before = world.withState (world.state.withQueue index rest)) :
    turn.before.state.queue index = rest := by
  have isQueued : turn.number ∈ world.state.queue index := by simp [queued]
  rw [taken]
  change (world.state.withQueue index rest).queue index = rest
  rw [queue_withQueue rest (lt_of_mem_queue isQueued), if_pos rfl]

/-- The calls queued before a turn are the call it takes and those it leaves. -/
theorem Takes.queued {turn : Turn} (takes : Takes index world turn)
    (found : turn.before.state.invocations[turn.number]? = some turn.invocation) :
    world.state.queued index = turn.invocation :: turn.before.state.queued index := by
  obtain ⟨rest, queued, taken⟩ := takes
  have left := takes_queue queued taken
  rw [taken] at found
  rw [CacheState.queue] at queued left
  rw [CacheState.queued, queued, CacheState.queued, left, taken]
  exact List.filterMap_cons_some found

theorem Serves.found {progress : Progress} {turn : Turn} {outcome : Outcome Progress}
    (serves : Serves start invoke index progress turn outcome) :
    turn.before.state.invocations[turn.number]? = some turn.invocation := by
  cases serves with
  | skipped found => exact found
  | returned calls => exact calls.found
  | unreadable calls => exact calls.found
  | failed calls => exact calls.found

/-- A turn that adds nothing to the waitlist leaves the queued calls as they are. -/
theorem Effect.queued {turn : Turn} (effect : Effect territory index turn)
    (guarded : World.Guarded anyState territory turn.before)
    (owned : index ∈ territory.waitlists) (taken : turn.number ∈ territory.calls)
    (silent : turn.after.state.queue index = turn.before.state.queue index) :
    turn.after.state.queued index = turn.before.state.queued index := by
  rw [CacheState.queue, CacheState.queue] at silent
  rw [CacheState.queued, CacheState.queued, silent]
  apply List.filterMap_congr
  intro number member
  apply effect.others number (.inr ⟨index, owned, member⟩)
  rintro rfl
  exact guarded.holds.taken _ taken index member

end Drain

end DeferredText
