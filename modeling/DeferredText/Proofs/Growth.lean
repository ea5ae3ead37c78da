import DeferredText.Proofs.Relay
import DeferredText.Proofs.Replay

/-!
Contract: a waitlist that grows while it is drained.

A turn takes the oldest call off the waitlist, and what its implementation records goes to
the end of the same waitlist. So the calls are taken in the order in which they were recorded,
those that were queued first and then those that were recorded meanwhile.

Owns: the effect of a turn on a waitlist that is recorded in, the order of the turns, and that
a resolution that returned has a course.

Does not own: what becomes of the text (`Proofs.Rounds`).
-/

namespace DeferredText

open CacheState

/-! ### Calls appended while one of them is run -/

/-- Calls were recorded at the end of the waitlist, and of the calls before them only the one
that is run has changed. -/
structure Appends
    (index number : Nat)
    (added : List Invocation)
    (before after : CacheState) : Prop where
  inside : number < before.invocations.length
  tokens : after.invocations.map Invocation.token =
    before.invocations.map Invocation.token ++ added.map Invocation.token
  queue : after.queue index =
    before.queue index ++ List.range' before.invocations.length added.length
  others : ∀ other < before.invocations.length, other ≠ number →
    after.invocations[other]? = before.invocations[other]?
  recorded : ∀ offset call, added[offset]? = some call →
    after.invocations[before.invocations.length + offset]? = some call
  waitlists : after.waitlists.length = before.waitlists.length
  shape : after.shape = before.shape
  registry : after.registry = before.registry
  fallback : after.defaultWaitlist = before.defaultWaitlist

section Appends

variable {index number : Nat} {added more : List Invocation} {before middle after state : CacheState}

theorem Appends.length (appends : Appends index number added before after) :
    after.invocations.length = before.invocations.length + added.length := by
  have lengths := congrArg List.length appends.tokens
  simpa using lengths

theorem Appends.still (appends : Appends index number added before after) :
    number < after.invocations.length := by
  rw [appends.length]
  exact appends.inside.trans_le (Nat.le_add_right _ _)

theorem Appends.trans (first : Appends index number added before middle)
    (second : Appends index number more middle after) :
    Appends index number (added ++ more) before after where
  inside := first.inside
  tokens := by rw [second.tokens, first.tokens, List.map_append, List.append_assoc]
  queue := by
    rw [second.queue, first.queue, first.length, List.append_assoc, List.length_append,
      ← List.range'_append_1]
  others := fun other old distinct =>
    (second.others other (by rw [first.length]; omega) distinct).trans
      (first.others other old distinct)
  recorded := by
    intro offset call at_
    by_cases early : offset < added.length
    · rw [List.getElem?_append_left early] at at_
      have distinct : before.invocations.length + offset ≠ number := by
        have := first.inside
        omega
      rw [second.others _ (by rw [first.length]; omega) distinct]
      exact first.recorded offset call at_
    · rw [List.getElem?_append_right (Nat.le_of_not_lt early)] at at_
      have found := second.recorded _ call at_
      rw [first.length] at found
      rwa [Nat.add_assoc, Nat.add_sub_cancel' (Nat.le_of_not_lt early)] at found
  waitlists := second.waitlists.trans first.waitlists
  shape := second.shape.trans first.shape
  registry := second.registry.trans first.registry
  fallback := second.fallback.trans first.fallback

theorem Enqueues.appends (enqueues : Enqueues index added before after)
    (inside : number < before.invocations.length) : Appends index number added before after where
  inside := inside
  tokens := by rw [enqueues.invocations, List.map_append]
  queue := enqueues.queue
  others := fun other old _ => by rw [enqueues.invocations, List.getElem?_append_left old]
  recorded := fun offset call at_ => by
    rw [enqueues.invocations, List.getElem?_append_right (Nat.le_add_right _ _),
      Nat.add_sub_cancel_left]
    exact at_
  waitlists := enqueues.waitlists
  shape := enqueues.shape
  registry := enqueues.registry
  fallback := enqueues.fallback

theorem appends_withInvocation {change : Invocation → Invocation}
    (inside : number < state.invocations.length)
    (same : ∀ invocation, (change invocation).token = invocation.token) :
    Appends index number [] state (state.withInvocation number change) where
  inside := inside
  tokens := by
    rw [List.map_nil, List.append_nil]
    apply List.ext_getElem?
    intro place
    rw [List.getElem?_map, List.getElem?_map, withInvocation, List.getElem?_modify]
    cases state.invocations[place]? with
    | none => rfl
    | some invocation =>
        by_cases here : number = place
        · simp [here, same]
        · simp [here]
  queue := (List.append_nil _).symm
  others := fun other _ distinct => by
    simp [withInvocation, Ne.symm distinct]
  recorded := fun offset call at_ => by simp at at_
  waitlists := rfl
  shape := rfl
  registry := rfl
  fallback := rfl

theorem appends_prepared (results : Results) (inside : number < state.invocations.length) :
    Appends index number [] state (state.prepared number results) := by
  rw [prepared]
  split
  · exact (Enqueues.refl index state).appends inside
  · exact appends_withInvocation inside fun _ => rfl

theorem appends_withLines (lines : List String) (inside : number < state.invocations.length) :
    Appends index number [] state (state.withLines lines) := by
  have untouched : Enqueues index [] state (state.withLines lines) := enqueues_of_core rfl
  exact untouched.appends inside

/-- The queued calls are those that were queued, and then those that were recorded. -/
theorem Appends.queued (appends : Appends index number added before after)
    (exist : ∀ other ∈ before.queue index, other < before.invocations.length)
    (taken : number ∉ before.queue index) :
    after.queued index = before.queued index ++ added := by
  have queue := appends.queue
  rw [CacheState.queue] at queue
  rw [CacheState.queued, queue, List.filterMap_append, filterMap_range' appends.recorded]
  congr 1
  apply List.filterMap_congr
  intro other member
  exact appends.others other (exist other member) fun same => taken (same ▸ member)

end Appends

/-! ### Relaying worlds -/

/-- Calls made now are recorded in the waitlist, and those that are queued there have tokens
and relaying targets, and are in the order in which they were recorded. Nothing that is due
wakes another task. -/
structure World.Relaying
    (current : Option Nat)
    (index : Nat)
    (registry : Registry)
    (world : World) : Prop extends World.Calm world where
  hosts : Hosts current index registry world.state
  recorded : ∀ number ∈ world.state.queue index, ∃ call,
    world.state.invocations[number]? = some call ∧ IsToken call.token ∧
      call.target.Relays registry
  ordered : (world.state.queue index).Pairwise (· < ·)

/-- What a turn did: it recorded calls, put together from what its implementation was handed
and from one another's tokens, and the text it returned is put together from the same. -/
structure Turn.Grows
    (index : Nat)
    (registry : Registry)
    (results : Results)
    (added : List Invocation)
    (turn : Turn) : Prop where
  appends : Appends index turn.number added turn.before.state turn.after.state
  relayed : Relayed registry
    (Drain.handed results turn.invocation.arguments).contents added
  answer : ∀ value text, turn.fate = .returned value text →
    Composed ((Drain.handed results turn.invocation.arguments).contents ++
      added.map Invocation.token) text
  idle : turn.fate = .skipped → added = []

section Relaying

variable {start : Starter} {limits : Limits} {current : Option Nat} {index number : Nat}
  {registry : Registry} {world after : World} {progress next final : Progress} {turn : Turn}
  {turns : List Turn} {added : List Invocation}

theorem World.Relaying.exist (relaying : world.Relaying current index registry) :
    ∀ other ∈ world.state.queue index, other < world.state.invocations.length := by
  intro other member
  obtain ⟨call, found, -⟩ := relaying.recorded other member
  exact (List.getElem?_eq_some_iff.mp found).1

/-- Telling an event leaves the world relaying. -/
theorem World.Relaying.tells {told : World} {event : Event}
    (relaying : world.Relaying current index registry) (tells : world.Tells event told) :
    told.Relaying current index registry := by
  obtain ⟨lines, rfl⟩ := tells.eq
  have untouched : Enqueues index [] world.state (world.state.withLines lines) :=
    enqueues_of_core rfl
  exact ⟨relaying.toCalm.of_same rfl rfl, relaying.hosts.enqueues untouched, relaying.recorded,
    relaying.ordered⟩

/-- The oldest call leaves the others queued. -/
theorem World.Relaying.take (relaying : world.Relaying current index registry)
    (takes : Drain.Takes index world turn) :
    turn.before.Relaying current index registry ∧
      world.state.queue index = turn.number :: turn.before.state.queue index ∧
      turn.before.state.invocations = world.state.invocations ∧
      turn.number ∉ turn.before.state.queue index := by
  obtain ⟨rest, queued, taken⟩ := takes
  have left := Drain.takes_queue queued taken
  have ordered := relaying.ordered
  rw [queued] at ordered
  have hosts := relaying.hosts
  rw [← left] at queued ordered
  obtain ⟨first, others⟩ := List.pairwise_cons.mp ordered
  refine ⟨⟨?_, ?_, ?_, others⟩, queued, by rw [taken]; rfl,
    fun member => absurd (first turn.number member) (Nat.lt_irrefl _)⟩
  · rw [taken]
    exact relaying.toCalm.of_same rfl rfl
  · rw [taken]
    refine ⟨hosts.recording, ?_, hosts.shape, hosts.registry⟩
    change index < (List.set _ _ _).length
    rw [List.length_set]
    exact hosts.inside
  · intro number member
    have found := relaying.recorded number (by rw [queued]; exact List.mem_cons_of_mem _ member)
    rw [taken]
    exact found

/-- What a turn did that went through. -/
theorem World.Relaying.grows (relaying : turn.before.Relaying current index registry)
    (targets : registry.Relays) (relays : turn.invocation.target.Relays registry)
    (serves : Drain.Serves start (Cache.resolver limits current index) index progress turn
      (.ok next)) :
    turn.after.Calm ∧ ∃ added, turn.Grows index registry progress.results added := by
  have inside : turn.number < turn.before.state.invocations.length :=
    (List.getElem?_eq_some_iff.mp serves.found).1
  cases serves with
  | @skipped number invocation before told found unneeded tells =>
      obtain ⟨lines, rfl⟩ := tells.eq
      refine ⟨relaying.toCalm.of_same rfl rfl, [], ?_, relayed_nil _ _, by rintro _ _ ⟨⟩,
        fun _ => rfl⟩
      have marks : Appends index number [] before.state (before.state.withStatus number .skipped) :=
        appends_withInvocation inside fun _ => rfl
      exact marks.trans (appends_withLines lines marks.still)
  | @returned number invocation before asked answered told value text calls runs readable tells =>
      obtain ⟨lines, rfl⟩ := calls.tells.eq
      obtain ⟨more, rfl⟩ := tells.eq
      have prepares : Appends index number [] before.state
          (before.state.prepared number progress.results) := appends_prepared _ inside
      have asks := prepares.trans (appends_withLines lines prepares.still)
      have kept : ∀ state : CacheState, (state.prepared number progress.results).promises =
          state.promises ∧ (state.prepared number progress.results).ready = state.ready := by
        intro state
        rw [prepared]
        split <;> exact ⟨rfl, rfl⟩
      have hosts : Hosts current index registry
          ((before.state.prepared number progress.results).withLines lines) :=
        ⟨by
          rw [CacheState.recording, asks.fallback]
          exact relaying.hosts.recording, asks.waitlists.symm ▸ relaying.hosts.inside,
          asks.shape.symm ▸ relaying.hosts.shape, asks.registry.trans relaying.hosts.registry⟩
      have calm : World.Calm ⟨(before.state.prepared number progress.results).withLines lines,
          before.suspended⟩ :=
        relaying.toCalm.of_same (kept before.state).1 (kept before.state).2
      let handed : Invocation :=
        { invocation with arguments := Drain.handed progress.results invocation.arguments }
      have found : ((before.state.prepared number progress.results).withLines
          lines).invocations[number]? = some handed :=
        Drain.prepared_found progress.results calls.found
      have isRelay : handed.target.Relays registry := relays
      obtain ⟨added, enqueues, relayed, answers, calmAfter⟩ :=
        isRelay.runs found targets hosts calm runs
      have ran := asks.trans (enqueues.appends asks.still)
      have marks : Appends index number [] answered.state
          (answered.state.withStatus number .completed) :=
        appends_withInvocation ran.still fun _ => rfl
      have told := (ran.trans marks).trans (appends_withLines more (ran.trans marks).still)
      rw [List.nil_append, List.nil_append, List.append_nil, List.append_nil] at told
      refine ⟨calmAfter.of_same rfl rfl, added, told, relayed, ?_, by rintro ⟨⟩⟩
      · intro given shown same
        cases same
        exact answers text readable

/-- The world is relaying after the turn as well. -/
theorem World.Relaying.afterwards (relaying : turn.before.Relaying current index registry)
    (taken : turn.number ∉ turn.before.state.queue index) (calm : turn.after.Calm)
    {results : Results} (grows : turn.Grows index registry results added) :
    turn.after.Relaying current index registry := by
  have appends := grows.appends
  have hosts := relaying.hosts
  refine ⟨calm, ⟨?_, appends.waitlists.symm ▸ hosts.inside, appends.shape.symm ▸ hosts.shape,
    appends.registry.trans hosts.registry⟩, ?_, ?_⟩
  · rw [CacheState.recording, appends.fallback]
    exact hosts.recording
  · intro number member
    rw [appends.queue] at member
    rcases List.mem_append.mp member with old | new
    · obtain ⟨call, found, isToken, relays⟩ := relaying.recorded number old
      refine ⟨call, ?_, isToken, relays⟩
      rw [appends.others number (relaying.exist number old) fun same => taken (same ▸ old)]
      exact found
    · obtain ⟨offset, below, rfl⟩ := List.mem_range'.mp new
      rw [Nat.one_mul]
      have at_ : added[offset]? = some added[offset] := List.getElem?_eq_getElem below
      have isAdded : added[offset] ∈ added := List.getElem_mem below
      exact ⟨added[offset], appends.recorded offset _ at_, grows.relayed.tokens _ isAdded,
        grows.relayed.targets _ isAdded⟩
  · rw [appends.queue, List.pairwise_append]
    refine ⟨relaying.ordered, List.pairwise_lt_range', ?_⟩
    intro old isOld new isNew
    exact (relaying.exist old isOld).trans_le (List.mem_range'_1.mp isNew).1

/-- One turn in a relaying world. -/
theorem World.Relaying.step (relaying : world.Relaying current index registry)
    (targets : registry.Relays) (takes : Drain.Takes index world turn)
    (serves : Drain.Serves start (Cache.resolver limits current index) index progress turn
      (.ok next)) :
    turn.after.Relaying current index registry ∧
      ∃ added, turn.Grows index registry progress.results added := by
  obtain ⟨before, queued, same, taken⟩ := relaying.take takes
  obtain ⟨call, found, -, relays⟩ := relaying.recorded turn.number (queued ▸ List.mem_cons_self)
  have isCall := serves.found
  rw [same, found] at isCall
  cases isCall
  obtain ⟨calm, added, grows⟩ := before.grows targets relays serves
  exact ⟨before.afterwards taken calm grows, added, grows⟩

/-! ### The order of the turns -/

/-- The turns take the calls that were queued, and then those that are recorded meanwhile, all
in the order in which they were recorded. -/
theorem Drain.Course.order
    (course : Course start (Cache.resolver limits current index) index world progress turns
      (.ok final) after)
    (targets : registry.Relays) (relaying : world.Relaying current index registry) :
    ∃ later, after.state.invocations.map Invocation.token =
        world.state.invocations.map Invocation.token ++ later ∧
      turns.map Turn.number =
        world.state.queue index ++ List.range' world.state.invocations.length later.length ∧
      after.state.queue index = [] := by
  generalize ends : Except.ok final = outcome at course
  induction course with
  | finished empty => exact ⟨[], (List.append_nil _).symm, by rw [empty]; rfl, empty⟩
  | @further world after progress next turn turns outcome takes serves _ inductionHypothesis =>
      obtain ⟨relayingAfter, added, grows⟩ := relaying.step targets takes serves
      obtain ⟨-, queued, same, -⟩ := relaying.take takes
      obtain ⟨later, tokens, numbers, empty⟩ := inductionHypothesis relayingAfter ends
      have appends := grows.appends
      refine ⟨added.map Invocation.token ++ later, ?_, ?_, empty⟩
      · rw [tokens, appends.tokens, same, List.append_assoc]
      · rw [List.map_cons, numbers, appends.queue, appends.length, queued, same,
          List.length_append, List.length_map, ← List.range'_append_1, List.cons_append,
          List.append_assoc]
  | failed => cases ends

/-- A resolution that returned has a course. -/
theorem World.Relaying.resolution {given : Option Nat} {text : String} {returned : Option String}
    (relaying : world.Relaying current index registry) (targets : registry.Relays)
    (takes : Cache.takeWaitlist given current world.state = (.ok index, world.state))
    (runs : World.Runs start world (Cache.resolve limits current none given text) (.ok returned)
      after) :
    ∃ turns result, returned = some result ∧
      Drain.Resolution start (Cache.resolver limits current index) index text world turns
        (.ok result) after :=
  Cache.resolution_of_resolve takes (fun tells => relaying.tells tells)
    (fun _ held => World.Relaying.exist held)
    (fun _ _ _ _ held takes serves => (held.step targets takes serves).1) runs

end Relaying

end DeferredText
