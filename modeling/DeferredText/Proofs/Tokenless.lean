import DeferredText.Proofs.Handover

/-!
Contract: resolving a text in which none of the tokens occurs.

Such a text is never changed. A call still runs if its token was passed on to a call that
is queued behind it. If no token was passed on, all calls are skipped, and skipping is all
that happens.

Owns: resolutions of texts without tokens, and the state after skipping all calls.

Does not own: resolutions of texts with tokens (`Proofs.Needed`, `Proofs.Substitution`).
-/

namespace DeferredText

open CacheState Territory

/-! ### Skipping all calls -/

namespace CacheState

/-- The state with the given calls skipped. -/
def skipping
    (state : CacheState)
    (numbers : List Nat) : CacheState :=
  numbers.foldl (fun current number => current.withStatus number .skipped) state

/-- The state with all calls of a waitlist skipped and taken off it. -/
def allSkipped
    (state : CacheState)
    (index : Nat) : CacheState :=
  (state.skipping (state.queue index)).withQueue index []

variable {state : CacheState} {index number : Nat} {numbers : List Nat}

theorem skipping_withQueue (state : CacheState) (rest : List Nat) :
    (state.withQueue index rest).skipping numbers =
      (state.skipping numbers).withQueue index rest := by
  induction numbers generalizing state with
  | nil => rfl
  | cons number later inductionHypothesis =>
      exact inductionHypothesis (state.withStatus number .skipped)

theorem skipping_withLines (state : CacheState) (lines : List String) :
    (state.withLines lines).skipping numbers = (state.skipping numbers).withLines lines := by
  induction numbers generalizing state with
  | nil => rfl
  | cons number later inductionHypothesis =>
      exact inductionHypothesis (state.withStatus number .skipped)

theorem withQueue_withQueue (first second : List Nat) :
    (state.withQueue index first).withQueue index second = state.withQueue index second := by
  by_cases inside : index < state.waitlists.length
  · simp [withQueue, setWaitlist, waitlist, List.getD, inside]
  · have beyond := Nat.le_of_not_lt inside
    have same : state.withQueue index first = state := setWaitlist_beyond _ beyond
    rw [same]

theorem withQueue_self (queue : state.queue index = numbers) :
    state.withQueue index numbers = state := by
  subst queue
  by_cases inside : index < state.waitlists.length
  · have same : { state.waitlist index with pending := state.queue index } =
        state.waitlists[index] := by
      simp [queue, waitlist, List.getD, inside]
    rw [withQueue, setWaitlist, same, List.set_getElem_self]
  · exact setWaitlist_beyond _ (Nat.le_of_not_lt inside)

/-- Skipping calls changes their status and nothing else. -/
theorem skipping_eq (state : CacheState) (numbers : List Nat) :
    state.skipping numbers =
      { state with invocations := (state.skipping numbers).invocations } := by
  induction numbers generalizing state with
  | nil => rfl
  | cons number later inductionHypothesis =>
      exact inductionHypothesis (state.withStatus number .skipped)

/-- Skipping all calls of a waitlist changes their status and takes them off it. -/
theorem allSkipped_eq (state : CacheState) (index : Nat) :
    state.allSkipped index =
      { state with
        invocations := (state.allSkipped index).invocations
        waitlists := (state.allSkipped index).waitlists } := by
  have same := skipping_eq state (state.queue index)
  rw [allSkipped, withQueue, setWaitlist]
  rw [same]

/-- What was skipped stays skipped when others are. -/
theorem status_skipping {number : Nat} (state : CacheState)
    (exist : ∀ other ∈ numbers, other < state.invocations.length)
    (skipped : number ∈ numbers ∨ state.status? number = some .skipped) :
    (state.skipping numbers).status? number = some .skipped := by
  induction numbers generalizing state with
  | nil => exact skipped.resolve_left List.not_mem_nil
  | cons head later inductionHypothesis =>
      have here : (state.withStatus head .skipped).status? head = some .skipped :=
        status_withStatus .skipped (exist head List.mem_cons_self)
      apply inductionHypothesis (state.withStatus head .skipped)
      · intro other member
        simpa [withStatus, withInvocation] using exist other (List.mem_cons_of_mem head member)
      · by_cases same : number = head
        · exact .inr (same ▸ here)
        · rcases skipped with member | before
          · exact .inl ((List.mem_cons.mp member).resolve_left same)
          · right
            simpa [status?, withStatus, withInvocation, Ne.symm same] using before

/-- A call is the same in all but its status. -/
theorem found_withStatus {status : InvocationStatus} {other : Nat} {invocation : Invocation}
    (found : (state.withStatus number status).invocations[other]? = some invocation) :
    ∃ recorded, state.invocations[other]? = some recorded ∧
      recorded.token = invocation.token ∧ recorded.name = invocation.name := by
  rw [withStatus, withInvocation, List.getElem?_modify, Option.map_eq_map,
    Option.map_eq_some_iff] at found
  obtain ⟨recorded, inside, rfl⟩ := found
  refine ⟨recorded, inside, ?_⟩
  split <;> exact ⟨rfl, rfl⟩

theorem isNeeded_withStatus (text token : String) (status : InvocationStatus) :
    Drain.isNeeded text token
        (numbers.filterMap fun other => (state.withStatus number status).invocations[other]?) =
      Drain.isNeeded text token (numbers.filterMap fun other => state.invocations[other]?) := by
  rw [Drain.isNeeded, Drain.isNeeded, List.any_filterMap, List.any_filterMap]
  congr 2
  funext other
  rw [withStatus, withInvocation, List.getElem?_modify]
  cases state.invocations[other]? with
  | none => rfl
  | some invocation => by_cases same : number = other <;> simp [same]

/-- Whether calls are needed does not depend on their status. -/
theorem needed_withStatus (text : String) (status : InvocationStatus) :
    (state.withStatus number status).needed text numbers = state.needed text numbers := by
  induction numbers with
  | nil => rfl
  | cons head later inductionHypothesis =>
      rw [needed, needed, inductionHypothesis]
      simp only [isNeeded_withStatus]
      rw [withStatus, withInvocation, List.getElem?_modify]
      cases state.invocations[head]? with
      | none => rfl
      | some invocation => by_cases same : number = head <;> simp [same]

end CacheState

namespace Drain

variable {start : Starter} {invoke : Invoke} {index : Nat} {text : String}
  {world after : World} {progress next : Progress} {turn : Turn} {turns : List Turn}

/-! ### Courses on a text without tokens -/

/-- A call that is queued has the token in an argument. -/
def PassedOn
    (queued : List Invocation)
    (token : String) : Prop :=
  ∃ invocation ∈ queued, ∃ content ∈ invocation.arguments.contents,
    containsText token content = true

theorem isNeeded_of_absent {token : String} {queued : List Invocation}
    (absent : containsText token text = false) :
    isNeeded text token queued = true ↔ PassedOn queued token := by
  rw [isNeeded, absent, Bool.false_or, List.any_eq_true]
  simp only [Arguments.mentions_iff]
  rfl

/-- The call of a turn runs exactly if it is needed. -/
theorem Serves.ran_eq {outcome : Outcome Progress}
    (serves : Serves start invoke index progress turn outcome) :
    turn.fate.ran =
      isNeeded progress.text turn.token (turn.before.state.queued index) := by
  cases serves with
  | skipped found unneeded tells => exact unneeded.symm
  | returned calls runs readable tells => exact calls.needed.symm
  | unreadable calls runs unreadable => exact calls.needed.symm
  | failed calls runs tells closes => exact calls.needed.symm

/-- A turn leaves a text without its token. -/
theorem Serves.text_kept (serves : Serves start invoke index progress turn (.ok next))
    (absent : containsText turn.token progress.text = false) : next.text = progress.text := by
  rw [serves.text_rewritten, Turn.rewritten]
  cases turn.fate.text? with
  | none => rfl
  | some result => exact replaceText_absent result absent

/-- In a text without tokens the calls run that are passed on, and the text stays. -/
theorem Course.tokenless {outcome : Outcome Progress}
    (course : Course start invoke index world progress turns outcome after)
    (absent : ∀ turn ∈ turns, containsText turn.token progress.text = false) :
    (∀ turn ∈ turns, turn.fate.ran = true ↔
      PassedOn (turn.before.state.queued index) turn.token) ∧
      ∀ final, outcome = .ok final →
        final.text = progress.text ∧ after.state.queue index = [] := by
  have decides : ∀ {progress : Progress} {turn : Turn} {outcome : Outcome Progress},
      Serves start invoke index progress turn outcome →
      containsText turn.token progress.text = false →
      (turn.fate.ran = true ↔ PassedOn (turn.before.state.queued index) turn.token) := by
    intro progress turn outcome serves missing
    rw [serves.ran_eq, isNeeded_of_absent missing]
  induction course with
  | @finished world progress empty =>
      refine ⟨fun turn member => absurd member List.not_mem_nil, ?_⟩
      rintro final ⟨⟩
      exact ⟨rfl, empty⟩
  | @further world after progress next head turns outcome takes serves _ inductionHypothesis =>
      have missing := absent head List.mem_cons_self
      have kept := serves.text_kept missing
      rw [← kept] at absent ⊢
      obtain ⟨others, ends⟩ := inductionHypothesis fun other member =>
        absent other (List.mem_cons_of_mem head member)
      refine ⟨?_, ends⟩
      intro turn member
      rcases List.mem_cons.mp member with rfl | later
      · exact decides serves missing
      · exact others turn later
  | @failed world progress head failure takes serves =>
      refine ⟨?_, nofun⟩
      intro turn member
      obtain rfl := List.mem_singleton.mp member
      exact decides serves (absent _ List.mem_cons_self)

/-- A resolution of a text in which no token of its turns occurs. -/
structure Tokenless
    (index : Nat)
    (text : String)
    (world : World)
    (turns : List Turn)
    (outcome : Outcome String)
    (after : World) : Prop where
  /-- A call runs exactly if its token was passed on to a call queued behind it. -/
  ran : ∀ turn ∈ turns, turn.fate.ran = true ↔
    PassedOn (turn.before.state.queued index) turn.token
  /-- If nothing is recorded meanwhile, those are the calls recorded behind it. -/
  recorded : Silent index turns → ∀ earlier turn later, turns = earlier ++ turn :: later →
    world.state.queued index =
      earlier.map Turn.invocation ++ turn.invocation :: turn.before.state.queued index
  /-- What is returned is the text. -/
  text : ∀ result, outcome = .ok result → result = text ∧ after.state.queue index = []

section Recorded

variable {territory : Territory}

/-- What was queued at first are the calls of the turns so far and what is queued behind. -/
theorem Course.recorded {outcome : Outcome Progress}
    (course : Course start invoke index world progress turns outcome after)
    (orders : Orders anyState start) (invokes : ∀ number, (invoke number).Guarded)
    (guarded : World.Guarded anyState territory world) (owned : index ∈ territory.waitlists)
    (silent : Silent index turns) {earlier later : List Turn}
    (split : turns = earlier ++ turn :: later) :
    world.state.queued index =
      earlier.map Turn.invocation ++ turn.invocation :: turn.before.state.queued index := by
  induction course generalizing territory earlier with
  | finished empty =>
      rcases earlier with _ | ⟨first, others⟩ <;> cases split
  | @further world after progress next head turns outcome takes serves _ inductionHypothesis =>
      have quiet := silent head List.mem_cons_self serves.unfailing
      obtain ⟨queue, -, guardedAfter⟩ := serves.queued takes orders invokes guarded owned quiet
      rcases earlier with _ | ⟨first, others⟩
      · obtain ⟨rfl, -⟩ := List.cons.inj split
        exact takes.queued serves.found
      · obtain ⟨rfl, rest⟩ := List.cons.inj split
        rw [queue, inductionHypothesis guardedAfter owned silent.tail rest]
        rfl
  | @failed world progress head failure takes serves =>
      rcases earlier with _ | ⟨first, others⟩
      · obtain ⟨rfl, -⟩ := List.cons.inj split
        exact takes.queued serves.found
      · obtain ⟨-, rest⟩ := List.cons.inj split
        rcases others with _ | ⟨second, others⟩ <;> cases rest

theorem Resolution.tokenless {outcome : Outcome String}
    (resolution : Resolution start invoke index text world turns outcome after)
    (orders : Orders anyState start) (invokes : ∀ number, (invoke number).Guarded)
    (guarded : World.Guarded anyState territory world) (owned : index ∈ territory.waitlists)
    (absent : ∀ turn ∈ turns, containsText turn.token text = false) :
    Tokenless index text world turns outcome after := by
  have recorded : ∀ {begun middle : World} {event : Event} {end_ : Outcome Progress},
      world.Tells event begun →
      Course start invoke index begun (.start text) turns end_ middle →
      Silent index turns → ∀ earlier turn later, turns = earlier ++ turn :: later →
        world.state.queued index =
          earlier.map Turn.invocation ++ turn.invocation :: turn.before.state.queued index := by
    intro begun middle event end_ begins course silent earlier turn later split
    have same : begun.state.queued index = world.state.queued index := by
      obtain ⟨lines, rfl⟩ := begins.eq
      rfl
    rw [← same]
    exact course.recorded orders invokes (guarded.tell begins 0).2 owned silent split
  cases resolution with
  | @finished begun middle after progress begins course ends =>
      obtain ⟨ran, kept⟩ := course.tokenless absent
      obtain ⟨shown, empty⟩ := kept progress rfl
      refine ⟨ran, recorded begins course, ?_⟩
      rintro result ⟨⟩
      rw [ends.queue]
      exact ⟨shown, empty⟩
  | failed begins course => exact ⟨(course.tokenless absent).1, recorded begins course, nofun⟩

end Recorded

/-! ### Courses on which all calls are skipped -/

/-- None of the queued calls is needed, and the log can tell that they are skipped. -/
structure Skippable
    (index : Nat)
    (text : String)
    (numbers : List Nat)
    (state : CacheState) : Prop where
  queue : state.queue index = numbers
  exist : ∀ number ∈ numbers, number < state.invocations.length
  unneeded : state.needed text numbers = []
  writes : ∀ number ∈ numbers, ∀ invocation, state.invocations[number]? = some invocation →
    state.Writes (.skipped (.text (state.cycleId index)) (.text invocation.name)
      (.text invocation.token))

section Skippable

variable {number : Nat} {numbers later : List Nat} {state : CacheState}

theorem Skippable.leaves (skippable : Skippable index text (number :: later) state) :
    (state.withQueue index later).queue index = later := by
  have member : number ∈ state.queue index := by simp [skippable.queue]
  rw [queue_withQueue later (lt_of_mem_queue member), if_pos rfl]

/-- The oldest call is not needed, nor are those behind it. -/
theorem Skippable.split {invocation : Invocation}
    (skippable : Skippable index text (number :: later) state)
    (found : state.invocations[number]? = some invocation) :
    isNeeded text invocation.token ((state.withQueue index later).queued index) = false ∧
      state.needed text later = [] := by
  have unneeded := skippable.unneeded
  have leaves := skippable.leaves
  rw [needed, found] at unneeded
  dsimp only at unneeded
  rw [CacheState.queue] at leaves
  rw [CacheState.queued, leaves]
  split at unneeded
  · cases unneeded
  · rename_i passed
    exact ⟨eq_false_of_ne_true passed, unneeded⟩

theorem Skippable.step (skippable : Skippable index text (number :: later) state)
    (lines : List String) :
    Skippable index text later
      (((state.withStatus number .skipped).withQueue index later).withLines lines) := by
  have inside := skippable.exist number List.mem_cons_self
  have cycle : (state.withQueue index later).cycleId index = state.cycleId index :=
    cycleId_withQueue later index
  have rest := (skippable.split (List.getElem?_eq_getElem inside)).2
  constructor
  · exact skippable.leaves
  · intro other member
    simpa [withStatus, withInvocation] using skippable.exist other (List.mem_cons_of_mem _ member)
  · have unneeded : (state.withStatus number .skipped).needed text later = [] := by
      rw [needed_withStatus, rest]
    rw [← unneeded]
    exact needed_congr fun _ _ => rfl
  · intro other member invocation found
    obtain ⟨recorded, before, token, name⟩ := found_withStatus found
    have told := skippable.writes other (List.mem_cons_of_mem _ member) recorded before
    rw [token, name, ← cycle] at told
    exact told

/-- The oldest call has its turn and is skipped. -/
theorem Skippable.skips (skippable : Skippable index progress.text (number :: later) world.state) :
    ∃ turn lines, Takes index world turn ∧
      Serves start invoke index progress turn (.ok progress.skip) ∧
      turn.after = world.withState
        (((world.state.withStatus number .skipped).withQueue index later).withLines lines) := by
  have inside := skippable.exist number List.mem_cons_self
  have found : world.state.invocations[number]? = some world.state.invocations[number] :=
    List.getElem?_eq_getElem inside
  have cycle : (world.state.withQueue index later).cycleId index = world.state.cycleId index :=
    cycleId_withQueue later index
  have writes := skippable.writes number List.mem_cons_self _ found
  rw [← cycle] at writes
  obtain ⟨lines, tells⟩ := World.tells_writes (world.withState
    ((world.state.withQueue index later).withStatus number .skipped)) writes
  have serves : Serves start invoke index progress
      ⟨number, world.state.invocations[number], .skipped,
        world.withState (world.state.withQueue index later), _⟩ (.ok progress.skip) :=
    .skipped found (skippable.split found).1 tells
  exact ⟨_, lines, ⟨later, skippable.queue, rfl⟩, serves, rfl⟩

/-- If no call is needed, a course skips them all. -/
theorem Skippable.course (start : Starter) (invoke : Invoke) (world : World) (progress : Progress)
    (skippable : Skippable index progress.text numbers world.state) :
    ∃ turns lines, turns.length = numbers.length ∧
      Course start invoke index world progress turns
        (.ok { progress with skipped := progress.skipped + numbers.length })
        (world.withState (((world.state.skipping numbers).withQueue index []).withLines lines)) := by
  induction numbers generalizing world progress with
  | nil =>
      have same : world.withState
          (((world.state.skipping []).withQueue index []).withLines world.state.lines) = world := by
        change world.withState ((world.state.withQueue index []).withLines _) = world
        rw [withQueue_self skippable.queue]
        rfl
      refine ⟨[], world.state.lines, rfl, ?_⟩
      rw [same]
      exact .finished skippable.queue
  | cons number later inductionHypothesis =>
      obtain ⟨turn, lines, takes, serves, ends⟩ := skippable.skips
      have left : Skippable index progress.skip.text later turn.after.state := by
        rw [ends]
        exact skippable.step lines
      obtain ⟨turns, moreLines, length, continues⟩ := inductionHypothesis turn.after progress.skip left
      have whole : turn.after.withState
          (((turn.after.state.skipping later).withQueue index []).withLines moreLines) =
            world.withState (((world.state.skipping (number :: later)).withQueue index []).withLines
              moreLines) := by
        rw [ends]
        change world.withState (((((((world.state.withStatus number .skipped).withQueue index
          later).withLines lines)).skipping later).withQueue index []).withLines moreLines) = _
        rw [skipping_withLines, skipping_withQueue]
        change world.withState (((((world.state.withStatus number .skipped).skipping
          later).withQueue index later).withQueue index []).withLines moreLines) = _
        rw [withQueue_withQueue]
        rfl
      have count : { progress.skip with skipped := progress.skip.skipped + later.length } =
          { progress with skipped := progress.skipped + (number :: later).length } := by
        simp [Progress.skip, Nat.add_comm, Nat.add_left_comm]
      refine ⟨turn :: turns, moreLines, congrArg (· + 1) length, ?_⟩
      rw [← whole, ← count]
      exact .further takes serves continues

end Skippable

end Drain

/-! ### Resolving a text without tokens -/

/-- What the log is told when all calls of a waitlist are skipped. -/
def CacheState.skipEvents
    (state : CacheState)
    (index : Nat) : List Event :=
  let cycle := Value.text (state.cycleId index)
  let skips := (state.queued index).map fun invocation =>
    Event.skipped cycle (.text invocation.name) (.text invocation.token)
  .started cycle (.int (state.queue index).length) :: skips ++
    [.finished cycle (.int 0) (.int (state.queue index).length)
      (.int (elapsed state.clock state.clock))]

namespace Drain

variable {index : Nat} {text : String} {world : World}

/-- Nothing is needed if no token is in the text or was passed on. -/
theorem needed_eq_nil {state : CacheState} {numbers : List Nat}
    (absent : ∀ invocation ∈ numbers.filterMap fun number => state.invocations[number]?,
      containsText invocation.token text = false)
    (unpassed : (numbers.filterMap fun number => state.invocations[number]?).Pairwise
      fun earlier later => ¬ PassedOn [later] earlier.token) :
    state.needed text numbers = [] := by
  induction numbers with
  | nil => rfl
  | cons number later inductionHypothesis =>
      rw [needed]
      cases found : state.invocations[number]? with
      | none =>
          rw [List.filterMap_cons_none found] at absent unpassed
          exact inductionHypothesis absent unpassed
      | some invocation =>
          rw [List.filterMap_cons_some found] at absent unpassed
          obtain ⟨here, rest⟩ := List.pairwise_cons.mp unpassed
          have missing := absent invocation List.mem_cons_self
          have unneeded : ¬ isNeeded text invocation.token
              (later.filterMap fun other => state.invocations[other]?) = true := by
            rw [isNeeded_of_absent missing]
            rintro ⟨receiver, queued, content, inside, contains⟩
            exact here receiver queued ⟨receiver, List.mem_singleton_self _, content, inside,
              contains⟩
          dsimp only
          rw [if_neg unneeded]
          exact inductionHypothesis (fun other member => absent other
            (List.mem_cons_of_mem _ member)) rest

/-- If no call is needed, the resolution skips them all and does nothing else. -/
theorem skipped_resolution (start : Starter) (invoke : Invoke) (orderly : world.state.Orderly)
    (unneeded : world.state.needed text (world.state.queue index) = [])
    (writes : ∀ event ∈ world.state.skipEvents index, world.state.Writes event) :
    ∃ turns lines, turns.length = (world.state.queue index).length ∧
      Resolution start invoke index text world turns (.ok text)
        (world.withState ((world.state.allSkipped index).withLines lines)) := by
  obtain ⟨firstLines, begins⟩ := World.tells_writes world (writes _ List.mem_cons_self)
  have skippable : Skippable index (Progress.start text).text (world.state.queue index)
      (world.state.withLines firstLines) := by
    refine ⟨rfl, fun number => orderly.exist index number, ?_, ?_⟩
    · rw [← unneeded]
      exact needed_congr fun _ _ => rfl
    · intro number member invocation found
      have told : Event.skipped (.text (world.state.cycleId index)) (.text invocation.name)
          (.text invocation.token) ∈ world.state.skipEvents index := by
        have queued : invocation ∈ world.state.queued index :=
          List.mem_filterMap.mpr ⟨number, member, found⟩
        rw [skipEvents]
        exact List.mem_append_left _ (List.mem_cons_of_mem _ (List.mem_map_of_mem queued))
      exact writes _ told
  obtain ⟨turns, moreLines, length, course⟩ := skippable.course start invoke
    (world.withState (world.state.withLines firstLines)) (.start text)
  have skipped : (((world.state.withLines firstLines).skipping (world.state.queue index)).withQueue
      index []).withLines moreLines = (world.state.allSkipped index).withLines moreLines := by
    rw [skipping_withLines]
    rfl
  have clock : (world.state.allSkipped index).clock = world.state.clock := by
    rw [allSkipped_eq]
  have log : (world.state.allSkipped index).log = world.state.log := by
    rw [allSkipped_eq]
  have count : { Progress.start text with
      skipped := (Progress.start text).skipped + (world.state.queue index).length } =
        (⟨text, [], 0, (world.state.queue index).length⟩ : Progress) := by
    simp [Progress.start]
  have course : Course start invoke index (world.withState (world.state.withLines firstLines))
      (.start text) turns (.ok ⟨text, [], 0, (world.state.queue index).length⟩)
      (world.withState ((world.state.allSkipped index).withLines moreLines)) := by
    rw [← skipped, ← count]
    exact course
  have last : (world.withState ((world.state.allSkipped index).withLines moreLines)).state.Writes
      (.finished (.text (world.state.cycleId index)) (.int (0 : Nat))
        (.int (world.state.queue index).length)
        (.int (elapsed world.state.clock (world.state.allSkipped index).clock))) := by
    intro settings same
    rw [clock]
    exact writes _ (by simp [skipEvents]) settings (log.symm.trans same)
  obtain ⟨lastLines, ends⟩ := World.tells_writes _ last
  exact ⟨turns, lastLines, length, .finished begins course ends⟩

end Drain

/-- A text in which no token of the waitlist occurs is returned as it is and empties the
waitlist, if the resolution returns at all. Exactly those calls run whose token was passed
on to a call queued behind them. If no token was passed on, and the log can write its lines,
the resolution returns, and all that happens is that the calls are marked as skipped. -/
theorem resolve_tokenless {limits : Limits} {current : Option Nat} {index : Nat} {text : String}
    {world : World}
    (guarded : World.Guarded anyState (.ofWaitlist index) world)
    (enough : (world.state.queue index).length < limits.steps)
    (absent : ∀ invocation ∈ world.state.queued index,
      containsText invocation.token text = false) :
    (∀ turns outcome after,
      Drain.Resolution (Cache.startRender limits) (Cache.resolver limits current index) index text
        world turns outcome after →
      turns.length < limits.steps → (∀ turn ∈ turns, containsText turn.token text = false) →
        (∃ fuel, ∀ more, fuel ≤ more →
          world.run (Cache.startRender limits) more
            (Cache.resolve limits current none (some index) text) =
              (Outcome.asResult (outcome.map some), after)) ∧
        Drain.Tokenless index text world turns outcome after) ∧
    ((world.state.queued index).Pairwise
        (fun earlier later => ¬ Drain.PassedOn [later] earlier.token) →
      (∀ event ∈ world.state.skipEvents index, world.state.Writes event) →
        ∃ lines after, after = world.withState ((world.state.allSkipped index).withLines lines) ∧
          (∃ fuel, ∀ more, fuel ≤ more →
            world.run (Cache.startRender limits) more
              (Cache.resolve limits current none (some index) text) = (.ok (some text), after)) ∧
          after.state.queue index = [] ∧ after.state.calls = world.state.calls ∧
          ∀ number ∈ world.state.queue index, after.state.status? number = some .skipped) := by
  constructor
  · intro turns outcome after resolution few clean
    exact ⟨(Cache.resolve_runs resolution few).run,
      resolution.tokenless (Cache.orders limits) (Cache.guarded_resolver index) guarded rfl clean⟩
  · intro unpassed writes
    have unneeded : world.state.needed text (world.state.queue index) = [] :=
      Drain.needed_eq_nil absent unpassed
    obtain ⟨turns, lines, length, resolution⟩ := Drain.skipped_resolution
      (Cache.startRender limits) (Cache.resolver limits current index) guarded.orderly unneeded writes
    refine ⟨lines, _, rfl, (Cache.resolve_runs resolution (length ▸ enough)).run, queue_cleared,
      ?_, ?_⟩
    · change (world.state.allSkipped index).calls = _
      rw [allSkipped_eq]
    · intro number member
      exact status_skipping world.state (fun other => guarded.orderly.exist index other)
        (.inl member)

/-! ### A token that was passed on -/

namespace Sample

/-- The call that received the first token, when nothing needs it. -/
def dropped : Turn :=
  { number := 1
    invocation := { call "<y>" (.text "2") with
      arguments := .ofPositional [.list [.text "a<x>"]] }
    fate := .skipped
    before := ⟨passed.after.state.withQueue 0 [], []⟩
    after := ⟨(passed.after.state.withQueue 0 []).withStatus 1 .skipped, []⟩ }

theorem passed_serves_plain :
    Drain.Serves (Cache.startRender limits) (Cache.resolver limits none 0) 0 (.start "plain")
      passed (.ok ⟨"plain", [("<x>", "1")], 1, 0⟩) := by
  exact .returned_silently rfl rfl rfl (by decide) rfl rfl

theorem dropped_serves :
    Drain.Serves (Cache.startRender limits) (Cache.resolver limits none 0) 0
      ⟨"plain", [("<x>", "1")], 1, 0⟩ dropped (.ok ⟨"plain", [("<x>", "1")], 1, 1⟩) := by
  exact .skipped_silently rfl rfl (by decide)

theorem plain_resolution :
    Drain.Resolution (Cache.startRender limits) (Cache.resolver limits none 0) 0 "plain"
      (.ofState passing) [passed, dropped] (.ok "plain") dropped.after :=
  .finished ⟨rfl, rfl⟩ (.further ⟨[1], rfl, rfl⟩ passed_serves_plain
    (.further ⟨[], rfl, rfl⟩ dropped_serves (.finished rfl))) ⟨rfl, rfl⟩

/-- One waitlist with a token that was passed on, and one without. -/
theorem resolve_plain :
    Drain.Tokenless 0 "plain" (.ofState passing) [passed, dropped] (.ok "plain") dropped.after ∧
      ∃ lines after, after = (World.ofState two).withState ((two.allSkipped 0).withLines lines) ∧
        (∃ fuel, ∀ more, fuel ≤ more →
          (World.ofState two).run (Cache.startRender limits) more
            (Cache.resolve limits none none (some 0) "plain") = (.ok (some "plain"), after)) ∧
        after.state.queue 0 = [] ∧ after.state.calls = two.calls ∧
        ∀ number ∈ two.queue 0, after.state.status? number = some .skipped := by
  constructor
  · refine ((resolve_tokenless (guarded_cache _) (by decide) ?_).1 _ _ _ plain_resolution
      (by decide) ?_).2
    · intro invocation member
      change invocation ∈ [_, _] at member
      simp only [List.mem_cons, List.not_mem_nil, or_false] at member
      rcases member with rfl | rfl <;> decide
    · intro turn member
      simp only [List.mem_cons, List.not_mem_nil, or_false] at member
      rcases member with rfl | rfl <;> decide
  · refine (resolve_tokenless (guarded_cache _) (by decide) ?_).2 ?_ ?_
    · intro invocation member
      change invocation ∈ [_, _] at member
      simp only [List.mem_cons, List.not_mem_nil, or_false] at member
      rcases member with rfl | rfl <;> decide
    · change List.Pairwise _ [_, _]
      rw [List.pairwise_pair]
      rintro ⟨receiver, member, content, inside, -⟩
      obtain rfl := List.mem_singleton.mp member
      cases inside
    · intro event _ settings same
      cases same

/-- The first call runs, though neither token is in the text. -/
theorem resolve_passing_plain :
    (∃ fuel, ∀ more, fuel ≤ more →
      (World.ofState passing).run (Cache.startRender limits) more
        (Cache.resolve limits none none (some 0) "plain") = (.ok (some "plain"), dropped.after)) ∧
      (∀ token ∈ passing.tokens 0, containsText token "plain" = false) ∧
      dropped.after.state.calls.map CallNote.label = ["helper"] := by
  exact ⟨(Cache.resolve_runs plain_resolution (by decide)).run, by decide, rfl⟩

end Sample

end DeferredText
