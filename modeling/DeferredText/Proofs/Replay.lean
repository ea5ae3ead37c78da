import DeferredText.Proofs.Handover
import DeferredText.Proofs.Lockstep

/-!
Contract: the resolution of calls that were recorded on a thread.

The calls are run in the order in which they were recorded, each with its earlier tokens
replaced, and each of them is needed: its token is in the text, or in the arguments of a
call behind it.

Owns: the answers of recorded calls, what running a helper of a family does, and the
course of a resolution that runs all calls.

Does not own: what the same calls answer when they are made directly (`Proofs.Lockstep`).
-/

namespace DeferredText

open CacheState

/-! ### Answers of recorded calls -/

namespace Library

variable {library : Library} {results : Results} {calls first second : List Invocation}
  {known : List String} {texts : List String}

/-- What a recorded call answers when it is run. -/
def answerTo
    (library : Library)
    (results : Results)
    (call : Invocation) : String :=
  ((library.family call.name).map fun member =>
    member.answer (call.arguments.substitute results)).getD ""

/-- The answers of calls that are run one after the other. -/
def solve
    (library : Library)
    (results : Results) : List Invocation → Results
  | [] => results
  | call :: rest => solve library (results ++ [(call.token, library.answerTo results call)]) rest

theorem solve_append (first second : List Invocation) :
    library.solve results (first ++ second) =
      library.solve (library.solve results first) second := by
  induction first generalizing results with
  | nil => rfl
  | cons call rest inductionHypothesis => exact inductionHypothesis

/-- Answers are added, one for every call. -/
theorem solve_adds (results : Results) (calls : List Invocation) :
    ∃ more, library.solve results calls = results ++ more ∧
      more.map Prod.fst = calls.map Invocation.token := by
  induction calls generalizing results with
  | nil => exact ⟨[], (List.append_nil _).symm, rfl⟩
  | cons call rest inductionHypothesis =>
      obtain ⟨more, whole, tokens⟩ :=
        inductionHypothesis (results ++ [(call.token, library.answerTo results call)])
      refine ⟨(call.token, library.answerTo results call) :: more, ?_, ?_⟩
      · rw [solve, whole, List.append_assoc]
        rfl
      · rw [List.map_cons, tokens, List.map_cons]

theorem tokens_solve (calls : List Invocation) :
    (library.solve [] calls).map Prod.fst = calls.map Invocation.token := by
  obtain ⟨more, whole, tokens⟩ := library.solve_adds [] calls
  rw [whole, List.nil_append, tokens]

theorem isPlain_answerTo {call : Invocation} (defers : library.Defers call) :
    IsPlain (library.answerTo results call) := by
  obtain ⟨member, isMember, -⟩ := defers
  rw [answerTo, isMember]
  exact library.plain call.name member isMember _

theorem clean_solve (clean : results.Clean)
    (defers : ∀ call ∈ calls, library.Defers call ∧ IsToken call.token)
    (distinct : (results.map Prod.fst ++ calls.map Invocation.token).Nodup) :
    (library.solve results calls).Clean := by
  induction calls generalizing results with
  | nil => exact clean
  | cons call rest inductionHypothesis =>
      obtain ⟨defersCall, isToken⟩ := defers call List.mem_cons_self
      have longer : ((results ++ [(call.token, library.answerTo results call)]).map Prod.fst ++
          rest.map Invocation.token).Nodup := by
        rw [List.map_append, List.append_assoc]
        exact distinct
      have unset : call.token ∉ results.map Prod.fst := fun member =>
        (List.nodup_append.mp distinct).2.2 _ member _ List.mem_cons_self rfl
      exact inductionHypothesis (clean.snoc isToken unset (isPlain_answerTo defersCall))
        (fun other member => defers other (List.mem_cons_of_mem call member)) longer

end Library

section Thread

variable {library : Library} {calls : List Invocation} {texts : List String}

theorem Thread.clean (thread : Thread library [] calls texts)
    (distinct : (calls.map Invocation.token).Nodup) : (library.solve [] calls).Clean :=
  library.clean_solve Results.clean_nil thread.defers distinct

/-- The arguments of a call wait for nothing but the answers of the calls before it. -/
theorem Thread.settled (thread : Thread library [] calls texts)
    (distinct : (calls.map Invocation.token).Nodup) {earlier later : List Invocation}
    {call : Invocation} (split : calls = earlier ++ call :: later) :
    call.arguments.substitute (library.solve [] earlier) =
      call.arguments.substitute (library.solve [] calls) := by
  obtain ⟨more, whole, -⟩ := library.solve_adds (library.solve [] earlier) (call :: later)
  have clean := thread.clean distinct
  rw [split, Library.solve_append, whole] at clean ⊢
  apply Arguments.substitute_congr
  intro text member
  have written := thread.arguments earlier call later split text member
  rw [List.nil_append, ← library.tokens_solve] at written
  exact (clean.applyTo_enough written).symm

/-- All answers together solve the calls. -/
theorem Thread.solves (thread : Thread library [] calls texts)
    (distinct : (calls.map Invocation.token).Nodup) :
    library.Solves (library.solve [] calls) calls := by
  intro call among member isMember
  obtain ⟨earlier, later, split⟩ := List.append_of_mem among
  rw [← thread.settled distinct split]
  have here : library.solve [] calls = library.solve (library.solve [] earlier ++
      [(call.token, library.answerTo (library.solve [] earlier) call)]) later := by
    rw [split, Library.solve_append]
    rfl
  obtain ⟨more, whole, -⟩ := library.solve_adds (library.solve [] earlier ++
      [(call.token, library.answerTo (library.solve [] earlier) call)]) later
  rw [here, whole, Library.answerTo, isMember]
  simp

end Thread

/-! ### Progress with results -/

/-- The resolution of a text has come to results, and they are in the text. -/
structure Progress.Stands (progress : Progress) (source : String) (known : Results) : Prop where
  results : progress.results = known
  text : progress.text = known.applyTo source

theorem Progress.stands_start (source : String) : (start source).Stands source [] :=
  ⟨rfl, rfl⟩

/-- A token that has no result yet gets one. -/
theorem Progress.Stands.complete {progress : Progress} {source token result : String}
    {known : Results} (stands : progress.Stands source known)
    (unset : token ∉ known.map Prod.fst) :
    (progress.complete token result).Stands source (known ++ [(token, result)]) where
  results := by
    rw [← stands.results] at unset ⊢
    exact Results.set_of_notMem unset
  text := by
    rw [Results.applyTo_append, ← stands.text]
    rfl

/-- When tokens are distinct, no call that was recorded earlier has the token of a later one. -/
theorem Invocation.token_notMem {calls earlier later : List Invocation} {call : Invocation}
    (distinct : (calls.map Invocation.token).Nodup) (split : calls = earlier ++ call :: later) :
    call.token ∉ earlier.map Invocation.token := by
  rw [split, List.map_append, List.nodup_append] at distinct
  exact fun inside => distinct.2.2 _ inside _ List.mem_cons_self rfl

/-! ### Running a helper of the family -/

section Running

variable {start : Starter} {limits : Limits} {current : Option Nat} {index number : Nat}
  {render : NestedRender} {world : World} {call : Invocation} {member : Member}

/-- The state after a helper was started and noted with its arguments, when nothing is due. -/
def CacheState.answered
    (state : CacheState)
    (number : Nat)
    (note : CallNote)
    (promises : List Promise) : CacheState :=
  { state with
    started := state.started ++ [number]
    calls := state.calls ++ [note]
    promises := promises
    ready := [] }

@[simp]
theorem CacheState.queue_answered {state : CacheState} {note : CallNote} {promises : List Promise}
    (other : Nat) : (state.answered number note promises).queue other = state.queue other := by
  rfl

/-- A promise that is settled at once is awaited over two deliveries. -/
theorem ends_settled {state : CacheState} {suspended : List Suspended} {promise : Nat}
    {value : Value} {name cycle : String}
    {before after : List Promise} (ready : state.ready = [.settle promise (.result value)])
    (promises : state.promises = before ++ ⟨name, cycle, none⟩ :: after)
    (number : promise = before.length) :
    Ends start suspended ((Task.await promise : Task CacheState Value) state) (.ok value)
      ⟨{ state with
          ready := []
          promises := before ++ ⟨name, cycle, some (.ok value)⟩ :: after }, suspended⟩ := by
  subst number
  have due : World.next? ⟨state, suspended⟩ =
      some (.settle before.length (.result value), ⟨{ state with ready := [] }, suspended⟩) := by
    rw [World.next?]
    dsimp only
    rw [ready]
  have sleeps : World.wakes ⟨{ state with ready := [] }, suspended⟩ before.length
      (.settle before.length (.result value)) = none := rfl
  have settles : World.deliver start ⟨{ state with ready := [] }, suspended⟩
      (.settle before.length (.result value)) =
        ⟨{ state with
            ready := [.resume before.length]
            promises := before ++ ⟨name, cycle, some (.ok value)⟩ :: after }, suspended⟩ := by
    have found : state.promises[before.length]? = some ⟨name, cycle, none⟩ := by
      rw [promises]
      simp
    have set : state.promises.set before.length ⟨name, cycle, some (.ok value)⟩ =
        before ++ ⟨name, cycle, some (.ok value)⟩ :: after := by
      rw [promises]
      simp
    have acts : settle before.length (.result value) { state with ready := [] } =
        (.ok (), { state with
          ready := [.resume before.length]
          promises := before ++ ⟨name, cycle, some (.ok value)⟩ :: after }) := by
      have reads : (get : CacheAction CacheState) { state with ready := [] } =
          (.ok { state with ready := [] }, { state with ready := [] }) := rfl
      rw [settle]
      apply Action.bind_ok reads
      rw [found, ← set]
      rfl
    rw [World.deliver, acts]
  refine .delivered due sleeps ?_
  rw [settles]
  have dueNext : World.next? ⟨{ state with
      ready := [.resume before.length]
      promises := before ++ ⟨name, cycle, some (.ok value)⟩ :: after }, suspended⟩ =
        some (.resume before.length, ⟨{ state with
          ready := []
          promises := before ++ ⟨name, cycle, some (.ok value)⟩ :: after }, suspended⟩) := rfl
  have wakes : World.wakes ⟨{ state with
      ready := []
      promises := before ++ ⟨name, cycle, some (.ok value)⟩ :: after }, suspended⟩ before.length
        (.resume before.length) = some (.ok value) := by
    simp [World.wakes, Delivery.resumes, World.outcome?]
  exact .resumed dueNext wakes .done

/-- A completion that is postponed is awaited over one more delivery. -/
theorem ends_completed {state : CacheState} {suspended : List Suspended} {promise : Nat}
    {value : Value} {name cycle : String}
    {before after : List Promise} (ready : state.ready = [.complete promise (.result value)])
    (promises : state.promises = before ++ ⟨name, cycle, none⟩ :: after)
    (number : promise = before.length) :
    Ends start suspended ((Task.await promise : Task CacheState Value) state) (.ok value)
      ⟨{ state with
          ready := []
          promises := before ++ ⟨name, cycle, some (.ok value)⟩ :: after }, suspended⟩ := by
  have due : World.next? ⟨state, suspended⟩ =
      some (.complete promise (.result value), ⟨{ state with ready := [] }, suspended⟩) := by
    rw [World.next?]
    dsimp only
    rw [ready]
  have settles : Ends start suspended ((Task.await promise : Task CacheState Value)
      { state with ready := [.settle promise (.result value)] }) (.ok value)
        ⟨{ state with
          ready := []
          promises := before ++ ⟨name, cycle, some (.ok value)⟩ :: after }, suspended⟩ :=
    ends_settled rfl promises number
  exact .delivered due rfl settles

/-- A handler that leaves a delivery to its promise, by which the promise is settled. -/
theorem runs_callback {label : String} {shape : Shape} {run : Arguments → Handler} {value : Value}
    {delivery : Nat → Delivery} (found : world.state.invocations[number]? = some call)
    (target : call.target = .helper ⟨label, shape, .callback run⟩) (calm : world.state.ready = [])
    (schedules : ∀ promise state,
      (run call.arguments).run (runRoutine limits current) promise current state =
        (.ok (), { state with ready := state.ready ++ [delivery promise] }))
    (settles : ∀ {state : CacheState} {before : List Promise} {name cycle : String},
      state.ready = [delivery before.length] →
      state.promises = before ++ [⟨name, cycle, none⟩] →
      Ends start world.suspended ((Task.await before.length : Task CacheState Value) state)
        (.ok value)
        ⟨{ state with
            ready := []
            promises := before ++ [⟨name, cycle, some (.ok value)⟩] }, world.suspended⟩) :
    ∃ made, World.Runs start world (Cache.invoker limits current index render number)
      (.ok value) (world.withState (world.state.answered number ⟨label, call.arguments⟩
        (world.state.promises ++ made))) := by
  let started : CacheState := { world.state with started := world.state.started ++ [number] }
  let promised : CacheState :=
    { started with promises := started.promises ++ [⟨call.name, world.state.cycleId index, none⟩] }
  let waiting : CacheState :=
    { promised with
      calls := promised.calls ++ [⟨label, call.arguments⟩]
      ready := promised.ready ++ [delivery started.promises.length] }
  have starts : noteStart number world.state = (.ok (), started) := rfl
  have makes : makePromise call.name (world.state.cycleId index) started =
      (.ok started.promises.length, promised) := rfl
  have calls : Invoke.callback (runRoutine limits current) current started.promises.length
      (.helper ⟨label, shape, .callback run⟩) call.arguments promised = (.ok (), waiting) := by
    have notes : noteCall label call.arguments promised =
        (.ok (), { promised with calls := promised.calls ++ [⟨label, call.arguments⟩] }) := rfl
    rw [Invoke.callback]
    apply Action.bind_ok notes
    exact schedules _ _
  have settled := @settles waiting world.state.promises _ _
    (by simp [waiting, promised, started, calm]) rfl
  refine ⟨[⟨call.name, world.state.cycleId index, some (.ok value)⟩], ?_⟩
  rw [Cache.invoker]
  apply World.Runs.bind_get
  rw [Invoke.implementation]
  apply World.Runs.bind_get
  simp only [found]
  apply World.Runs.bind_action starts
  simp only [target]
  apply World.Runs.bind_action makes
  apply World.Runs.bind_action calls
  exact settled

/-- The implementation behind a call of the family answers, and the rest of the world stays
as it is. -/
theorem Member.runs (found : world.state.invocations[number]? = some call)
    (target : call.target = member.deferred) (calm : world.state.ready = []) :
    ∃ made, World.Runs start world (Cache.invoker limits current index render number)
      (.ok (.text (member.answer call.arguments)))
      (world.withState (world.state.answered number ⟨member.label, call.arguments⟩
        (world.state.promises ++ made))) := by
  obtain ⟨label, shape, manner, answer⟩ := member
  cases manner with
  | coroutine =>
      let started : CacheState := { world.state with started := world.state.started ++ [number] }
      have starts : noteStart number world.state = (.ok (), started) := rfl
      have notes : noteCall label call.arguments started =
          (.ok (), { started with calls := started.calls ++ [⟨label, call.arguments⟩] }) := rfl
      refine ⟨[], ?_⟩
      rw [answered, List.append_nil, ← calm, Cache.invoker]
      apply World.Runs.bind_get
      rw [Invoke.implementation]
      apply World.Runs.bind_get
      simp only [found]
      apply World.Runs.bind_action starts
      simp only [target, Member.deferred, Member.behaviour]
      apply World.Runs.bind_action notes
      exact World.runs_pure _
  | callback =>
      exact runs_callback found target calm (fun _ _ => rfl) fun ready promises =>
        ends_settled ready promises rfl
  | later =>
      exact runs_callback found target calm (fun _ _ => rfl) fun ready promises =>
        ends_completed ready promises rfl

end Running

/-! ### The course of a thread -/

/-- The calls are queued under consecutive numbers, nothing else is due, and the log can be
written. -/
structure Awaits
    (index number : Nat)
    (calls : List Invocation)
    (state : CacheState) : Prop where
  queue : state.queue index = List.range' number calls.length
  found : ∀ offset call, calls[offset]? = some call →
    state.invocations[number + offset]? = some call
  ready : state.ready = []
  writes : ∀ event, state.Writes event

section Awaits

variable {library : Library} {start : Starter} {limits : Limits} {current : Option Nat}
  {index number : Nat} {render : NestedRender} {world : World} {call : Invocation}
  {calls later : List Invocation} {state : CacheState} {text : String} {member : Member}

theorem filterMap_range' {α : Type} {items : List α} {find : Nat → Option α} {number : Nat}
    (found : ∀ offset item, items[offset]? = some item → find (number + offset) = some item) :
    (List.range' number items.length).filterMap find = items := by
  induction items generalizing number with
  | nil => rfl
  | cons item rest inductionHypothesis =>
      have head : find number = some item := found 0 item rfl
      have others := @inductionHypothesis (number + 1) fun offset other at_ => by
        have shifted := found (offset + 1) other at_
        rwa [Nat.add_comm offset 1, ← Nat.add_assoc] at shifted
      rw [List.length_cons, List.range'_succ, List.filterMap_cons, head, others]

theorem Awaits.queued (awaits : Awaits index number calls state) : state.queued index = calls := by
  have queue := awaits.queue
  rw [CacheState.queue] at queue
  rw [CacheState.queued, queue]
  exact filterMap_range' awaits.found

/-- The oldest call leaves those behind it. -/
theorem Awaits.taken (awaits : Awaits index number (call :: later) state) :
    state.queue index = number :: List.range' (number + 1) later.length ∧
      Awaits index (number + 1) later
        (state.withQueue index (List.range' (number + 1) later.length)) := by
  have queue := awaits.queue
  rw [List.length_cons, List.range'_succ] at queue
  have first : number ∈ state.queue index := queue ▸ List.mem_cons_self
  have inside : index < state.waitlists.length := lt_of_mem_queue first
  refine ⟨queue, ?_, ?_, awaits.ready, awaits.writes⟩
  · rw [queue_withQueue _ inside, if_pos rfl]
  · intro offset other at_
    have shifted := awaits.found (offset + 1) other at_
    rwa [Nat.add_comm offset 1, ← Nat.add_assoc] at shifted

/-- Whatever happens to calls before them, the calls are awaited. -/
theorem Awaits.of_kept {after : CacheState} (awaits : Awaits index number calls state)
    (queue : after.queue index = state.queue index)
    (kept : ∀ other, number ≤ other → other < state.invocations.length →
      after.invocations[other]? = state.invocations[other]?)
    (ready : after.ready = []) (log : after.log = state.log) :
    Awaits index number calls after where
  queue := queue.trans awaits.queue
  found := fun offset call at_ => by
    have here := awaits.found offset call at_
    rw [kept (number + offset) (Nat.le_add_right number offset)
      (List.getElem?_eq_some_iff.mp here).1]
    exact here
  ready := ready
  writes := fun event settings logs => awaits.writes event settings (log ▸ logs)

/-- Settling the arguments of a call changes nothing else. -/
theorem prepared_eq (state : CacheState) (number : Nat) (results : Results) :
    state.prepared number results = state.withInvocation number fun invocation =>
      { invocation with arguments := invocation.arguments.substitute results } := by
  rw [CacheState.prepared]
  split
  · rename_i empty
    have same : (fun invocation : Invocation =>
        { invocation with arguments := invocation.arguments.substitute [] }) = id := by
      funext invocation
      rw [Arguments.substitute_nil]
      rfl
    rw [List.isEmpty_iff.mp empty, CacheState.withInvocation, same, List.modify_id]
  · rfl

/-- The state in which a call is run: it was taken off its waitlist, the results so far are in
its arguments, and lines were logged. -/
def CacheState.asking
    (state : CacheState)
    (index number : Nat)
    (behind : List Nat)
    (results : Results)
    (lines : List String) : CacheState :=
  ((state.withQueue index behind).withInvocation number fun invocation =>
    { invocation with arguments := invocation.arguments.substitute results }).withLines lines

@[simp]
theorem CacheState.queue_asking {behind : List Nat} {results : Results} {lines : List String}
    (other : Nat) : (state.asking index number behind results lines).queue other =
      (state.withQueue index behind).queue other := by
  rfl

theorem CacheState.found_asking {behind : List Nat} {results : Results} {lines : List String}
    (found : state.invocations[number]? = some call) :
    (state.asking index number behind results lines).invocations[number]? =
      some { call with arguments := call.arguments.substitute results } := by
  have here : (state.withQueue index behind).invocations[number]? = some call := found
  rw [asking, invocations_withLines, withInvocation, List.getElem?_modify_eq, here]
  rfl

/-- The oldest call is taken and about to be run. -/
theorem Awaits.asks {progress : Progress} (awaits : Awaits index number (call :: later) world.state)
    (needed : Drain.isNeeded progress.text call.token later = true) :
    ∃ lines, Drain.Calls index progress number call
      (world.withState (world.state.withQueue index (List.range' (number + 1) later.length)))
      (world.withState (world.state.asking index number (List.range' (number + 1) later.length)
        progress.results lines)) := by
  obtain ⟨-, awaitsLater⟩ := awaits.taken
  let before := world.withState
    (world.state.withQueue index (List.range' (number + 1) later.length))
  let prepared := before.withState (before.state.prepared number progress.results)
  have shape : prepared.state = before.state.withInvocation number _ :=
    prepared_eq before.state number progress.results
  have writes : ∀ event, prepared.state.Writes event := by
    rw [shape]
    exact awaits.writes
  obtain ⟨lines, asks⟩ := World.tells_writes prepared (writes (.invoking
    (.text (before.state.cycleId index)) (.text call.name)
    (.tuple ((prepared.state.invocations[number]?.map Invocation.arguments).getD .none).positional)))
  have queued : before.state.queued index = later := awaitsLater.queued
  have asked : world.state.asking index number (List.range' (number + 1) later.length)
      progress.results lines = prepared.state.withLines lines := by
    rw [shape]
    rfl
  refine ⟨lines, awaits.found 0 call rfl, by rw [queued]; exact needed, ?_⟩
  rw [asked]
  exact asks

/-- A call that was run returns, and its return is logged. -/
theorem Drain.Calls.returns {invoke : Drain.Invoke} {progress : Progress}
    {before asked answered : World} {value : Value} {result : String}
    (calls : Drain.Calls index progress number call before asked)
    (runs : World.Runs start asked (invoke number) (.ok value) answered)
    (readable : resultText value = .ok result) (writes : ∀ event, answered.state.Writes event) :
    ∃ lines, Drain.Serves start invoke index progress
      ⟨number, call, .returned value result, before,
        answered.withState ((answered.state.withStatus number .completed).withLines lines)⟩
      (.ok (progress.complete call.token result)) := by
  obtain ⟨lines, tells⟩ := World.tells_writes
    (answered.withState (answered.state.withStatus number .completed))
    (show CacheState.Writes _ (.completed (.text (before.state.cycleId index)) (.text call.name)
      (.int (CacheState.elapsed before.state.clock answered.state.clock))) from writes _)
  exact ⟨lines, .returned calls runs readable tells⟩

/-- The oldest call is needed and has its turn: it is run with the results so far in its
arguments, and its answer is put in place of its token. -/
theorem Awaits.turn {progress : Progress} (awaits : Awaits index number (call :: later) world.state)
    (isMember : library.family call.name = some member) (target : call.target = member.deferred)
    (needed : Drain.isNeeded progress.text call.token later = true) :
    ∃ turn, Drain.Takes index world turn ∧
      Drain.Serves start (Cache.invoker limits current index render) index progress turn
        (.ok (progress.complete call.token (library.answerTo progress.results call))) ∧
      Awaits index (number + 1) later turn.after.state ∧
      turn.after.suspended = world.suspended ∧
      turn.after.state.calls =
        world.state.calls ++ [library.note progress.results call] := by
  obtain ⟨queue, awaitsLater⟩ := awaits.taken
  obtain ⟨lines, calls⟩ := awaits.asks needed
  let behind := List.range' (number + 1) later.length
  let asked := world.withState (world.state.asking index number behind progress.results lines)
  let settled : Invocation :=
    { call with arguments := call.arguments.substitute progress.results }
  have runs : ∃ made, World.Runs start asked
      (Cache.invoker limits current index render number)
      (.ok (.text (member.answer settled.arguments)))
      (asked.withState (asked.state.answered number ⟨member.label, settled.arguments⟩
        (asked.state.promises ++ made))) :=
    Member.runs (found_asking (awaits.found 0 call rfl)) target awaits.ready
  obtain ⟨made, runs⟩ := runs
  obtain ⟨more, serves⟩ := calls.returns runs rfl awaits.writes
  have answer : member.answer settled.arguments = library.answerTo progress.results call := by
    rw [Library.answerTo, isMember]
    rfl
  rw [answer] at serves
  refine ⟨_, ⟨_, queue, rfl⟩, serves, ?_, ?_, ?_⟩
  · apply awaitsLater.of_kept _ _ rfl _
    · dsimp only [asked, World.withState]
      rw [queue_withLines, queue_withStatus, queue_answered, queue_asking]
    · intro other above _
      have distinct : number ≠ other := by omega
      simp [World.withState, withStatus, withInvocation, CacheState.answered,
        CacheState.withLines, CacheState.asking, asked, distinct]
    · dsimp only [asked, World.withState, CacheState.asking, CacheState.answered, withLines,
        withStatus, withInvocation]
  · dsimp only [asked, World.withState]
  · dsimp only [asked, World.withState, CacheState.asking]
    rw [Library.note, isMember]
    rfl

/-- A recorded call is needed as long as it has no answer. -/
theorem Thread.needed (thread : Thread library [] calls [text])
    (distinct : (calls.map Invocation.token).Nodup) {earlier : List Invocation}
    (split : calls = earlier ++ call :: later) :
    Drain.isNeeded ((library.solve [] earlier).applyTo text) call.token later = true := by
  have isToken := (thread.defers call (by simp [split])).2
  obtain ⟨content, member, found⟩ := thread.alive earlier call later split
  rw [Drain.isNeeded, Bool.or_eq_true]
  rcases List.mem_append.mp member with inText | inLater
  · left
    rw [List.mem_singleton.mp inText] at found
    have clean : (library.solve [] earlier).Clean := by
      obtain ⟨more, whole, -⟩ := library.solve_adds (library.solve [] earlier) (call :: later)
      have all := thread.clean distinct
      rw [split, Library.solve_append, whole] at all
      exact all.sublist (List.sublist_append_left _ more)
    have absent : call.token ∉ (library.solve [] earlier).map Prod.fst := by
      rw [library.tokens_solve]
      exact Invocation.token_notMem distinct split
    exact clean.containsText_applyTo (thread.written text List.mem_cons_self) isToken absent found
  · right
    obtain ⟨other, among, inside⟩ := List.mem_flatMap.mp inLater
    rw [List.any_eq_true]
    exact ⟨other, among, other.arguments.mentions_iff.mpr ⟨content, inside, found⟩⟩

/-- All calls of a thread are run, and their answers are put in place of their tokens. -/
theorem Thread.course (thread : Thread library [] calls [text])
    (distinct : (calls.map Invocation.token).Nodup) (earlier : List Invocation)
    (split : calls = earlier ++ later) (world : World) (progress : Progress)
    (awaits : Awaits index number later world.state)
    (stands : progress.Stands text (library.solve [] earlier)) :
    ∃ turns final after, turns.length = later.length ∧
      Drain.Course start (Cache.invoker limits current index render) index world progress turns
        (.ok final) after ∧
      final.text = (library.solve [] calls).applyTo text ∧
      (∀ event, after.state.Writes event) ∧
      after.state.calls =
        world.state.calls ++ later.map (library.note (library.solve [] calls)) := by
  induction later generalizing earlier world progress number with
  | nil =>
      refine ⟨[], progress, world, rfl, .finished awaits.queue, ?_, awaits.writes,
        (List.append_nil _).symm⟩
      rw [stands.text, split, List.append_nil]
  | cons call rest inductionHypothesis =>
      obtain ⟨⟨member, isMember, target⟩, isToken⟩ := thread.defers call (by simp [split])
      have needed := thread.needed distinct split
      rw [← stands.text] at needed
      obtain ⟨turn, takes, serves, awaitsRest, -, notes⟩ :=
        awaits.turn isMember target needed
      have unset : call.token ∉ (library.solve [] earlier).map Prod.fst := by
        rw [library.tokens_solve]
        exact Invocation.token_notMem distinct split
      have standsNext : (progress.complete call.token
          (library.answerTo progress.results call)).Stands text
            (library.solve [] (earlier ++ [call])) := by
        rw [Library.solve_append, stands.results]
        exact stands.complete unset
      obtain ⟨turns, final, after, length, continues, shows, writes, allNotes⟩ :=
        inductionHypothesis (earlier ++ [call]) (by rw [split, List.append_assoc]; rfl) turn.after _
          awaitsRest standsNext
      refine ⟨turn :: turns, final, after, congrArg (· + 1) length,
        .further takes serves continues, shows, writes, ?_⟩
      have same : library.note progress.results call =
          library.note (library.solve [] calls) call := by
        rw [Library.note, Library.note, stands.results, thread.settled distinct split]
      rw [allNotes, notes, same, List.append_assoc]
      rfl

end Awaits

end DeferredText
