import DeferredText.Proofs.Completion
import DeferredText.Proofs.Reserved

/-!
Contract: renderings that are started and report to a promise.

A rendering that was started runs among the tasks that wait. What it does there is what it
would do if its outcome were awaited, whatever its place among them, and where it ends, its
outcome is due for the promise. The task that waits for the promise is woken with it, after
what else is due, and by nothing else.

Owns: the run of a started rendering next to a task that sleeps, and how its outcome reaches
that task.

Does not own: which calls start renderings (`Proofs.Sinking`).
-/

namespace DeferredText

open CacheState

/-! ### A task among others -/

/-- The world in which a step is kept among waiting tasks. -/
def World.keepAmong
    (earlier later : List Suspended) : Step CacheState Unit → World
  | .done _ state => ⟨state, earlier ++ later⟩
  | .waiting promise state resume => ⟨state, earlier ++ ⟨promise, resume⟩ :: later⟩

/-- A step whose result concerns nobody. -/
def Step.forgotten {α : Type} (step : Step CacheState α) : Step CacheState Unit :=
  step.andThen fun _ state => .done (.ok ()) state

namespace World

variable {start : Starter} {state : CacheState} {earlier later : List Suspended}
  {delivery : Delivery} {promise : Nat} {outcome : Outcome Value}
  {resume : Outcome Value → CacheState → Step CacheState Unit}

theorem keep_eq (suspended : List Suspended) (step : Step CacheState Unit) :
    keep suspended step = keepAmong suspended [] step := by
  cases step with
  | done result state => rw [keep, keepAmong, List.append_nil]
  | waiting promise state resume => rfl

/-- A task that is kept behind the others stays behind them when there is one more. -/
theorem keep_among (task : Suspended) (step : Step CacheState Unit) :
    ∃ behind, (keep (earlier ++ later) step).suspended = earlier ++ behind ∧
      keep (earlier ++ task :: later) step =
        ⟨(keep (earlier ++ later) step).state, earlier ++ task :: behind⟩ := by
  cases step with
  | done result state => exact ⟨later, rfl, rfl⟩
  | waiting promise state resume =>
      refine ⟨later ++ [⟨promise, resume⟩], ?_, ?_⟩
      · rw [keep, List.append_assoc]
      · rw [keep, keep, List.append_assoc, List.cons_append]

theorem find_among (unawaited : promise ∉ (earlier ++ later).map Suspended.promise) :
    (earlier ++ ⟨promise, resume⟩ :: later).find? (fun task => task.promise == promise) =
      some ⟨promise, resume⟩ := by
  rw [List.find?_append, List.find?_eq_none.mpr]
  · simp
  · intro task member
    rw [beq_iff_eq]
    rintro rfl
    exact unawaited (List.mem_map_of_mem (List.mem_append_left later member))

theorem filter_among (unawaited : promise ∉ (earlier ++ later).map Suspended.promise) :
    (earlier ++ ⟨promise, resume⟩ :: later).filter (fun task => task.promise != promise) =
      earlier ++ later := by
  have others : ∀ task ∈ earlier ++ later, (task.promise != promise) = true := by
    intro task member
    rw [bne_iff_ne]
    rintro rfl
    exact unawaited (List.mem_map_of_mem member)
  rw [List.filter_append, List.filter_cons_of_neg (by simp), ← List.filter_append,
    List.filter_eq_self.mpr others]

/-- What is due does not depend on who waits. -/
theorem next_beside {suspended : List Suspended} {ready : List Delivery}
    (isReady : state.ready = delivery :: ready) :
    next? ⟨state, suspended⟩ = some (delivery, ⟨state.withReady ready, suspended⟩) := by
  rw [next?]
  dsimp only
  rw [isReady]
  rfl

/-- The delivery for which a task waits reaches it wherever it is among the others. -/
theorem deliver_awaited (unawaited : promise ∉ (earlier ++ later).map Suspended.promise)
    (wakes : World.wakes ⟨state, earlier ++ later⟩ promise delivery = some outcome) :
    deliver start ⟨state, earlier ++ ⟨promise, resume⟩ :: later⟩ delivery =
      keepAmong (earlier ++ later) [] (resume outcome state) := by
  obtain ⟨rfl, known⟩ := World.wakes_eq wakes
  have decided : outcome? ⟨state, earlier ++ ⟨promise, resume⟩ :: later⟩ promise = some outcome :=
    known
  rw [deliver, World.resume, decided, find_among unawaited]
  dsimp only
  rw [filter_among unawaited, keep_eq]

/-- Any other delivery does what it would do without the task. -/
theorem deliver_among (unawaited : promise ∉ (earlier ++ later).map Suspended.promise)
    (sleeps : World.wakes ⟨state, earlier ++ later⟩ promise delivery = none) :
    ∃ before behind,
      (deliver start ⟨state, earlier ++ later⟩ delivery).suspended = before ++ behind ∧
      deliver start ⟨state, earlier ++ ⟨promise, resume⟩ :: later⟩ delivery =
        ⟨(deliver start ⟨state, earlier ++ later⟩ delivery).state,
          before ++ ⟨promise, resume⟩ :: behind⟩ := by
  cases delivery with
  | settle number completion => exact ⟨earlier, later, rfl, rfl⟩
  | complete number completion => exact ⟨earlier, later, rfl, rfl⟩
  | begin number template data current =>
      obtain ⟨behind, without, kept⟩ := @keep_among earlier later ⟨promise, resume⟩
        (start number template data current state)
      exact ⟨earlier, behind, without, kept⟩
  | resume number =>
      have same : outcome? ⟨state, earlier ++ ⟨promise, resume⟩ :: later⟩ number =
          outcome? ⟨state, earlier ++ later⟩ number := rfl
      rw [deliver, deliver, World.resume, World.resume, same]
      cases known : outcome? ⟨state, earlier ++ later⟩ number with
      | none => exact ⟨earlier, later, rfl, rfl⟩
      | some outcome =>
          have other : number ≠ promise := by
            rintro rfl
            rw [World.wakes, Delivery.resumes, beq_self_eq_true, if_pos rfl, known] at sleeps
            cases sleeps
          have differs : (promise == number) = false := beq_eq_false_iff_ne.mpr (Ne.symm other)
          have finds : (earlier ++ ⟨promise, resume⟩ :: later).find?
              (fun task => task.promise == number) =
                (earlier ++ later).find? fun task => task.promise == number := by
            rw [List.find?_append, List.find?_append, List.find?_cons_of_neg (by simp [differs])]
          dsimp only
          rw [finds]
          cases (earlier ++ later).find? fun task => task.promise == number with
          | none => exact ⟨earlier, later, rfl, rfl⟩
          | some task =>
              dsimp only
              rw [List.filter_append, List.filter_append,
                List.filter_cons_of_pos (by simp [Ne.symm other])]
              obtain ⟨behind, without, kept⟩ := @keep_among _ _ ⟨promise, resume⟩
                (task.resume outcome state)
              exact ⟨_, behind, without, kept⟩

end World

/-! ### The run of a started rendering -/

section Runs

variable {start : Starter} {barred own : Set Nat} {notify : Notify} {within : Option Nat}
  {suspended earlier later : List Suspended} {promise : Nat} {after : World}
  {plain handed : Step CacheState (Option String)} {result : Except Stop (Option String)}

/-- What happens in the run of a task that is awaited happens while another task sleeps, if
the first one is among the waiting tasks instead. -/
theorem Ends.among (ends : Ends start suspended plain result after)
    (finished : result ≠ .error .stalled) (beside : Step.Beside barred own suspended plain)
    (reporting : World.Reporting start) (barring : promise ∈ barred)
    (agrees : Step.Agrees notify within plain handed)
    (places : suspended = earlier ++ later) :
    ∃ returned told, HandedOver notify within result after.state returned told ∧
      World.Delivers start promise (World.keepAmong earlier later handed.forgotten)
        ⟨told, after.suspended⟩ := by
  induction ends generalizing handed earlier later with
  | @done suspended result state =>
      cases agrees with
      | @done _ returned _ told handsOver =>
          have forgets : World.keepAmong earlier later (Step.done returned told).forgotten =
              ⟨told, suspended⟩ := by
            rw [places]
            cases returned <;> rfl
          rw [forgets]
          exact ⟨returned, told, handsOver, .nothing _⟩
  | stalled idle => exact absurd rfl finished
  | @resumed suspended awaited state resume delivery rest outcome result after due wakes further
      inductionHypothesis =>
      cases agrees with
      | waiting resumes =>
          rename_i handed
          obtain ⟨leaves, same, promises, spared, -⟩ := beside.due due
          obtain ⟨runs, -⟩ := beside.resumed due outcome
          obtain ⟨ready, isReady, rfl⟩ := World.next?_eq due
          subst places
          obtain ⟨returned, told, handsOver, delivers⟩ :=
            inductionHypothesis finished runs (resumes outcome _) (List.append_nil _).symm
          refine ⟨returned, told, handsOver, .further (World.next_beside isReady)
            (World.sleeps_of_target fun isPromise => spared (isPromise ▸ barring)) ?_⟩
          rw [World.deliver_awaited (beside.waits _ _ _ rfl).1 wakes]
          exact delivers
  | @delivered suspended awaited state resume delivery rest result after due sleeps further
      inductionHypothesis =>
      cases agrees with
      | waiting resumes =>
          rename_i handed
          obtain ⟨-, -, -, spared, -⟩ := beside.due due
          obtain ⟨waits, -⟩ := beside.delivered reporting due
          obtain ⟨ready, isReady, rfl⟩ := World.next?_eq due
          subst places
          let kept : Suspended :=
            ⟨awaited, fun outcome later => (handed outcome later).forgotten⟩
          obtain ⟨before, behind, without, among⟩ := @World.deliver_among start
            (state.withReady ready) earlier later delivery awaited kept.resume
            (beside.waits _ _ _ rfl).1 sleeps
          obtain ⟨returned, told, handsOver, delivers⟩ :=
            inductionHypothesis finished waits (.waiting resumes) without
          refine ⟨returned, told, handsOver, .further (World.next_beside isReady)
            (World.sleeps_of_target fun isPromise => spared (isPromise ▸ barring)) ?_⟩
          change World.Delivers start promise
            (World.deliver start ⟨state.withReady ready, earlier ++ kept :: later⟩ delivery) _
          rw [among]
          exact delivers

end Runs

/-! ### Completions -/

theorem settle_decides {number : Nat} {completion : Completion} {state : CacheState}
    {owed : Promise} {outcome : Outcome Value} (found : state.promises[number]? = some owed)
    (undecided : owed.outcome = none)
    (becomes : completion.outcome owed.helperName = .ok outcome) :
    (settle number completion state).2 =
      { state with
        promises := state.promises.set number { owed with outcome := some outcome }
        ready := state.ready ++ [.resume number] } := by
  have reads : (get : CacheAction CacheState) state = (.ok state, state) := rfl
  have settles : settle number completion state =
      (.ok (), { state with
        promises := state.promises.set number { owed with outcome := some outcome }
        ready := state.ready ++ [.resume number] }) := by
    rw [settle]
    apply Action.bind_ok reads
    rw [found]
    dsimp only
    rw [undecided]
    dsimp only
    rw [becomes]
    rfl
  rw [settles]

namespace World

variable {start : Starter} {barred : Set Nat} {world rest : World} {promise : Nat}
  {completion : Completion} {owed : Promise} {outcome : Outcome Value}

/-- A completion that reaches its promise first wakes the task that waits. -/
theorem Reserves.settled (reserves : world.Reserves barred) (reporting : Reporting start)
    (clear : Clear barred world.state.ready)
    (due : world.next? = some (.settle promise completion, rest))
    (found : rest.state.promises[promise]? = some owed) (undecided : owed.outcome = none)
    (becomes : completion.outcome owed.helperName = .ok outcome) :
    ∃ last, Awakens start promise world outcome last ∧ Leaves barred world last ∧
      Clear barred last.state.ready := by
  obtain ⟨-, ready, -, -, -⟩ := reserves.next due
  rw [ready] at clear
  obtain ⟨leaves, adds⟩ := reserves.deliver_next reporting due (clear _ List.mem_cons_self)
  obtain ⟨added, behind, clearAdded⟩ := adds.ready
  have settles : rest.deliver start (.settle promise completion) =
      rest.withState { rest.state with
        promises := rest.state.promises.set promise { owed with outcome := some outcome }
        ready := rest.state.ready ++ [.resume promise] } := by
    rw [World.deliver, settle_decides found undecided becomes]
    rfl
  have clearNext : Clear barred (rest.deliver start (.settle promise completion)).state.ready := by
    rw [behind]
    intro other member
    exact (List.mem_append.mp member).elim
      (fun old => clear other (List.mem_cons_of_mem _ old)) (clearAdded other)
  have inside : promise < rest.state.promises.length := (List.getElem?_eq_some_iff.mp found).1
  have decided : (rest.deliver start (.settle promise completion)).state.outcome? promise =
      some outcome := by
    rw [settles, CacheState.outcome?, withState, List.getElem?_set_self inside]
    rfl
  have resumes : .resume promise ∈ (rest.deliver start (.settle promise completion)).state.ready :=
    by
    rw [settles]
    exact List.mem_append_right _ List.mem_cons_self
  obtain ⟨last, awakens, further, clearLast⟩ :=
    leaves.reserves.awakens reporting clearNext decided resumes
  exact ⟨last, .behind (.further due rfl (.nothing _)) awakens, leaves.trans further, clearLast⟩

/-- The first completion to reach a promise is the one that wakes the task that waits. -/
theorem Reserves.reported (reserves : world.Reserves barred) (reporting : Reporting start)
    (clear : Clear barred world.state.ready) {count : Nat} {name : String}
    (due : (world.deliverMany start count).next? = some (.settle promise completion, rest))
    (owes : world.state.debtor? promise = some name)
    (undecided : rest.state.outcome? promise = none)
    (becomes : completion.outcome name = .ok outcome) :
    ∃ last, Awakens start promise world outcome last ∧ Leaves barred world last ∧
      Clear barred last.state.ready := by
  have before : (world.deliverMany start count).state.outcome? promise = none := by
    obtain ⟨later, -, rfl⟩ := World.next?_eq due
    exact undecided
  obtain ⟨delivers, leaves, clearThen⟩ :=
    reserves.delivers_undecided reporting clear count before
  have popped := (leaves.reserves.next due).1
  have named := popped.named promise name (leaves.named promise name owes)
  rw [CacheState.debtor?, Option.map_eq_some_iff] at named
  obtain ⟨owed, found, isName⟩ := named
  have isOpen : owed.outcome = none := by
    rw [CacheState.outcome?, found] at undecided
    exact undecided
  obtain ⟨last, awakens, further, clearLast⟩ :=
    leaves.reserves.settled reporting clearThen due found isOpen (isName ▸ becomes)
  exact ⟨last, .behind delivers awakens, leaves.trans further, clearLast⟩

end World

/-! ### Renderings -/

namespace Cache

variable {limits : Limits} {current within : Option Nat} {notify : Notify} {state told : CacheState}
  {template data : Value} {promise : Nat} {barred : Set Nat} {world rest after : World}
  {outcome : Outcome String} {returned : Except Stop (Option String)} {owed : Promise}

theorem reporting_startRender (limits : Limits) : World.Reporting (startRender limits) :=
  fun promise template data current => assigns_startRender limits promise template data current

theorem calm_reportTo (promise : Nat) : (reportTo promise).Calm := fun _ _ _ => ⟨_, rfl⟩

theorem startRender_eq (promise : Nat) (template data : Value) (current : Option Nat)
    (state : CacheState) :
    startRender limits promise template data current state =
      (render limits current (some (reportTo promise)) template data state).forgotten := by
  rfl

/-- The two ways to render agree, if the end of the evaluation can be logged. -/
theorem agrees_render (current : Option Nat) (calm : notify.Calm)
    (written : EvaluationWritten limits state template data) :
    ∃ within, (within = current ∨ within = some state.waitlists.length) ∧
      Step.Agrees notify within (render limits current none template data state)
        (render limits current (some notify) template data state) := by
  rw [render, render]
  cases limits.depth with
  | zero => exact ⟨current, .inl rfl, .done (.unfinished (by rintro _ ⟨⟩))⟩
  | succ depth =>
      obtain ⟨within, inside, agrees⟩ :=
        renderInto_agrees limits current depth calm written
      refine ⟨within, inside, ?_⟩
      rw [renderWithin_into, renderWithin_into, Task.bind_ok (openWaitlist_eq state),
        Task.bind_ok (openWaitlist_eq state)]
      exact agrees

/-- What a started rendering reports. -/
def completionOf : Outcome String → Completion
  | .ok text => .result (.text text)
  | .error failure => .failure failure

theorem outcome_completionOf (name : String) (outcome : Outcome String) :
    (completionOf outcome).outcome name = .ok (outcome.map Value.text) := by
  cases outcome <;> rfl

/-- The outcome of a started rendering is due behind everything else. -/
theorem told_reportTo
    (handsOver : HandedOver (reportTo promise) within (Outcome.asResult (outcome.map some)) state
      returned told) :
    told = state.withReady (state.ready ++ [.settle promise (completionOf outcome)]) := by
  cases outcome with
  | ok text =>
      cases handsOver with
      | text called =>
          cases called
          rfl
  | error failure =>
      cases handsOver with
      | failure called =>
          cases called
          rfl
      | unfinished cut => exact absurd rfl (cut failure)

/-- A rendering that was started for a promise runs like one that is awaited, and wakes the
task that waits for the promise with its outcome. -/
theorem started_wakes (reserves : world.Reserves (insert promise barred))
    (spared : promise ∉ barred) {early late : List Delivery}
    (ready : world.state.ready = early ++ .begin promise template data current :: late)
    (clear : Clear (insert promise barred) (early ++ late))
    (due : (world.deliverMany (startRender limits) early.length).next? =
      some (.begin promise template data current, rest))
    (found : world.state.promises[promise]? = some owed) (undecided : owed.outcome = none)
    (written : EvaluationWritten limits rest.state template data)
    (runs : World.Runs (startRender limits) rest (render limits current none template data)
      (Outcome.asResult (outcome.map some)) after) :
    ∃ last, World.Delivers (startRender limits) promise world
        (after.withState (after.state.withReady
          (after.state.ready ++ [.settle promise (completionOf outcome)]))) ∧
      World.Awakens (startRender limits) promise
        (after.withState (after.state.withReady
          (after.state.ready ++ [.settle promise (completionOf outcome)])))
        (outcome.map Value.text) last ∧
      World.Leaves barred world last ∧ Clear barred last.state.ready := by
  have reporting := reporting_startRender limits
  have barring : promise ∈ insert promise barred := Set.mem_insert promise barred
  -- Everything in front of the rendering is delivered, and then the rendering is begun.
  obtain ⟨delivers, leaves, added, readyThen, clearAdded⟩ := reserves.delivers reporting barring ready
    fun other member => clear other (List.mem_append_left _ member)
  obtain ⟨popped, isReady, -, -, -⟩ := leaves.reserves.next due
  have readyRest : rest.state.ready = late ++ added := by
    rw [readyThen, List.cons_append] at isReady
    exact (List.cons.inj isReady).2.symm
  have clearRest : Clear (insert promise barred) rest.state.ready := by
    rw [readyRest]
    intro other member
    exact (List.mem_append.mp member).elim
      (fun old => clear other (List.mem_append_right _ old)) (clearAdded other)
  obtain ⟨beside, begins⟩ := (assigns_render reports_none template data rest.state :
    Step.Assigns ∅ rest.state (render limits current none template data rest.state)).beside
      popped.reserves clearRest (grants_empty rest.state)
  obtain ⟨ends, clearAfter⟩ := beside.ends reporting runs
  have toAfter : World.Leaves (insert promise barred) world after :=
    ((leaves.trans popped).trans begins).trans ends
  -- It runs like an awaited one, and reports.
  obtain ⟨within, -, agrees⟩ :=
    agrees_render current (calm_reportTo promise) written
  have finished : Outcome.asResult (outcome.map some) ≠ .error .stalled := by
    cases outcome <;> exact nofun
  obtain ⟨returned, told, handsOver, further⟩ :=
    Ends.among runs finished beside reporting barring agrees (List.append_nil rest.suspended).symm
  rw [← World.keep_eq, ← startRender_eq, told_reportTo handsOver] at further
  let reportedTo := after.withState (after.state.withReady
    (after.state.ready ++ [.settle promise (completionOf outcome)]))
  have sleeps : rest.wakes promise (.begin promise template data current) = none := rfl
  have reaches : World.Delivers (startRender limits) promise world reportedTo :=
    delivers.trans (.further due sleeps further)
  -- What is due before the report is delivered, and then the report.
  have reservesTold : reportedTo.Reserves (insert promise barred) :=
    toAfter.reserves.alter (Nat.le_refl _) (List.Sublist.refl _) rfl fun delivery member => by
      obtain rfl := List.mem_singleton.mp member
      exact toAfter.reserves.known promise barring
  obtain ⟨waits, leavesTold, more, readyMore, clearMore⟩ :=
    reservesTold.delivers reporting barring
      (rfl : reportedTo.state.ready = after.state.ready ++ [.settle promise (completionOf outcome)])
      clearAfter
  have same : (reportedTo.deliverMany (startRender limits) after.state.ready.length).state.promises[
      promise]? = some owed := by
    rw [leavesTold.kept promise barring]
    exact (toAfter.kept promise barring).trans found
  have dueReport : (reportedTo.deliverMany (startRender limits) after.state.ready.length).next? =
      some (.settle promise (completionOf outcome), _) := World.next_beside readyMore
  have spares : barred ⊆ insert promise barred := Set.subset_insert promise barred
  have clearReport : Clear barred
      (reportedTo.deliverMany (startRender limits) after.state.ready.length).state.ready := by
    rw [readyMore]
    intro other member
    rcases List.mem_append.mp member with report | new
    · obtain rfl := List.mem_singleton.mp report
      exact spared
    · exact fun isBarred => clearMore other new (spares isBarred)
  obtain ⟨last, awakens, leavesLast, clearLast⟩ :=
    (leavesTold.reserves.mono spares).settled reporting clearReport dueReport same undecided
      (outcome_completionOf owed.helperName outcome)
  refine ⟨last, reaches, .behind waits awakens, ?_, clearLast⟩
  have idle : Upholds (insert promise barred) after.state reportedTo.state := .of_same rfl rfl
  have toTold : World.Leaves barred world reportedTo :=
    ⟨(toAfter.toUpholds.trans idle).mono spares, reservesTold.mono spares⟩
  exact (toTold.trans (leavesTold.mono spares)).trans leavesLast

end Cache

end DeferredText
