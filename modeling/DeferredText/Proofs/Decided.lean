import DeferredText.Proofs.Surfacing

/-!
Contract: the uses that a helper makes of its callback, and what becomes of them.

A helper uses its callback while it runs, or has that put off until later, any number of times,
and may raise in the end. Each use is due for the promise of the call, and one that was put off
goes behind all others. If the helper raises, its call fails at once, and nobody waits for what is
due. If not, the first completion decides the promise, and the task that waits goes on with it;
all further ones are told to the log and do nothing else.

Owns: the uses of a callback, the completions that are due for a promise, and which of them
decides.

Does not own: renderings that report to a callback (`Proofs.Started`).
-/

namespace DeferredText

open CacheState

/-! ### Uses of a callback -/

/-- A use of its callback that a helper makes while it runs: at once, or put off until later. -/
inductive Firing where
  | atOnce (completion : Completion)
  | later (completion : Completion)

namespace Firing

def atOnce? : Firing → Option Completion
  | .atOnce completion => some completion
  | .later _ => none

def later? : Firing → Option Completion
  | .atOnce _ => none
  | .later completion => some completion

/-- The completions in the order in which they reach the promise. -/
def inOrder (firings : List Firing) : List Completion :=
  firings.filterMap atOnce? ++ firings.filterMap later?

end Firing

namespace CacheState

def scheduling
    (state : CacheState)
    (delivery : Delivery) : CacheState :=
  state.withReady (state.ready ++ [delivery])

/-- The state after the log was told of an event, once. -/
def telling
    (state : CacheState)
    (event : Event) : CacheState :=
  match state.log.map event.lines with
  | none => state
  | some (.ok lines) => state.withLines (state.lines ++ lines)
  | some (.error _) => state.refusing event

/-- The state in which the function of a helper is called that answers through a callback. -/
def calling
    (state : CacheState)
    (index number : Nat)
    (call : Invocation)
    (label : String) : CacheState :=
  ((state.noteStarted number).owing call.name (state.cycleId index)).noted label call.arguments

end CacheState

/-- From a state on, a handler uses its callback like this, and then returns or raises. -/
inductive Handler.Performs
    (granted : Routine → CacheAction Value)
    (promise : Nat) : Handler → CacheState → List Firing → Option Failure → CacheState → Prop where
  | returns {state : CacheState} : Performs granted promise .finish state [] none state
  | raises {state : CacheState} (failure : Failure) :
      Performs granted promise (.fail failure) state [] (some failure) state
  | computes {routine : Routine} {next : Outcome Value → Handler} {state middle ended : CacheState}
      {outcome : Outcome Value} {firings : List Firing} {raised : Option Failure}
      (acts : Action.attempt (granted routine) state = (.ok outcome, middle))
      (further : Performs granted promise (next outcome) middle firings raised ended) :
      Performs granted promise (.compute routine next) state firings raised ended
  | fires {completion : Completion} {next : Handler} {state ended : CacheState}
      {firings : List Firing} {raised : Option Failure}
      (further : Performs granted promise next (state.scheduling (.settle promise completion))
        firings raised ended) :
      Performs granted promise (.complete completion next) state (.atOnce completion :: firings)
        raised ended
  | putsOff {completion : Completion} {next : Handler} {state ended : CacheState}
      {firings : List Firing} {raised : Option Failure}
      (further : Performs granted promise next (state.scheduling (.complete promise completion))
        firings raised ended) :
      Performs granted promise (.completeLater completion next) state (.later completion :: firings)
        raised ended

/-- How a helper ends that returns, or raises. -/
def raisedResult : Option Failure → Except Stop Unit
  | none => .ok ()
  | some failure => .error (.failed failure)

/-! ### What is due for a promise -/

namespace Delivery

/-- A completion that reaches the promise with this delivery. -/
def settles?
    (promise : Nat) : Delivery → Option Completion
  | .settle target completion => if target = promise then some completion else none
  | _ => none

/-- A completion for the promise that is put off no longer with this delivery. -/
def completes?
    (promise : Nat) : Delivery → Option Completion
  | .complete target completion => if target = promise then some completion else none
  | _ => none

variable {promise : Nat} {delivery : Delivery} {deliveries : List Delivery}

theorem settles?_of_target (other : delivery.target ≠ promise) :
    delivery.settles? promise = none := by
  cases delivery with
  | settle target completion => exact if_neg other
  | _ => rfl

theorem completes?_of_target (other : delivery.target ≠ promise) :
    delivery.completes? promise = none := by
  cases delivery with
  | complete target completion => exact if_neg other
  | _ => rfl

@[simp] theorem settles?_settle (promise : Nat) (completion : Completion) :
    settles? promise (.settle promise completion) = some completion :=
  if_pos rfl

@[simp] theorem settles?_complete (promise target : Nat) (completion : Completion) :
    settles? promise (.complete target completion) = none := rfl

@[simp] theorem completes?_complete (promise : Nat) (completion : Completion) :
    completes? promise (.complete promise completion) = some completion :=
  if_pos rfl

@[simp] theorem completes?_settle (promise target : Nat) (completion : Completion) :
    completes? promise (.settle target completion) = none := rfl

theorem filterMap_settles?_clear (clear : Clear {promise} deliveries) :
    deliveries.filterMap (settles? promise) = [] :=
  List.filterMap_eq_nil_iff.mpr fun delivery member => settles?_of_target (clear delivery member)

theorem filterMap_completes?_clear (clear : Clear {promise} deliveries) :
    deliveries.filterMap (completes? promise) = [] :=
  List.filterMap_eq_nil_iff.mpr fun delivery member => completes?_of_target (clear delivery member)

/-- The delivery is a completion. -/
def IsCompletion (promise : Nat) (delivery : Delivery) : Prop :=
  ∃ completion, delivery = .settle promise completion ∨ delivery = .complete promise completion

/-- Either nothing is due for the promise, or something is the first. -/
theorem clear_or_first (promise : Nat) (deliveries : List Delivery) :
    Clear {promise} deliveries ∨ ∃ early delivery late, deliveries = early ++ delivery :: late ∧
      Clear {promise} early ∧ delivery.target = promise := by
  induction deliveries with
  | nil => exact .inl fun _ member => absurd member List.not_mem_nil
  | cons first rest inductionHypothesis =>
      by_cases isFor : first.target = promise
      · exact .inr ⟨[], first, rest, rfl, fun _ member => absurd member List.not_mem_nil, isFor⟩
      · rcases inductionHypothesis with clear | ⟨early, delivery, late, rfl, clear, isLater⟩
        · exact .inl (List.forall_mem_cons.mpr ⟨isFor, clear⟩)
        · exact .inr ⟨first :: early, delivery, late, rfl, List.forall_mem_cons.mpr ⟨isFor, clear⟩,
            isLater⟩

end Delivery

/-- Between two states these completions became due for a promise, at once or put off. -/
structure CacheState.Dues
    (promise : Nat)
    (atOnce putOff : List Completion)
    (before after : CacheState) : Prop where
  settles : after.ready.filterMap (Delivery.settles? promise) =
    before.ready.filterMap (Delivery.settles? promise) ++ atOnce
  completes : after.ready.filterMap (Delivery.completes? promise) =
    before.ready.filterMap (Delivery.completes? promise) ++ putOff
  only : ∀ delivery ∈ after.ready, delivery.target = promise →
    delivery ∈ before.ready ∨ delivery.IsCompletion promise

namespace CacheState

variable {promise : Nat} {atOnce putOff further more : List Completion}
  {before middle after : CacheState}

theorem Dues.refl (promise : Nat) (state : CacheState) : Dues promise [] [] state state :=
  ⟨(List.append_nil _).symm, (List.append_nil _).symm, fun _ member _ => .inl member⟩

theorem Dues.trans (first : Dues promise atOnce putOff before middle)
    (second : Dues promise further more middle after) :
    Dues promise (atOnce ++ further) (putOff ++ more) before after where
  settles := by
    rw [second.settles, first.settles, List.append_assoc]
  completes := by
    rw [second.completes, first.completes, List.append_assoc]
  only := fun delivery member isFor =>
    (second.only delivery member isFor).elim (fun old => first.only delivery old isFor) .inr

/-- What is scheduled behind everything else. -/
theorem Dues.behind {added : List Delivery} (ready : after.ready = before.ready ++ added)
    (only : ∀ delivery ∈ added, delivery.target = promise → delivery.IsCompletion promise) :
    Dues promise (added.filterMap (Delivery.settles? promise))
      (added.filterMap (Delivery.completes? promise)) before after where
  settles := by
    rw [ready, List.filterMap_append]
  completes := by
    rw [ready, List.filterMap_append]
  only := fun delivery member isFor => by
    rw [ready] at member
    exact (List.mem_append.mp member).imp_right fun new => only delivery new isFor

/-- What is done without the promise makes nothing due for it. -/
theorem Dues.of_assigns (assigns : Assigns ∅ before after)
    (old : promise < before.promises.length) :
    Dues promise [] [] before after := by
  obtain ⟨added, ready, targets⟩ := assigns.ready
  have clear : Clear {promise} added := by
    intro delivery member isFor
    rcases targets delivery member with owned | ⟨fresh, -⟩
    · exact owned
    · exact absurd (Set.mem_singleton_iff.mp isFor) (Nat.ne_of_gt (old.trans_le fresh))
  have dues : Dues promise _ _ before after :=
    .behind ready fun delivery member isFor => absurd isFor (clear delivery member)
  rwa [Delivery.filterMap_settles?_clear clear, Delivery.filterMap_completes?_clear clear] at dues

theorem Dues.settle (promise : Nat) (completion : Completion) (state : CacheState) :
    Dues promise [completion] [] state (state.scheduling (.settle promise completion)) := by
  have dues : Dues promise _ _ state (state.scheduling (.settle promise completion)) :=
    .behind rfl fun delivery member _ => ⟨completion, .inl (List.mem_singleton.mp member)⟩
  rwa [List.filterMap_cons_some (Delivery.settles?_settle _ _),
    List.filterMap_cons_none (Delivery.completes?_settle _ _ _)] at dues

theorem Dues.complete (promise : Nat) (completion : Completion) (state : CacheState) :
    Dues promise [] [completion] state (state.scheduling (.complete promise completion)) := by
  have dues : Dues promise _ _ state (state.scheduling (.complete promise completion)) :=
    .behind rfl fun delivery member _ => ⟨completion, .inr (List.mem_singleton.mp member)⟩
  rwa [List.filterMap_cons_none (Delivery.settles?_complete _ _ _),
    List.filterMap_cons_some (Delivery.completes?_complete _ _)] at dues

end CacheState

/-- A promise waits for completions that are due at once and for others that were put off, and
nobody else reports to it. -/
structure World.Pends
    (promise : Nat)
    (owed : Promise)
    (atOnce putOff : List Completion)
    (world : World) : Prop where
  reserves : world.Reserves {promise}
  found : world.state.promises[promise]? = some owed
  only : ∀ delivery ∈ world.state.ready, delivery.target = promise →
    delivery.IsCompletion promise
  settles : world.state.ready.filterMap (Delivery.settles? promise) = atOnce
  completes : world.state.ready.filterMap (Delivery.completes? promise) = putOff

namespace World

variable {start : Starter} {world rest : World} {promise : Nat} {owed : Promise}
  {atOnce putOff : List Completion} {delivery : Delivery}

/-- What is due for other promises is delivered until something is due for this one. -/
theorem Pends.front (pends : world.Pends promise owed atOnce putOff) (reporting : Reporting start)
    (pending : atOnce ++ putOff ≠ []) :
    ∃ reached rest delivery, Delivers start promise world reached ∧ Leaves {promise} world reached ∧
      reached.Pends promise owed atOnce putOff ∧ reached.next? = some (delivery, rest) ∧
      delivery.target = promise := by
  rcases Delivery.clear_or_first promise world.state.ready with
    clear | ⟨early, delivery, late, ready, clear, isFor⟩
  · refine absurd ?_ pending
    rw [← pends.settles, ← pends.completes, Delivery.filterMap_settles?_clear clear,
      Delivery.filterMap_completes?_clear clear, List.append_nil]
  · obtain ⟨delivers, leaves, added, readyThen, clearAdded⟩ :=
      pends.reserves.delivers reporting (Set.mem_singleton promise) ready clear
    have reaches : (world.deliverMany start early.length).Pends promise owed atOnce putOff := by
      refine ⟨leaves.reserves, ?_, ?_, ?_, ?_⟩
      · rw [leaves.kept promise (Set.mem_singleton promise)]
        exact pends.found
      · intro other member isOther
        rw [readyThen] at member
        rcases List.mem_append.mp member with old | new
        · exact pends.only other (ready ▸ List.mem_append_right early old) isOther
        · exact absurd isOther (clearAdded other new)
      · rw [← pends.settles, readyThen, ready, List.filterMap_append, List.filterMap_append,
          Delivery.filterMap_settles?_clear clear, Delivery.filterMap_settles?_clear clearAdded,
          List.append_nil, List.nil_append]
      · rw [← pends.completes, readyThen, ready, List.filterMap_append, List.filterMap_append,
          Delivery.filterMap_completes?_clear clear, Delivery.filterMap_completes?_clear clearAdded,
          List.append_nil, List.nil_append]
    exact ⟨_, _, delivery, delivers, leaves, reaches, next_beside readyThen, isFor⟩

/-- The oldest delivery for the promise is its first completion, or the first one that was put off
and that goes behind the others. -/
theorem Pends.step (pends : world.Pends promise owed atOnce putOff) (start : Starter)
    (due : world.next? = some (delivery, rest)) (isFor : delivery.target = promise) :
    (∃ completion further, delivery = .settle promise completion ∧ atOnce = completion :: further ∧
      rest.Pends promise owed further putOff) ∨
    (∃ completion further, delivery = .complete promise completion ∧
      putOff = completion :: further ∧
      (rest.deliver start delivery).Pends promise owed (atOnce ++ [completion]) further ∧
      Leaves {promise} world (rest.deliver start delivery)) := by
  obtain ⟨leaves, ready, -, promises, inside⟩ := pends.reserves.next due
  have found : rest.state.promises[promise]? = some owed := promises ▸ pends.found
  have only : ∀ other ∈ rest.state.ready, other.target = promise → other.IsCompletion promise :=
    fun other member => pends.only other (ready ▸ List.mem_cons_of_mem delivery member)
  obtain ⟨completion, rfl | rfl⟩ := pends.only delivery (ready ▸ List.mem_cons_self) isFor
  · refine .inl ⟨completion, _, rfl, ?_, leaves.reserves, found, only, rfl, ?_⟩
    · rw [← pends.settles, ready, List.filterMap_cons_some (Delivery.settles?_settle _ _)]
    · rw [← pends.completes, ready, List.filterMap_cons_none (Delivery.completes?_settle _ _ _)]
  · have reserves : (rest.deliver start (.complete promise completion)).Reserves {promise} := by
      refine leaves.reserves.alter (Nat.le_refl _) (List.Sublist.refl _) rfl fun other member => ?_
      rw [List.mem_singleton.mp member]
      exact inside
    have dues := Dues.settle promise completion rest.state
    refine .inr ⟨completion, rest.state.ready.filterMap (Delivery.completes? promise), rfl, ?_,
      ⟨reserves, found, fun other member isOther => ?_, ?_, ?_⟩,
      ⟨leaves.toUpholds.trans (.of_same rfl rfl), reserves⟩⟩
    · rw [← pends.completes, ready, List.filterMap_cons_some (Delivery.completes?_complete _ _)]
    · exact (dues.only other member isOther).elim (fun old => only other old isOther) id
    · rw [← pends.settles, ready, List.filterMap_cons_none (Delivery.settles?_complete _ _ _)]
      exact dues.settles
    · exact dues.completes.trans (List.append_nil _)

/-- A completion that reaches its promise and has no outcome leaves no trace. -/
theorem deliver_unread {completion : Completion} (found : rest.state.promises[promise]? = some owed)
    (undecided : owed.outcome = none) {failure : Failure}
    (unread : completion.outcome owed.helperName = .error failure) :
    rest.deliver start (.settle promise completion) = rest := by
  rw [deliver, settle_unread found undecided unread]

/-- The first completion that has an outcome decides the promise, in the order in which they are
due: first those that are due at once, then those that were put off. -/
theorem Pends.awakens {world : World} {atOnce putOff early behind : List Completion}
    {completion : Completion} {outcome : Outcome Value} (reporting : Reporting start)
    (pends : world.Pends promise owed atOnce putOff) (undecided : owed.outcome = none)
    (inOrder : atOnce ++ putOff = early ++ completion :: behind)
    (unread : ∀ other ∈ early, ∃ failure, other.outcome owed.helperName = .error failure)
    (becomes : completion.outcome owed.helperName = .ok outcome) :
    ∃ last, Awakens start promise world outcome last ∧ Leaves ∅ world last := by
  have pending : atOnce ++ putOff ≠ [] := by
    rw [inOrder]
    exact List.append_ne_nil_of_right_ne_nil _ (List.cons_ne_nil _ _)
  obtain ⟨reached, rest, delivery, delivers, leaves, reaches, due, isFor⟩ :=
    pends.front reporting pending
  have toReached : Leaves ∅ world reached := leaves.mono (Set.empty_subset _)
  rcases reaches.step start due isFor with ⟨first, further, rfl, isFirst, pendsRest⟩ |
    ⟨first, further, rfl, isFirst, pendsRest, leavesRest⟩
  · rw [isFirst] at inOrder
    cases early with
    | nil =>
        obtain ⟨rfl, -⟩ := List.cons.inj inOrder
        obtain ⟨last, awakens, leavesLast, -⟩ := toReached.reserves.settled reporting
          (clear_empty _) due pendsRest.found undecided becomes
        exact ⟨last, .behind delivers awakens, toReached.trans leavesLast⟩
    | cons other others =>
        obtain ⟨rfl, remaining⟩ := List.cons.inj inOrder
        rw [List.forall_mem_cons] at unread
        obtain ⟨⟨failure, isUnread⟩, unread⟩ := unread
        obtain ⟨last, awakens, leavesLast⟩ :=
          Pends.awakens reporting pendsRest undecided remaining unread becomes
        have same : rest.deliver start (.settle promise first) = rest :=
          deliver_unread pendsRest.found undecided isUnread
        have sleeps : Delivers start promise reached rest :=
          .further due rfl (same.symm ▸ .nothing rest)
        exact ⟨last, .behind (delivers.trans sleeps) awakens,
          (toReached.trans (toReached.reserves.next due).1).trans leavesLast⟩
  · have remaining : atOnce ++ [first] ++ further = early ++ completion :: behind := by
      rw [← inOrder, isFirst, List.append_assoc, List.singleton_append]
    obtain ⟨last, awakens, leavesLast⟩ :=
      Pends.awakens reporting pendsRest undecided remaining unread becomes
    exact ⟨last, .behind (delivers.trans (.further due rfl (.nothing _))) awakens,
      (toReached.trans (leavesRest.mono (Set.empty_subset _))).trans leavesLast⟩
termination_by atOnce.length + 2 * putOff.length
decreasing_by
  all_goals rw [isFirst]
  all_goals simp
  all_goals omega

end World

/-! ### The run of a handler -/

namespace Handler

variable {granted : Routine → CacheAction Value} {promise : Nat} {handler : Handler}
  {state ended : CacheState} {firings : List Firing} {raised : Option Failure}

theorem Performs.run (performs : handler.Performs granted promise state firings raised ended)
    (current : Option Nat) :
    handler.run granted promise current state = (raisedResult raised, ended) := by
  induction performs with
  | returns => rfl
  | raises failure => rfl
  | computes acts _ inductionHypothesis =>
      rw [Handler.run]
      exact Action.bind_ok acts inductionHypothesis
  | fires _ inductionHypothesis =>
      rw [Handler.run]
      exact Action.bind_ok rfl inductionHypothesis
  | putsOff _ inductionHypothesis =>
      rw [Handler.run]
      exact Action.bind_ok rfl inductionHypothesis

theorem Performs.length_le (performs : handler.Performs granted promise state firings raised ended)
    (quiet : ∀ routine, Action.Respects (Assigns ∅) (granted routine)) :
    state.promises.length ≤ ended.promises.length := by
  induction performs with
  | returns => exact Nat.le_refl _
  | raises failure => exact Nat.le_refl _
  | @computes routine next state middle ended outcome firings raised acts _ inductionHypothesis =>
      have assigns : Assigns ∅ state (Action.attempt (granted routine) state).2 :=
        (quiet routine).attempt state
      rw [acts] at assigns
      exact assigns.length_le.trans inductionHypothesis
  | fires _ inductionHypothesis => exact inductionHypothesis
  | putsOff _ inductionHypothesis => exact inductionHypothesis

/-- What a handler does makes its uses of the callback due for the promise, and nothing else. -/
theorem Performs.dues (performs : handler.Performs granted promise state firings raised ended)
    (quiet : ∀ routine, Action.Respects (Assigns ∅) (granted routine))
    (old : promise < state.promises.length) :
    Dues promise (firings.filterMap Firing.atOnce?) (firings.filterMap Firing.later?) state
      ended := by
  induction performs with
  | returns => exact .refl promise _
  | raises failure => exact .refl promise _
  | @computes routine next state middle ended outcome firings raised acts _ inductionHypothesis =>
      have assigns : Assigns ∅ state (Action.attempt (granted routine) state).2 :=
        (quiet routine).attempt state
      rw [acts] at assigns
      exact (Dues.of_assigns assigns old).trans
        (inductionHypothesis (old.trans_le assigns.length_le))
  | fires _ inductionHypothesis =>
      exact (Dues.settle promise _ _).trans (inductionHypothesis old)
  | putsOff _ inductionHypothesis =>
      exact (Dues.complete promise _ _).trans (inductionHypothesis old)

end Handler

/-! ### Further completions -/

theorem CacheState.tell_telling (event : Event) (state : CacheState) :
    (tell event state).2 = state.telling event := by
  rw [tell_eq, telling]
  rcases state.log.map event.lines with _ | failure | lines <;> rfl

namespace World

variable {start : Starter} {world rest : World} {promise : Nat} {name : String}
  {completion : Completion} {outcome : Outcome Value}

/-- A further completion for a decided promise is told to the log, once, and nothing else
happens. -/
theorem deliver_decided (decided : world.state.outcome? promise = some outcome)
    (owes : world.state.debtor? promise = some name) :
    ∃ cycle, world.deliver start (.settle promise completion) =
      world.withState (world.state.telling (.duplicate (.text cycle) (.text name))) := by
  obtain ⟨owed, found, isDecided⟩ := Option.bind_eq_some_iff.mp decided
  rw [CacheState.debtor?, found] at owes
  obtain rfl := Option.some.inj owes
  refine ⟨owed.cycleId, ?_⟩
  rw [deliver, settle_again found isDecided, tell_telling]
  rfl

/-- Whatever is awaited, and whatever is remembered until then, the run goes on as it would without
the delivery of something that wakes nobody. -/
theorem runToEnd_unwoken {α : Type} {delivery : Delivery} {state : CacheState}
    (due : world.next? = some (delivery, rest))
    (sleeps : ∀ awaited, rest.wakes awaited delivery = none)
    (delivers : rest.deliver start delivery = rest.withState state) (fuel awaited : Nat)
    (resume : Outcome Value → CacheState → Step CacheState α) :
    runToEnd start (fuel + 1) world.suspended (.waiting awaited world.state resume) =
      runToEnd start fuel world.suspended (.waiting awaited state resume) := by
  obtain ⟨later, -, rfl⟩ := World.next?_eq due
  rw [runToEnd_waiting, due]
  dsimp only
  rw [sleeps awaited, delivers]
  rfl

/-- Of what is due for a promise that nobody waits for, nothing but promises, what is due and the
log is changed. -/
theorem deliver_unawaited (unawaited : ∀ task ∈ world.suspended, task.promise ≠ promise)
    {delivery : Delivery}
    (isCompletion : delivery.IsCompletion promise ∨ delivery = .resume promise) :
    ∃ promises ready lines unwritten, world.deliver start delivery =
      world.withState { world.state.withLog lines unwritten with
        promises := promises
        ready := ready } := by
  obtain ⟨completion, rfl | rfl⟩ | rfl := isCompletion
  · obtain ⟨promises, ready, lines, unwritten, changes⟩ :=
      settle_changes promise completion world.state
    exact ⟨promises, ready, lines, unwritten, by rw [deliver, changes]; rfl⟩
  · exact ⟨_, _, _, _, rfl⟩
  · exact ⟨_, _, _, _, resume_unawaited unawaited⟩

end World

/-- Nobody begins to wait for an old promise while a step runs. -/
theorem Step.Beside.unawaited {α : Type} {start : Starter} {barred own : Set Nat}
    {suspended : List Suspended} {step : Step CacheState α} {result : Except Stop α} {after : World}
    {promise : Nat} (beside : Beside barred own suspended step) (reporting : World.Reporting start)
    (old : promise < step.state.promises.length)
    (unawaited : ∀ task ∈ suspended, task.promise ≠ promise)
    (ends : Ends start suspended step result after) :
    ∀ task ∈ after.suspended, task.promise ≠ promise := by
  induction ends with
  | done => exact unawaited
  | stalled idle => exact unawaited
  | resumed due wakes further inductionHypothesis =>
      obtain ⟨runs, leaves⟩ := beside.resumed due _
      refine inductionHypothesis runs (old.trans_le leaves.promises) ?_
      rwa [(beside.due due).2.1]
  | delivered due sleeps further inductionHypothesis =>
      obtain ⟨popped, same, promises, spared, -⟩ := beside.due due
      obtain ⟨-, adds⟩ := beside.reserves.deliver_next reporting due spared
      obtain ⟨waits, leaves⟩ := beside.delivered reporting due
      refine inductionHypothesis waits (old.trans_le leaves.promises) fun task member => ?_
      rcases adds.fresh task member with waiting | fresh
      · exact unawaited task (same ▸ waiting)
      · rw [promises] at fresh
        exact Nat.ne_of_gt (old.trans_le fresh)

theorem World.Reserves.unawaited {α : Type} {start : Starter} {world after : World}
    {task : Task CacheState α} {result : Except Stop α} {promise : Nat}
    (reserves : world.Reserves ∅) (reporting : World.Reporting start) (assigns : task.Assigns ∅)
    (old : promise < world.state.promises.length)
    (unawaited : ∀ waiting ∈ world.suspended, waiting.promise ≠ promise)
    (runs : World.Runs start world task result after) :
    ∀ waiting ∈ after.suspended, waiting.promise ≠ promise := by
  obtain ⟨beside, leaves⟩ :=
    (assigns world.state).beside reserves (clear_empty _) (grants_empty _)
  exact beside.unawaited reporting (old.trans_le leaves.promises) unawaited runs

/-! ### The status of the call -/

/-- The status of a call that ended with an outcome. -/
def Outcome.status {α : Type} : Outcome α → InvocationStatus
  | .ok _ => .completed
  | .error _ => .failed

namespace Drain

variable {α : Type} {index number : Nat} {progress : Progress} {recorded : Invocation}
  {before asked answered : World} {outcome : Outcome Value} {start : Starter} {invoke : Invoke}
  {state : CacheState}

/-- An action after an event was told, if it was told. -/
theorem invocations_tell {event : Event} {next : Unit → CacheAction α}
    (keeps : ∀ state, (next () state).2.invocations = state.invocations) :
    ((CacheState.tell event >>= next) state).2.invocations = state.invocations := by
  have unchanged : (CacheState.tell event state).2.invocations = state.invocations := by
    obtain ⟨lines, unwritten, changes⟩ := CacheState.tell_changes event state
    rw [changes]
    rfl
  rw [Action.bind_eq]
  rcases told : CacheState.tell event state with ⟨stop | ⟨⟩, after⟩ <;> rw [told] at unchanged
  · exact unchanged
  · exact (keeps after).trans unchanged

theorem invocations_abort (cycle name : Value) (started : Int) (failure : Failure) :
    (abort index number cycle name started failure state).2.invocations =
      (state.withStatus number .failed).invocations := by
  have ends : abort index number cycle name started failure state =
      (do
        CacheState.tell (.failed cycle name (.failure failure)
          (.int (CacheState.elapsed started state.clock)))
        CacheState.tell (.aborted cycle (.int (state.queue index).length))
        Action.fail failure : CacheAction Progress)
        ((state.withStatus number .failed).withQueue index []) :=
    Action.bind_ok (CacheState.setStatus_eq .failed) <|
      Action.bind_ok CacheState.clearWaitlist_eq <|
        Action.bind_ok (CacheState.elapsedSince_eq started) rfl
  rw [ends]
  exact invocations_tell fun _ => invocations_tell fun _ => rfl

theorem invocations_accept (cycle name value : Value) (token : String) (started : Int) :
    (accept number cycle name token started progress value state).2.invocations =
      (state.withStatus number .completed).invocations := by
  cases readable : resultText value with
  | error failure => rw [accept_unreadable readable]
  | ok text =>
      have ends : accept number cycle name token started progress value state =
          (do
            CacheState.tell (.completed cycle name (.int (CacheState.elapsed started state.clock)))
            return progress.complete token text : CacheAction Progress)
            (state.withStatus number .completed) := by
        apply Action.bind_ok (CacheState.setStatus_eq .completed)
        rw [readable]
        exact Action.bind_ok rfl (Action.bind_ok (CacheState.elapsedSince_eq started) rfl)
      rw [ends]
      exact invocations_tell fun _ => rfl

/-- The outcome of a call is the status that its resolution gives it, also if a line about it
cannot be written. -/
theorem Calls.marks (calls : Calls index progress number recorded before asked)
    (runs : World.Runs start asked (invoke number) outcome.asResult answered) :
    ∃ result after, World.Runs start before (Drain.step invoke index number progress) result after ∧
      after.state.invocations =
        (answered.state.withStatus number outcome.status).invocations := by
  cases outcome with
  | ok value =>
      refine ⟨_, answered.withState _, calls.step (.bind runs.attempt
        (World.runs_action rfl rfl)), ?_⟩
      exact invocations_accept _ _ value recorded.token before.state.clock
  | error failure =>
      refine ⟨_, answered.withState _, calls.step (.bind runs.attempt
        (World.runs_action rfl rfl)), ?_⟩
      exact invocations_abort _ _ before.state.clock failure

end Drain

/-! ### The call of a helper that answers through a callback -/

namespace Cache

variable {limits : Limits} {current : Option Nat} {depth index number : Nat}
  {asked answered : World} {call : Invocation} {label : String} {shape : Shape}
  {run : Arguments → Handler} {firings : List Firing} {raised : Option Failure}
  {ended : CacheState} {outcome : Outcome Value}

/-- A call that has come to its helper ends with an outcome, and its status says so. -/
def EndsWith
    (limits : Limits)
    (current : Option Nat)
    (depth index : Nat)
    (asked : World)
    (number : Nat)
    (outcome : Outcome Value)
    (answered : World) : Prop :=
  World.Runs (startRender limits) asked
      (invoker limits current index (nested limits current depth) number) outcome.asResult answered ∧
    ∀ progress recorded before, Drain.Calls index progress number recorded before asked →
      ∃ result after, World.Runs (startRender limits) before
          (Drain.step (invoker limits current index (nested limits current depth)) index number
            progress) result after ∧
        after.state.invocations =
          (answered.state.withStatus number outcome.status).invocations

theorem EndsWith.of_runs (found : asked.state.invocations[number]? = some call)
    (runs : World.Runs (startRender limits) (asked.withState (asked.state.noteStarted number))
      (Invoke.launched limits current (asked.state.cycleId index) (nested limits current depth) call)
      outcome.asResult answered) :
    EndsWith limits current depth index asked number outcome answered :=
  have ends := invoker_runs found runs
  ⟨ends, fun _ _ _ calls => calls.marks ends⟩

/-- The helper is called, and does what its handler does. -/
theorem callback_performs (target : call.target = .helper ⟨label, shape, .callback run⟩)
    (performs : (run call.arguments).Performs (runRoutine limits current)
      asked.state.promises.length (asked.state.calling index number call label) firings raised
      ended) :
    Invoke.callback (runRoutine limits current) current asked.state.promises.length call.target
        call.arguments ((asked.state.noteStarted number).owing call.name (asked.state.cycleId index)) =
      (raisedResult raised, ended) := by
  rw [target, Invoke.callback]
  exact Action.bind_ok rfl (performs.run current)

/-- What a helper raises comes out of its call at once. -/
theorem launched_raised {failure : Failure}
    (target : call.target = .helper ⟨label, shape, .callback run⟩)
    (performs : (run call.arguments).Performs (runRoutine limits current)
      asked.state.promises.length (asked.state.calling index number call label) firings
      (some failure) ended) :
    Invoke.launched limits current (asked.state.cycleId index) (nested limits current depth) call
      (asked.state.noteStarted number) = .done (.error (.failed failure)) ended := by
  have style : call.target.style = .callback := by
    rw [target]
    rfl
  have makes : makePromise call.name (asked.state.cycleId index) (asked.state.noteStarted number) =
      (.ok asked.state.promises.length,
        (asked.state.noteStarted number).owing call.name (asked.state.cycleId index)) := rfl
  rw [Invoke.launched_callback style, Task.bind_ok makes]
  exact Task.bind_stop (callback_performs target performs)

/-- A helper that raises has its call fail with what it raises. -/
theorem endsWith_raised {failure : Failure} (found : asked.state.invocations[number]? = some call)
    (target : call.target = .helper ⟨label, shape, .callback run⟩)
    (performs : (run call.arguments).Performs (runRoutine limits current)
      asked.state.promises.length (asked.state.calling index number call label) firings
      (some failure) ended) :
    EndsWith limits current depth index asked number (.error failure) (asked.withState ended) := by
  refine .of_runs found ?_
  rw [World.Runs, World.withState, launched_raised target performs]
  exact .done

/-- When a helper has raised, nobody waits for its promise, whatever runs afterwards. -/
theorem unawaited_raised {α : Type} {failure : Failure} {task : Task CacheState α}
    {result : Except Stop α} {after : World} (reserves : asked.Reserves ∅)
    (target : call.target = .helper ⟨label, shape, .callback run⟩)
    (performs : (run call.arguments).Performs (runRoutine limits current)
      asked.state.promises.length (asked.state.calling index number call label) firings
      (some failure) ended)
    (assigns : task.Assigns ∅)
    (runs : World.Runs (startRender limits) (asked.withState ended) task result after) :
    ∀ waiting ∈ after.suspended, waiting.promise ≠ asked.state.promises.length := by
  have conforms : (Invoke.launched limits current (asked.state.cycleId index)
      (nested limits current 0) call).Conforms (∅ : Set Nat) :=
    Invoke.conforms_launched (conforms_nested 0) _ call
  have changes := conforms.assigns (asked.state.noteStarted number)
  rw [launched_raised target performs] at changes
  have begun : (asked.withState (asked.state.noteStarted number)).Reserves ∅ :=
    ⟨reserves.known, reserves.waiting, reserves.apart, reserves.due, reserves.tasks⟩
  have made : asked.state.promises.length < ended.promises.length :=
    Nat.lt_of_lt_of_le (by simp [calling, noted, owing, noteStarted])
      (performs.length_le (quiet_runRoutine limits current))
  exact (begun.change changes (grants_empty _)).reserves.unawaited (reporting_startRender limits)
    assigns made (fun waiting member => Nat.ne_of_lt (reserves.waiting waiting member)) runs

/-- When the function of a helper has returned, its promise waits for what it used its callback
for. -/
theorem Waits.pends (waits : Waits limits current index asked number call ended)
    (reserves : asked.Reserves ∅) {atOnce putOff : List Completion}
    (dues : Dues asked.state.promises.length atOnce putOff
      (asked.state.calling index number call label) ended) :
    World.Pends asked.state.promises.length ⟨call.name, asked.state.cycleId index, none⟩ atOnce
      putOff ⟨ended, asked.suspended⟩ := by
  have clear : Clear {asked.state.promises.length} asked.state.ready := fun delivery member =>
    Nat.ne_of_lt (reserves.due delivery member)
  have begun : (asked.withState (asked.state.noteStarted number)).Reserves ∅ :=
    ⟨reserves.known, reserves.waiting, reserves.apart, reserves.due, reserves.tasks⟩
  refine ⟨(waits.reserves begun).mono fun _ member => .inl member, waits.owes, ?_, ?_, ?_⟩
  · intro delivery member isFor
    exact (dues.only delivery member isFor).resolve_left fun old => clear delivery old isFor
  · refine dues.settles.trans ?_
    change asked.state.ready.filterMap _ ++ _ = _
    rw [Delivery.filterMap_settles?_clear clear, List.nil_append]
  · refine dues.completes.trans ?_
    change asked.state.ready.filterMap _ ++ _ = _
    rw [Delivery.filterMap_completes?_clear clear, List.nil_append]

/-- A helper that returns has its call end with what the first completion brings. -/
theorem endsWith_first {early behind : List Completion} {completion : Completion}
    (reserves : asked.Reserves ∅) (found : asked.state.invocations[number]? = some call)
    (target : call.target = .helper ⟨label, shape, .callback run⟩)
    (performs : (run call.arguments).Performs (runRoutine limits current)
      asked.state.promises.length (asked.state.calling index number call label) firings none ended)
    (inOrder : Firing.inOrder firings = early ++ completion :: behind)
    (unread : ∀ other ∈ early, ∃ failure, other.outcome call.name = .error failure)
    (becomes : completion.outcome call.name = .ok outcome) :
    ∃ last, EndsWith limits current depth index asked number outcome last ∧
      World.Leaves ∅ ⟨ended, asked.suspended⟩ last ∧
      last.state.outcome? asked.state.promises.length = some outcome := by
  have waits : Waits limits current index asked number call ended :=
    ⟨by rw [target]; rfl, callback_performs target performs⟩
  have dues : Dues asked.state.promises.length (firings.filterMap Firing.atOnce?)
      (firings.filterMap Firing.later?) (asked.state.calling index number call label) ended :=
    performs.dues (quiet_runRoutine limits current)
      (by simp [calling, noted, owing, noteStarted])
  obtain ⟨last, awakens, leaves⟩ :=
    (waits.pends reserves dues).awakens (reporting_startRender limits) rfl inOrder unread becomes
  have resumes : Ends (startRender limits) asked.suspended
      ((Task.await asked.state.promises.length : Task CacheState Value) ended) outcome.asResult
      last := by
    refine awakens.ends ?_
    cases outcome <;> exact .done
  refine ⟨last, .of_runs found (waits.awaited resumes _), leaves, ?_⟩
  obtain ⟨before, delivery, -, due, wakes⟩ := awakens
  exact (World.wakes_eq wakes).2

end Cache

/-! ### What completions bring -/

/-- What a call ends with by a completion: a result is returned, an exception is kept as it is, and
any other error is reported as a failure of the helper, with its text as the detail. -/
inductive Completion.Brings (helper : String) : Completion → Outcome Value → Prop where
  | result (value : Value) : Brings helper (.result value) (.ok value)
  | kept (failure : Failure) : Brings helper (.failure failure) (.error failure)
  | exception {value : Value} {failure : Failure}
      (isException : Failure.ofValue? value = some failure) :
      Brings helper (.error value) (.error failure)
  | blamed {value : Value} {shown : String} {report : Report}
      (isOther : Failure.ofValue? value = none) (shows : value.display = .ok shown)
      (code : report.code = "HELPER_FAILED") (named : report.helperName = .text helper)
      (detail : report.detail = .text shown) :
      Brings helper (.error value) (.error (.reported report))

/-- Every completion brings something, unless it is an error value that has no text. -/
theorem Completion.outcome_brings (helper : String) (completion : Completion) :
    (∃ outcome, completion.outcome helper = .ok outcome ∧ completion.Brings helper outcome) ∨
      ∃ value failure, completion = .error value ∧ Failure.ofValue? value = none ∧
        value.display = .error failure ∧ completion.outcome helper = .error failure := by
  cases completion with
  | result value => exact .inl ⟨_, rfl, .result value⟩
  | failure failure => exact .inl ⟨_, rfl, .kept failure⟩
  | error value =>
      rw [Completion.outcome]
      cases isException : Failure.ofValue? value with
      | some failure => exact .inl ⟨_, rfl, .exception isException⟩
      | none =>
          cases shows : value.display with
          | ok shown => exact .inl ⟨_, rfl, .blamed isException shows rfl rfl rfl⟩
          | error failure => exact .inr ⟨value, failure, rfl, isException, shows, rfl⟩

/-- The promise of a helper is decided. -/
def World.Decides
    (promise : Nat)
    (helper : String)
    (outcome : Outcome Value)
    (world : World) : Prop :=
  world.state.outcome? promise = some outcome ∧ world.state.debtor? promise = some helper

/-- What a helper does with its callback is decided once.

If its function raises, the call fails with that, whatever the callback was used for before, and
nobody waits for what is due. If it returns, the first completion in the order of delivery decides,
and the promise stays decided like that in whatever runs afterwards. (An error value without a text
cannot decide anything.) A further completion only puts its line into the log, once: whatever
waits meanwhile, with the text and the results that it remembers, goes on as it would without that
completion. -/
theorem decided_once {limits : Limits} {current : Option Nat} {depth index number : Nat}
    {asked : World} {call : Invocation} {label : String} {shape : Shape}
    {run : Arguments → Handler} {firings : List Firing} {raised : Option Failure}
    {ended : CacheState} (reserves : asked.Reserves ∅)
    (found : asked.state.invocations[number]? = some call)
    (target : call.target = .helper ⟨label, shape, .callback run⟩)
    (performs : (run call.arguments).Performs (runRoutine limits current)
      asked.state.promises.length (asked.state.calling index number call label) firings raised
      ended) :
    (∀ failure, raised = some failure →
      Cache.EndsWith limits current depth index asked number (.error failure)
          (asked.withState ended) ∧
        ∀ (α : Type) (task : Task CacheState α) (result : Except Stop α) (after : World),
          task.Assigns ∅ →
            World.Runs (Cache.startRender limits) (asked.withState ended) task result after →
              ∀ waiting ∈ after.suspended, waiting.promise ≠ asked.state.promises.length) ∧
    (raised = none → ∀ early completion behind outcome,
      Firing.inOrder firings = early ++ completion :: behind →
      (∀ other ∈ early, ∃ failure, other.outcome call.name = .error failure) →
      completion.outcome call.name = .ok outcome →
      ∃ last, Cache.EndsWith limits current depth index asked number outcome last ∧
        last.Decides asked.state.promises.length call.name outcome ∧
        ∀ (α : Type) (task : Task CacheState α) (result : Except Stop α) (after : World),
          task.Assigns ∅ → World.Runs (Cache.startRender limits) last task result after →
            after.Decides asked.state.promises.length call.name outcome) ∧
    (∀ completion : Completion,
      (∃ outcome, completion.outcome call.name = .ok outcome ∧
        completion.Brings call.name outcome) ∨
      ∃ value failure, completion = .error value ∧ Failure.ofValue? value = none ∧
        value.display = .error failure ∧ completion.outcome call.name = .error failure) ∧
    (∀ (world rest : World) (outcome : Outcome Value) (completion : Completion),
      world.Decides asked.state.promises.length call.name outcome →
      world.next? = some (.settle asked.state.promises.length completion, rest) →
      ∃ told cycle, told = rest.state.telling (.duplicate (.text cycle) (.text call.name)) ∧
        rest.deliver (Cache.startRender limits) (.settle asked.state.promises.length completion) =
          rest.withState told ∧
        ∀ (α : Type) (fuel awaited : Nat) (resume : Outcome Value → CacheState → Step CacheState α),
          runToEnd (Cache.startRender limits) (fuel + 1) world.suspended
              (.waiting awaited world.state resume) =
            runToEnd (Cache.startRender limits) fuel world.suspended
              (.waiting awaited told resume)) ∧
    ∀ (world : World) (delivery : Delivery),
      (∀ task ∈ world.suspended, task.promise ≠ asked.state.promises.length) →
      delivery.IsCompletion asked.state.promises.length ∨
        delivery = .resume asked.state.promises.length →
      ∃ promises ready lines unwritten, world.deliver (Cache.startRender limits) delivery =
        world.withState { world.state.withLog lines unwritten with
          promises := promises
          ready := ready } := by
  refine ⟨?_, ?_, Completion.outcome_brings call.name, ?_,
    fun world delivery unawaited isFor => World.deliver_unawaited unawaited isFor⟩
  · rintro failure rfl
    exact ⟨Cache.endsWith_raised found target performs, fun α task result after assigns runs =>
      Cache.unawaited_raised reserves target performs assigns runs⟩
  · rintro rfl early completion behind outcome inOrder unread becomes
    obtain ⟨last, ends, leaves, decided⟩ :=
      Cache.endsWith_first reserves found target performs inOrder unread becomes
    have waits : Cache.Waits limits current index asked number call ended :=
      ⟨by rw [target]; rfl, Cache.callback_performs target performs⟩
    have owes : last.state.debtor? asked.state.promises.length = some call.name := by
      refine leaves.named _ _ ?_
      rw [CacheState.debtor?, waits.owes]
      rfl
    refine ⟨last, ends, ⟨decided, owes⟩, fun α task result after assigns runs => ?_⟩
    obtain ⟨upholds, -⟩ := leaves.reserves.runs (clear_empty _)
      (Cache.reporting_startRender limits) assigns runs
    exact ⟨upholds.decided _ _ decided, upholds.named _ _ owes⟩
  · rintro world rest outcome completion ⟨decided, owes⟩ due
    obtain ⟨later, -, rfl⟩ := World.next?_eq due
    obtain ⟨cycle, tells⟩ := @World.deliver_decided (Cache.startRender limits)
      ⟨world.state.withReady later, world.suspended⟩ _ _ completion _ decided owes
    exact ⟨_, cycle, rfl, tells, fun α fuel awaited resume =>
      World.runToEnd_unwoken due (fun _ => rfl) tells fuel awaited resume⟩

namespace Sample

/-- A helper that has a result put off, reports an error that counts as false, and then a result. -/
def undecided : Handler :=
  .completeLater (.result (.text "late")) <|
    .complete (.error (.int 0)) <| .complete (.result (.text "again")) .finish

def undecidedCall : Invocation :=
  { call "<x>" .none with
    target := .helper ⟨"h", .function, .callback fun _ => undecided⟩
    style := .callback }

/-- The error comes first, so the call fails, and blames the helper for an error that shows as 0. -/
theorem undecided_fails :
    ∃ report last, report.code = "HELPER_FAILED" ∧ report.helperName = .text "helper" ∧
      report.detail = .text "0" ∧
      Cache.EndsWith limits none 0 0 ⟨cache [undecidedCall], []⟩ 0 (.error (.reported report)) last ∧
      last.Decides 0 "helper" (.error (.reported report)) := by
  obtain ⟨-, decides, -⟩ :=
    @decided_once limits none 0 0 0 ⟨cache [undecidedCall], []⟩ undecidedCall "h" .function
      (fun _ => undecided)
      [.later (.result (.text "late")), .atOnce (.error (.int 0)), .atOnce (.result (.text "again"))]
      none _
      ⟨by simp, by simp, List.nodup_nil, List.forall_mem_nil _, by simp⟩ rfl rfl
      (.putsOff (.fires (.fires .returns)))
  obtain ⟨last, ends, decided, -⟩ := decides rfl [] (.error (.int 0)) _
    (.error (.reported (.helperFailed "helper" "0"))) rfl (List.forall_mem_nil _) rfl
  exact ⟨_, last, rfl, rfl, rfl, ends, decided⟩

end Sample

end DeferredText
