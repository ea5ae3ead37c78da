import DeferredText.Proofs.Calm
import DeferredText.Proofs.Promised
import DeferredText.Proofs.Steady
import Mathlib.Data.List.Nodup

/-!
Contract: promises that nobody else reports to.

Waiting tasks wait for different promises, and each of them reports to promises of its own.
So whatever happens beside a task, a promise that belongs to it is decided by nobody else,
and what is due for it stays in its place in the queue.

Owns: worlds in which some promises are reserved, what deliveries and runs leave of them,
and deliveries during which a waiting task sleeps.

Does not own: who reports to a reserved promise (`Proofs.Beside`).
-/

namespace DeferredText

open CacheState

variable {α : Type} {barred own : Set Nat} {start : Starter}

/-- None of the deliveries is about a barred promise. -/
def Clear
    (barred : Set Nat)
    (deliveries : List Delivery) : Prop :=
  ∀ delivery ∈ deliveries, delivery.target ∉ barred

/-- The promises exist and are not barred. -/
def CacheState.Grants
    (state : CacheState)
    (barred own : Set Nat) : Prop :=
  ∀ promise ∈ own, promise < state.promises.length ∧ promise ∉ barred

theorem CacheState.grants_empty (state : CacheState) : state.Grants barred ∅ :=
  fun _ member => absurd member (Set.notMem_empty _)

/-- What a waiting task does when it is resumed reports to its own promises only. -/
def Suspended.Assigns
    (own : Set Nat)
    (state : CacheState)
    (task : Suspended) : Prop :=
  ∀ outcome later, state.promises.length ≤ later.promises.length →
    Step.Assigns own later (task.resume outcome later)

/-- The name of the helper that owes the outcome of a promise. -/
def CacheState.debtor?
    (state : CacheState)
    (promise : Nat) : Option String :=
  state.promises[promise]?.map Promise.helperName

/-- What a change leaves of older promises: the barred ones stay as they are, and the others
stay decided and with the helper that they were made for. -/
structure CacheState.Upholds (barred : Set Nat) (before after : CacheState) : Prop where
  promises : before.promises.length ≤ after.promises.length
  kept : ∀ promise ∈ barred, after.promises[promise]? = before.promises[promise]?
  named : ∀ promise name, before.debtor? promise = some name → after.debtor? promise = some name
  decided : ∀ promise outcome, before.outcome? promise = some outcome →
    after.outcome? promise = some outcome
  log : after.log = before.log

namespace CacheState

variable {before middle after : CacheState} {promise : Nat} {owed : Promise}

theorem Upholds.trans (first : Upholds barred before middle)
    (second : Upholds barred middle after) : Upholds barred before after where
  promises := first.promises.trans second.promises
  kept := fun promise member => (second.kept promise member).trans (first.kept promise member)
  named := fun promise name owes => second.named promise name (first.named promise name owes)
  decided := fun promise outcome known =>
    second.decided promise outcome (first.decided promise outcome known)
  log := second.log.trans first.log

theorem Upholds.mono (upholds : Upholds barred before after) {fewer : Set Nat}
    (subset : fewer ⊆ barred) : Upholds fewer before after :=
  ⟨upholds.promises, fun promise member => upholds.kept promise (subset member), upholds.named,
    upholds.decided, upholds.log⟩

theorem Upholds.of_same (promises : after.promises = before.promises)
    (log : after.log = before.log) : Upholds barred before after where
  promises := promises ▸ Nat.le_refl _
  kept := fun _ _ => by rw [promises]
  named := fun promise name owes => by
    rw [debtor?, promises]
    exact owes
  decided := fun promise outcome known => by
    rw [outcome?, promises]
    exact known
  log := log

theorem Assigns.upholds (assigns : Assigns own before after)
    (known : ∀ promise ∈ barred, promise < before.promises.length) :
    Upholds barred before after := by
  obtain ⟨made, promises⟩ := assigns.promises
  refine ⟨assigns.length_le, ?_, ?_, ?_, assigns.log⟩
  · intro promise member
    rw [promises, List.getElem?_append_left (known promise member)]
  · intro promise name owes
    rw [debtor?, Option.map_eq_some_iff] at owes ⊢
    obtain ⟨owed, found, isName⟩ := owes
    have inside : promise < before.promises.length := (List.getElem?_eq_some_iff.mp found).1
    rw [promises, List.getElem?_append_left inside]
    exact ⟨owed, found, isName⟩
  · intro promise outcome decided
    rw [outcome?, Option.bind_eq_some_iff] at decided ⊢
    obtain ⟨owed, found, isDecided⟩ := decided
    have inside : promise < before.promises.length := (List.getElem?_eq_some_iff.mp found).1
    rw [promises, List.getElem?_append_left inside]
    exact ⟨owed, found, isDecided⟩

/-- A promise that was not decided is decided. -/
theorem Upholds.of_set {ready : List Delivery} (found : before.promises[promise]? = some owed)
    (undecided : owed.outcome = none) (spared : promise ∉ barred) {replacement : Promise}
    (same : replacement.helperName = owed.helperName) :
    Upholds barred before { before with
      promises := before.promises.set promise replacement
      ready := ready } := by
  refine ⟨by simp, ?_, ?_, ?_, rfl⟩
  · intro other member
    have distinct : promise ≠ other := by
      rintro rfl
      exact spared member
    exact List.getElem?_set_ne distinct
  · intro other name owes
    rw [debtor?] at owes ⊢
    by_cases isOther : promise = other
    · subst isOther
      have inside : promise < before.promises.length := (List.getElem?_eq_some_iff.mp found).1
      rw [List.getElem?_set_self inside, Option.map_some, same]
      rwa [found, Option.map_some] at owes
    · rw [List.getElem?_set_ne isOther]
      exact owes
  · intro other outcome known
    have distinct : promise ≠ other := by
      rintro rfl
      rw [outcome?, found, Option.bind_some, undecided] at known
      cases known
    rw [outcome?, List.getElem?_set_ne distinct]
    exact known

end CacheState

namespace World

/-- Waiting tasks wait for promises of their own, and none of them reports to a barred one. -/
structure Reserves (barred : Set Nat) (world : World) : Prop where
  known : ∀ promise ∈ barred, promise < world.state.promises.length
  waiting : ∀ task ∈ world.suspended, task.promise < world.state.promises.length
  apart : (world.suspended.map Suspended.promise).Nodup
  due : ∀ delivery ∈ world.state.ready, delivery.target < world.state.promises.length
  tasks : ∀ task ∈ world.suspended, ∃ own,
    world.state.Grants barred own ∧ task.Assigns own world.state

/-- What became of a world leaves the barred promises as they were. -/
structure Leaves (barred : Set Nat) (before after : World) : Prop extends
    CacheState.Upholds barred before.state after.state where
  reserves : after.Reserves barred

/-- What became of a world at once: what was due is due still, and what was added behind it
is about other promises. -/
structure Adds (barred : Set Nat) (before after : World) : Prop extends
    Leaves barred before after where
  ready : ∃ added, after.state.ready = before.state.ready ++ added ∧ Clear barred added
  fresh : ∀ task ∈ after.suspended, task ∈ before.suspended ∨
    before.state.promises.length ≤ task.promise

variable {world rest before middle after : World} {delivery : Delivery} {state : CacheState}
  {promise : Nat}

theorem Leaves.refl (reserves : world.Reserves barred) : Leaves barred world world :=
  ⟨.of_same rfl rfl, reserves⟩

theorem Leaves.trans (first : Leaves barred before middle) (second : Leaves barred middle after) :
    Leaves barred before after :=
  ⟨first.toUpholds.trans second.toUpholds, second.reserves⟩

/-! ### Elementary changes -/

theorem Reserves.fewer (reserves : world.Reserves barred) {suspended : List Suspended}
    (fewer : suspended.Sublist world.suspended) : Reserves barred ⟨world.state, suspended⟩ where
  known := reserves.known
  waiting := fun task member => reserves.waiting task (fewer.subset member)
  apart := reserves.apart.sublist (fewer.map Suspended.promise)
  due := reserves.due
  tasks := fun task member => reserves.tasks task (fewer.subset member)

theorem Reserves.mono (reserves : world.Reserves barred) {fewer : Set Nat}
    (subset : fewer ⊆ barred) : world.Reserves fewer where
  known := fun promise member => reserves.known promise (subset member)
  waiting := reserves.waiting
  apart := reserves.apart
  due := reserves.due
  tasks := fun task member => by
    obtain ⟨own, granted, assigns⟩ := reserves.tasks task member
    exact ⟨own, fun promise owned => ⟨(granted promise owned).1, fun inFewer =>
      (granted promise owned).2 (subset inFewer)⟩, assigns⟩

theorem Leaves.mono (leaves : Leaves barred before after) {fewer : Set Nat}
    (subset : fewer ⊆ barred) : Leaves fewer before after :=
  ⟨leaves.toUpholds.mono subset, leaves.reserves.mono subset⟩

/-- Promises are made and deliveries are scheduled. -/
theorem Reserves.alter (reserves : world.Reserves barred)
    (promises : world.state.promises.length ≤ state.promises.length)
    {deliveries : List Delivery} (fewer : deliveries.Sublist world.state.ready)
    {added : List Delivery} (ready : state.ready = deliveries ++ added)
    (inside : ∀ delivery ∈ added, delivery.target < state.promises.length) :
    (world.withState state).Reserves barred where
  known := fun promise member => (reserves.known promise member).trans_le promises
  waiting := fun task member => (reserves.waiting task member).trans_le promises
  apart := reserves.apart
  due := fun delivery member => by
    rw [withState, ready] at member
    rcases List.mem_append.mp member with old | new
    · exact (reserves.due delivery (fewer.subset old)).trans_le promises
    · exact inside delivery new
  tasks := fun task member => by
    obtain ⟨own, granted, assigns⟩ := reserves.tasks task member
    refine ⟨own, fun promise owned => ?_, fun outcome later waited => ?_⟩
    · exact ⟨(granted promise owned).1.trans_le promises, (granted promise owned).2⟩
    · exact assigns outcome later (promises.trans waited)

/-- Nobody but the task that has made a promise reports to it. -/
theorem Reserves.reserve (reserves : world.Reserves barred)
    (assigns : CacheState.Assigns ∅ world.state state)
    (unused : world.state.promises.length ≤ promise) (inside : promise < state.promises.length) :
    (world.withState state).Reserves (insert promise barred) := by
  obtain ⟨added, ready, targets⟩ := assigns.ready
  have older := assigns.length_le
  have altered : (world.withState state).Reserves barred :=
    reserves.alter older (List.Sublist.refl _) ready fun delivery member =>
      (targets delivery member).elim (fun owned => absurd owned (Set.notMem_empty _)) And.right
  refine ⟨?_, altered.waiting, altered.apart, altered.due, ?_⟩
  · rintro other (rfl | member)
    · exact inside
    · exact altered.known other member
  · intro task member
    obtain ⟨own, granted, reports⟩ := reserves.tasks task member
    refine ⟨own, fun other owned => ?_, fun outcome later waited => ?_⟩
    · refine ⟨(granted other owned).1.trans_le older, ?_⟩
      rintro (rfl | isBarred)
      · exact absurd (granted other owned).1 (Nat.not_lt_of_le unused)
      · exact (granted other owned).2 isBarred
    · exact reports outcome later (older.trans waited)

/-- A change that reports to granted promises only. -/
theorem Reserves.change (reserves : world.Reserves barred)
    (assigns : CacheState.Assigns own world.state state)
    (granted : world.state.Grants barred own) : Adds barred world (world.withState state) := by
  have older := assigns.length_le
  obtain ⟨added, ready, targets⟩ := assigns.ready
  have altered : (world.withState state).Reserves barred := by
    refine reserves.alter older (List.Sublist.refl _) ready ?_
    intro delivery member
    rcases targets delivery member with owned | fresh
    · exact (granted _ owned).1.trans_le older
    · exact fresh.2
  refine ⟨⟨assigns.upholds reserves.known, altered⟩, ⟨added, ready, ?_⟩, fun task => .inl⟩
  intro delivery member isBarred
  rcases targets delivery member with owned | fresh
  · exact (granted _ owned).2 isBarred
  · exact absurd (reserves.known _ isBarred) (Nat.not_lt_of_le fresh.1)

/-- A task that is kept beside the others waits for a promise that it has just made. -/
theorem Reserves.keep (reserves : world.Reserves barred) {suspended : List Suspended}
    (fewer : suspended.Sublist world.suspended) {step : Step CacheState Unit}
    (assigns : Step.Assigns own world.state step) (granted : world.state.Grants barred own) :
    Adds barred world (World.keep suspended step) := by
  have among := reserves.fewer fewer
  cases step with
  | done result state =>
      have adds := among.change assigns granted
      exact ⟨⟨adds.toUpholds, adds.reserves⟩, adds.ready,
        fun task member => .inl (fewer.subset member)⟩
  | waiting promise state resume =>
      obtain ⟨changes, unused, inside, resumes⟩ := assigns
      have adds := among.change changes granted
      have older := adds.promises
      refine ⟨⟨adds.toUpholds, ⟨adds.reserves.known, ?_, ?_, adds.reserves.due, ?_⟩⟩, adds.ready, ?_⟩
      · intro task member
        rcases List.mem_append.mp member with old | new
        · exact adds.reserves.waiting task old
        · obtain rfl := List.mem_singleton.mp new
          exact inside
      · rw [World.keep, List.map_append, List.nodup_append]
        refine ⟨adds.reserves.apart, List.nodup_singleton _, ?_⟩
        intro old member new isNew same
        obtain ⟨task, isTask, rfl⟩ := List.mem_map.mp member
        obtain rfl := List.mem_singleton.mp isNew
        have waits := among.waiting task isTask
        exact absurd (same ▸ waits) (Nat.not_lt_of_le unused)
      · intro task member
        rcases List.mem_append.mp member with old | new
        · exact adds.reserves.tasks task old
        · obtain rfl := List.mem_singleton.mp new
          refine ⟨own, fun promise owned => ?_, resumes⟩
          exact ⟨(granted promise owned).1.trans_le older, (granted promise owned).2⟩
      · intro task member
        rcases List.mem_append.mp member with old | new
        · exact .inl (fewer.subset old)
        · obtain rfl := List.mem_singleton.mp new
          exact .inr unused

/-! ### Deliveries -/

/-- A promise is decided, and what waits for it is due. -/
theorem Reserves.decided (reserves : world.Reserves barred)
    (inside : promise < world.state.promises.length) {owed : Promise} :
    Reserves barred (world.withState { world.state with
      promises := world.state.promises.set promise owed
      ready := world.state.ready ++ [.resume promise] }) := by
  refine reserves.alter (by simp) (List.Sublist.refl _) rfl ?_
  intro delivery member
  obtain rfl := List.mem_singleton.mp member
  rw [List.length_set]
  exact inside

theorem Reserves.next (reserves : world.Reserves barred)
    (due : world.next? = some (delivery, rest)) :
    Leaves barred world rest ∧ world.state.ready = delivery :: rest.state.ready ∧
      rest.suspended = world.suspended ∧ rest.state.promises = world.state.promises ∧
      delivery.target < rest.state.promises.length := by
  obtain ⟨later, ready, rfl⟩ := World.next?_eq due
  have fewer : later.Sublist world.state.ready := ready ▸ List.sublist_cons_self delivery later
  have altered : (world.withState (world.state.withReady later)).Reserves barred :=
    reserves.alter (Nat.le_refl _) fewer (List.append_nil later).symm (by simp)
  exact ⟨⟨.of_same rfl rfl, altered⟩, ready, rfl, rfl,
    reserves.due delivery (ready ▸ List.mem_cons_self)⟩

/-- A rendering that may be started reports to the promise that it is started for. -/
def Reporting (start : Starter) : Prop :=
  ∀ promise template data current, (start promise template data current).Assigns {promise}

theorem Reserves.deliver (reserves : world.Reserves barred) (reporting : Reporting start)
    (inside : delivery.target < world.state.promises.length) (spared : delivery.target ∉ barred) :
    Adds barred world (world.deliver start delivery) := by
  have granted : world.state.Grants barred {delivery.target} := by
    rintro promise rfl
    exact ⟨inside, spared⟩
  cases delivery with
  | settle promise completion =>
      rcases settle_cases promise completion world.state with ⟨lines, unwritten, same⟩ |
        ⟨owed, outcome, found, undecided, -, same⟩
      · rw [World.deliver, same]
        exact reserves.change (.of_same rfl rfl rfl) (grants_empty world.state)
      · rw [World.deliver, same]
        refine ⟨⟨.of_set found undecided spared rfl, reserves.decided inside⟩, ⟨_, rfl, ?_⟩,
          fun task => .inl⟩
        intro delivery member
        obtain rfl := List.mem_singleton.mp member
        exact spared
  | complete promise completion =>
      exact reserves.change
        (assigns_schedule (Set.mem_singleton promise) world.state) granted
  | begin promise template data current =>
      exact reserves.keep (List.Sublist.refl _)
        (reporting promise template data current world.state) granted
  | resume promise =>
      rw [World.deliver, World.resume]
      split
      · rename_i outcome task known found
        obtain ⟨own, grants, assigns⟩ := reserves.tasks task (List.mem_of_find?_eq_some found)
        exact reserves.keep List.filter_sublist (assigns outcome world.state (Nat.le_refl _)) grants
      · exact reserves.change (.refl ∅ world.state) (grants_empty world.state)

/-- The oldest delivery is about none of the barred promises. -/
theorem Reserves.deliver_next (reserves : world.Reserves barred) (reporting : Reporting start)
    (due : world.next? = some (delivery, rest)) (spared : delivery.target ∉ barred) :
    Leaves barred world (rest.deliver start delivery) ∧
      Adds barred rest (rest.deliver start delivery) := by
  obtain ⟨leaves, -, -, -, inside⟩ := reserves.next due
  have adds := leaves.reserves.deliver reporting inside spared
  exact ⟨leaves.trans adds.toLeaves, adds⟩

/-! ### Deliveries while a task sleeps -/

/-- Deliveries that do not wake the task that waits for a promise. -/
inductive Delivers (start : Starter) (promise : Nat) : World → World → Prop where
  | nothing (world : World) : Delivers start promise world world
  | further {world rest after : World} {delivery : Delivery}
      (due : world.next? = some (delivery, rest)) (sleeps : rest.wakes promise delivery = none)
      (further : Delivers start promise (rest.deliver start delivery) after) :
      Delivers start promise world after

theorem Delivers.trans (first : Delivers start promise before middle)
    (second : Delivers start promise middle after) : Delivers start promise before after := by
  induction first with
  | nothing => exact second
  | further due sleeps _ inductionHypothesis => exact .further due sleeps (inductionHypothesis second)

/-- The run of a waiting task goes on where the deliveries lead. -/
theorem Delivers.ends {resume : Outcome Value → CacheState → Step CacheState α}
    {result : Except Stop α} {last : World} (delivers : Delivers start promise before after)
    (ends : Ends start after.suspended (.waiting promise after.state resume) result last) :
    Ends start before.suspended (.waiting promise before.state resume) result last := by
  induction delivers with
  | nothing => exact ends
  | further due sleeps _ inductionHypothesis => exact .delivered due sleeps (inductionHypothesis ends)

theorem Steady.delivers {good : World → Prop} {goes : World → World → Prop}
    (steady : Steady start good goes) (valid : good before)
    (delivers : Delivers start promise before after) : goes before after := by
  induction delivers with
  | nothing => exact steady.refl valid
  | further due sleeps _ inductionHypothesis =>
      have delivered := steady.deliver valid due
      exact steady.trans delivered (inductionHypothesis (steady.reaches delivered))

theorem sleeps_of_target (other : delivery.target ≠ promise) :
    world.wakes promise delivery = none := by
  cases delivery with
  | resume resumed =>
      have differs : (resumed == promise) = false := beq_eq_false_iff_ne.mpr other
      rw [World.wakes, Delivery.resumes, differs]
      rfl
  | _ => rfl

/-- What is due before the rest, and is about other promises, is delivered; what is added
meanwhile stands behind the rest. -/
theorem Reserves.delivers (reserves : world.Reserves barred) (reporting : Reporting start)
    (barring : promise ∈ barred) {early late : List Delivery}
    (ready : world.state.ready = early ++ late) (clear : Clear barred early) :
    Delivers start promise world (world.deliverMany start early.length) ∧
      Leaves barred world (world.deliverMany start early.length) ∧
      ∃ added, (world.deliverMany start early.length).state.ready = late ++ added ∧
        Clear barred added := by
  induction early generalizing world late with
  | nil =>
      refine ⟨.nothing world, .refl reserves, [], ?_, by simp [Clear]⟩
      rw [List.append_nil]
      exact ready
  | cons first others inductionHypothesis =>
      let rest := world.withState (world.state.withReady (others ++ late))
      have due : world.next? = some (first, rest) := by
        rw [World.next?, ready]
        rfl
      have spared : first.target ∉ barred := clear first List.mem_cons_self
      obtain ⟨leaves, adds⟩ := reserves.deliver_next reporting due spared
      obtain ⟨added, behind, clearAdded⟩ := adds.ready
      have shifted : (rest.deliver start first).state.ready = others ++ (late ++ added) := by
        rw [behind, ← List.append_assoc]
        rfl
      have many : world.deliverMany start (first :: others).length =
          (rest.deliver start first).deliverMany start others.length := by
        rw [List.length_cons, deliverMany, due]
      obtain ⟨delivers, further, more, readyAfter, clearMore⟩ :=
        inductionHypothesis leaves.reserves shifted
          fun other member => clear other (List.mem_cons_of_mem first member)
      have sleeps : rest.wakes promise first = none :=
        sleeps_of_target fun same => spared (same ▸ barring)
      rw [many]
      refine ⟨.further due sleeps delivers, leaves.trans further, added ++ more, ?_, ?_⟩
      · rw [readyAfter, List.append_assoc]
      · intro other member
        exact (List.mem_append.mp member).elim (clearAdded other) (clearMore other)

/-- As long as a promise is not decided, nothing wakes the task that waits for it. -/
theorem Reserves.delivers_undecided (reserves : world.Reserves barred)
    (reporting : Reporting start) (clear : Clear barred world.state.ready) (count : Nat)
    (undecided : (world.deliverMany start count).state.outcome? promise = none) :
    Delivers start promise world (world.deliverMany start count) ∧
      Leaves barred world (world.deliverMany start count) ∧
      Clear barred (world.deliverMany start count).state.ready := by
  induction count generalizing world with
  | zero => exact ⟨.nothing world, .refl reserves, clear⟩
  | succ count inductionHypothesis =>
      rw [deliverMany] at undecided ⊢
      cases due : world.next? with
      | none => exact ⟨.nothing world, .refl reserves, clear⟩
      | some pair =>
          obtain ⟨first, rest⟩ := pair
          rw [due] at undecided
          dsimp only at undecided ⊢
          obtain ⟨-, ready, -, -, -⟩ := reserves.next due
          rw [ready] at clear
          obtain ⟨leaves, adds⟩ := reserves.deliver_next reporting due (clear first List.mem_cons_self)
          obtain ⟨added, behind, clearAdded⟩ := adds.ready
          have clearNext : Clear barred (rest.deliver start first).state.ready := by
            rw [behind]
            intro other member
            exact (List.mem_append.mp member).elim
              (fun old => clear other (List.mem_cons_of_mem first old)) (clearAdded other)
          obtain ⟨delivers, further, clearAfter⟩ :=
            inductionHypothesis leaves.reserves clearNext undecided
          have sleeps : rest.wakes promise first = none := by
            cases wakes : rest.wakes promise first with
            | none => rfl
            | some outcome =>
                have known := (World.wakes_eq wakes).2
                have decided := further.decided _ _ (adds.decided _ _ known)
                rw [decided] at undecided
                cases undecided
          exact ⟨.further due sleeps delivers, leaves.trans further, clearAfter⟩

/-! ### Waking -/

/-- The task that waits for a promise is woken with an outcome, after deliveries during which
it sleeps. -/
def Awakens
    (start : Starter)
    (promise : Nat)
    (world : World)
    (outcome : Outcome Value)
    (rest : World) : Prop :=
  ∃ before delivery, Delivers start promise world before ∧ before.next? = some (delivery, rest) ∧
    rest.wakes promise delivery = some outcome

variable {outcome : Outcome Value}

theorem Awakens.ends {resume : Outcome Value → CacheState → Step CacheState α}
    {result : Except Stop α} {last : World} (awakens : Awakens start promise world outcome rest)
    (further : Ends start rest.suspended (resume outcome rest.state) result last) :
    Ends start world.suspended (.waiting promise world.state resume) result last := by
  obtain ⟨before, delivery, delivers, due, wakes⟩ := awakens
  exact delivers.ends (.resumed due wakes further)

theorem Awakens.behind (delivers : Delivers start promise before middle)
    (awakens : Awakens start promise middle outcome rest) :
    Awakens start promise before outcome rest := by
  obtain ⟨last, delivery, further, due, wakes⟩ := awakens
  exact ⟨last, delivery, delivers.trans further, due, wakes⟩

/-- When a promise is decided and what waits for it is due, the task is woken. -/
theorem Reserves.awakens (reserves : world.Reserves barred) (reporting : Reporting start)
    (clear : Clear barred world.state.ready) (decided : world.state.outcome? promise = some outcome)
    (due : .resume promise ∈ world.state.ready) :
    ∃ rest, Awakens start promise world outcome rest ∧ Leaves barred world rest ∧
      Clear barred rest.state.ready := by
  obtain ⟨early, late, ready⟩ := List.append_of_mem due
  clear due
  induction early generalizing world late with
  | nil =>
      have next : world.next? = some (.resume promise, world.withState (world.state.withReady late)) :=
        by rw [next?, ready]; rfl
      have wakes : (world.withState (world.state.withReady late)).wakes promise (.resume promise) =
          some outcome := by
        rw [World.wakes, Delivery.resumes, beq_self_eq_true, if_pos rfl]
        exact decided
      obtain ⟨leaves, isReady, -, -, -⟩ := reserves.next next
      rw [isReady] at clear
      exact ⟨_, ⟨world, _, .nothing world, next, wakes⟩, leaves,
        fun other member => clear other (List.mem_cons_of_mem _ member)⟩
  | cons first others inductionHypothesis =>
      let rest := world.withState (world.state.withReady (others ++ .resume promise :: late))
      have next : world.next? = some (first, rest) := by
        rw [next?, ready]
        rfl
      obtain ⟨leaves, isReady, -, -, -⟩ := reserves.next next
      rw [isReady] at clear
      have clearRest : Clear barred rest.state.ready :=
        fun other member => clear other (List.mem_cons_of_mem _ member)
      cases wakes : rest.wakes promise first with
      | some woken =>
          -- The task is woken by an earlier delivery, with the same outcome.
          have known := (World.wakes_eq wakes).2
          have same : rest.state.outcome? promise = some outcome := decided
          rw [same] at known
          cases known
          exact ⟨rest, ⟨world, first, .nothing world, next, wakes⟩, leaves, clearRest⟩
      | none =>
          obtain ⟨goesOn, adds⟩ :=
            reserves.deliver_next reporting next (clear first List.mem_cons_self)
          obtain ⟨added, behind, clearAdded⟩ := adds.ready
          have clearNext : Clear barred (rest.deliver start first).state.ready := by
            rw [behind]
            intro other member
            exact (List.mem_append.mp member).elim (clearRest other) (clearAdded other)
          have shifted : (rest.deliver start first).state.ready =
              others ++ .resume promise :: (late ++ added) := by
            rw [behind]
            simp [rest, withState, withReady]
          obtain ⟨last, awakens, further, clearLast⟩ := inductionHypothesis goesOn.reserves clearNext
            (goesOn.decided _ _ decided) _ shifted
          exact ⟨last, .behind (.further next wakes (.nothing _)) awakens, goesOn.trans further,
            clearLast⟩

end World

/-! ### Runs -/

/-- A step runs beside waiting tasks: if it waits, it is for a promise of its own. -/
structure Step.Beside (barred own : Set Nat) (suspended : List Suspended)
    (step : Step CacheState α) : Prop where
  reserves : World.Reserves barred ⟨step.state, suspended⟩
  clear : Clear barred step.state.ready
  granted : step.state.Grants barred own
  waits : ∀ promise state resume, step = .waiting promise state resume →
    promise ∉ suspended.map Suspended.promise ∧ promise ∉ barred ∧
      promise < state.promises.length ∧
      ∀ outcome later, state.promises.length ≤ later.promises.length →
        Step.Assigns own later (resume outcome later)

namespace Step

open World

variable {suspended : List Suspended} {step : Step CacheState α} {world rest after : World}
  {delivery : Delivery} {promise : Nat} {state : CacheState}
  {resume : Outcome Value → CacheState → Step CacheState α}

/-- A step that is begun in a world runs beside the tasks that wait there. -/
theorem Assigns.beside (assigns : Step.Assigns own world.state step)
    (reserves : world.Reserves barred) (clear : Clear barred world.state.ready)
    (granted : world.state.Grants barred own) :
    Beside barred own world.suspended step ∧
      Leaves barred world ⟨step.state, world.suspended⟩ := by
  have changes : CacheState.Assigns own world.state step.state := by
    cases step with
    | done result state => exact assigns
    | waiting promise state resume => exact assigns.1
  have adds := reserves.change changes granted
  obtain ⟨added, ready, clearAdded⟩ := adds.ready
  refine ⟨⟨adds.reserves, ?_, ?_, ?_⟩, adds.toLeaves⟩
  · rw [show step.state.ready = world.state.ready ++ added from ready]
    intro delivery member
    exact (List.mem_append.mp member).elim (clear delivery) (clearAdded delivery)
  · intro promise owned
    exact ⟨(granted promise owned).1.trans_le changes.length_le, (granted promise owned).2⟩
  · rintro promise state resume rfl
    obtain ⟨-, unused, inside, resumes⟩ := assigns
    refine ⟨fun member => ?_, fun isBarred => ?_, inside, resumes⟩
    · obtain ⟨task, isTask, rfl⟩ := List.mem_map.mp member
      exact absurd (reserves.waiting task isTask) (Nat.not_lt_of_le unused)
    · exact absurd (reserves.known promise isBarred) (Nat.not_lt_of_le unused)

theorem Beside.due (beside : Beside barred own suspended (.waiting promise state resume))
    (due : World.next? ⟨state, suspended⟩ = some (delivery, rest)) :
    Leaves barred ⟨state, suspended⟩ rest ∧ rest.suspended = suspended ∧
      rest.state.promises = state.promises ∧ delivery.target ∉ barred ∧
      Clear barred rest.state.ready := by
  obtain ⟨leaves, ready, same, promises, -⟩ := beside.reserves.next due
  have clear : Clear barred state.ready := beside.clear
  rw [show state.ready = delivery :: rest.state.ready from ready] at clear
  exact ⟨leaves, same, promises, clear delivery List.mem_cons_self,
    fun other member => clear other (List.mem_cons_of_mem delivery member)⟩

theorem Beside.resumed (beside : Beside barred own suspended (.waiting promise state resume))
    (due : World.next? ⟨state, suspended⟩ = some (delivery, rest)) (outcome : Outcome Value) :
    Beside barred own rest.suspended (resume outcome rest.state) ∧
      Leaves barred ⟨state, suspended⟩ ⟨(resume outcome rest.state).state, rest.suspended⟩ := by
  obtain ⟨leaves, same, promises, -, clear⟩ := beside.due due
  obtain ⟨-, -, inside, resumes⟩ := beside.waits _ _ _ rfl
  have granted : rest.state.Grants barred own := by
    rw [Grants, promises]
    exact beside.granted
  obtain ⟨runs, further⟩ :=
    (resumes outcome rest.state (promises ▸ Nat.le_refl _)).beside leaves.reserves clear granted
  exact ⟨runs, leaves.trans further⟩

theorem Beside.delivered (beside : Beside barred own suspended (.waiting promise state resume))
    (reporting : Reporting start)
    (due : World.next? ⟨state, suspended⟩ = some (delivery, rest)) :
    Beside barred own (rest.deliver start delivery).suspended
        (.waiting promise (rest.deliver start delivery).state resume) ∧
      Leaves barred ⟨state, suspended⟩ (rest.deliver start delivery) := by
  obtain ⟨popped, same, promises, spared, clear⟩ := beside.due due
  obtain ⟨leaves, adds⟩ := beside.reserves.deliver_next reporting due spared
  obtain ⟨added, ready, clearAdded⟩ := adds.ready
  obtain ⟨unawaited, unbarred, inside, resumes⟩ := beside.waits _ _ _ rfl
  have older : state.promises.length ≤ (rest.deliver start delivery).state.promises.length :=
    leaves.promises
  refine ⟨⟨leaves.reserves, ?_, ?_, ?_⟩, leaves⟩
  · rw [Step.state, ready]
    intro delivery member
    exact (List.mem_append.mp member).elim (clear delivery) (clearAdded delivery)
  · intro other owned
    exact ⟨(beside.granted other owned).1.trans_le older, (beside.granted other owned).2⟩
  · rintro _ _ _ ⟨⟩
    refine ⟨fun member => ?_, unbarred, inside.trans_le older, fun outcome later waited => ?_⟩
    · obtain ⟨task, isTask, rfl⟩ := List.mem_map.mp member
      rcases adds.fresh task isTask with old | new
      · exact unawaited (List.mem_map_of_mem (same ▸ old))
      · rw [promises] at new
        exact absurd inside (Nat.not_lt_of_le new)
    · exact resumes outcome later (older.trans waited)

/-- The run of a step beside waiting tasks leaves the barred promises as they were. -/
theorem Beside.ends (beside : Beside barred own suspended step) (reporting : Reporting start)
    {result : Except Stop α} (ends : Ends start suspended step result after) :
    Leaves barred ⟨step.state, suspended⟩ after ∧ Clear barred after.state.ready := by
  induction ends with
  | done => exact ⟨.refl beside.reserves, beside.clear⟩
  | stalled idle => exact ⟨.refl beside.reserves, beside.clear⟩
  | resumed due wakes further inductionHypothesis =>
      obtain ⟨runs, leaves⟩ := beside.resumed due _
      obtain ⟨rest, clear⟩ := inductionHypothesis runs
      exact ⟨leaves.trans rest, clear⟩
  | delivered due sleeps further inductionHypothesis =>
      obtain ⟨waits, leaves⟩ := beside.delivered reporting due
      obtain ⟨rest, clear⟩ := inductionHypothesis waits
      exact ⟨leaves.trans rest, clear⟩

end Step

/-- A task that is run in a world leaves the barred promises as they were. -/
theorem World.Reserves.runs {world after : World} {task : Task CacheState α}
    {result : Except Stop α} (reserves : world.Reserves barred)
    (clear : Clear barred world.state.ready) (reporting : World.Reporting start)
    (assigns : task.Assigns ∅) (runs : World.Runs start world task result after) :
    World.Leaves barred world after ∧ Clear barred after.state.ready := by
  obtain ⟨beside, leaves⟩ := (assigns world.state).beside reserves clear (grants_empty _)
  obtain ⟨further, clear⟩ := beside.ends reporting runs
  exact ⟨leaves.trans further, clear⟩

end DeferredText
