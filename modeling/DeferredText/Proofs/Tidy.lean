import DeferredText.Proofs.Conduct
import Mathlib.Data.List.Nodup
import Mathlib.Logic.Relation

/-!
Contract: where recorded calls are, from their recording to the end of a run.

A queued call is pending and was never started. Once it is taken off its waitlist it is
never queued again, and only then its implementation is started, once.

Owns: the elementary changes of a cache, the invariant that they keep, and what sequences
of them respect.

Does not own: tasks that wait (`Proofs.Sound`).
-/

namespace DeferredText

open CacheState Territory

namespace CacheState

/-- Every call is queued at most once, is pending while it is queued, and is started at
most once, when it is queued no more. -/
structure Tidy (state : CacheState) : Prop extends Orderly state where
  pending : ∀ index, ∀ number ∈ state.queue index, state.status? number = some .pending
  once : state.started.Nodup
  known : ∀ number ∈ state.started, number < state.invocations.length
  gone : ∀ number ∈ state.started, ∀ index, number ∉ state.queue index

/-- The call exists and is not queued. -/
def Spent
    (state : CacheState)
    (number : Nat) : Prop :=
  number < state.invocations.length ∧ ∀ index, number ∉ state.queue index

/-- The call was taken off its waitlist and is not started yet. -/
def Ready
    (state : CacheState)
    (number : Nat) : Prop :=
  state.Spent number ∧ number ∉ state.started

/-- The state after the implementation of a call was started. -/
def noteStarted
    (state : CacheState)
    (number : Nat) : CacheState :=
  { state with started := state.started ++ [number] }

/-- The state with another default waitlist. -/
def withDefault
    (state : CacheState)
    (index : Nat) : CacheState :=
  { state with defaultWaitlist := index }

/-- The change leaves what identifies a call. -/
def KeepsIdentity (change : Invocation → Invocation) : Prop :=
  ∀ invocation, (change invocation).token = invocation.token ∧
    (change invocation).name = invocation.name ∧
    (change invocation).target = invocation.target ∧
    (change invocation).style = invocation.style

/-- The elementary changes of a cache, as far as they concern recorded calls. -/
inductive Change : CacheState → CacheState → Prop where
  /-- Waitlists and calls are left alone. -/
  | idle {before after : CacheState} (same : after.core = before.core)
      (started : after.started = before.started) : Change before after
  /-- A call is recorded at the end of one waitlist. -/
  | records (state : CacheState) (index : Nat) (invocation : Invocation) (supply : Supply)
      (pending : invocation.status = .pending) :
      Change state (state.recordedIn index invocation supply)
  /-- An empty waitlist is opened. -/
  | opens (state : CacheState) : Change state state.opened
  /-- Another waitlist becomes the default one. -/
  | replaces (state : CacheState) (index : Nat) (inside : index < state.waitlists.length) :
      Change state (state.withDefault index)
  /-- Calls leave a waitlist. -/
  | leaves (state : CacheState) (index : Nat) (numbers : List Nat)
      (fewer : numbers.Sublist (state.queue index)) : Change state (state.withQueue index numbers)
  /-- A call that is not queued changes its status or its arguments. -/
  | updates (state : CacheState) (number : Nat) (change : Invocation → Invocation)
      (isSpent : state.Spent number) (same : KeepsIdentity change) :
      Change state (state.withInvocation number change)
  /-- The implementation of a call that is not queued starts. -/
  | starts (state : CacheState) (number : Nat) (ready : state.Ready number) :
      Change state (state.noteStarted number)

variable {before middle after state : CacheState} {spent : Set Nat} {index number : Nat}

/-! ### The invariant is kept -/

/-- Nothing the invariant is about has changed. -/
theorem Tidy.of_idle (tidy : before.Tidy) (same : after.core = before.core)
    (started : after.started = before.started) : after.Tidy := by
  have moves : Moves .empty before after := .of_core same
  obtain ⟨waitlists, invocations⟩ : after.waitlists = before.waitlists ∧
      after.invocations = before.invocations := by
    simp only [core, Prod.mk.injEq] at same
    exact ⟨same.2.2.2.2.1, same.2.2.2.2.2.2⟩
  have queues : ∀ index, after.queue index = before.queue index := by
    intro index
    rw [queue, queue, waitlist, waitlist, waitlists]
  refine ⟨moves.orderly tidy.toOrderly, ?_, ?_, ?_, ?_⟩
  · intro index number member
    rw [status?, invocations]
    rw [queues] at member
    exact tidy.pending index number member
  · rw [started]
    exact tidy.once
  · rw [started, invocations]
    exact tidy.known
  · intro number member index
    rw [started] at member
    rw [queues]
    exact tidy.gone number member index

theorem tidy_recordedIn {invocation : Invocation} {supply : Supply} (tidy : state.Tidy)
    (pending : invocation.status = .pending) :
    (state.recordedIn index invocation supply).Tidy := by
  refine ⟨orderly_recordedIn tidy.toOrderly, ?_, tidy.once, ?_, ?_⟩
  · intro other number member
    rcases mem_queue_recordedIn.mp member with queued | ⟨rfl, -⟩
    · rw [status?, invocation_recordedIn (tidy.exist other number queued)]
      exact tidy.pending other number queued
    · simp [status?, recordedIn, pending]
  · intro number member
    have old := tidy.known number member
    simp only [recordedIn, List.length_append, List.length_singleton]
    omega
  · intro number member other queued
    rcases mem_queue_recordedIn.mp queued with old | ⟨rfl, -⟩
    · exact tidy.gone number member other old
    · exact absurd (tidy.known _ member) (Nat.lt_irrefl _)

theorem tidy_opened (tidy : state.Tidy) : state.opened.Tidy := by
  have queues := queue_opened state
  refine ⟨(moves_opened state).orderly tidy.toOrderly, ?_, tidy.once, tidy.known, ?_⟩
  · exact fun index number member => tidy.pending index number (queues index ▸ member)
  · exact fun number member index queued => tidy.gone number member index (queues index ▸ queued)

theorem tidy_withDefault (tidy : state.Tidy) (inside : index < state.waitlists.length) :
    (state.withDefault index).Tidy :=
  ⟨⟨tidy.exist, tidy.distinct, tidy.separate, inside⟩, tidy.pending, tidy.once, tidy.known,
    tidy.gone⟩

theorem tidy_withQueue {numbers : List Nat} (tidy : state.Tidy)
    (fewer : numbers.Sublist (state.queue index)) : (state.withQueue index numbers).Tidy := by
  have moves : Moves (.ofWaitlist index) state (state.withQueue index numbers) :=
    moves_withQueue rfl fewer
  have less : ∀ other number, number ∈ (state.withQueue index numbers).queue other →
      number ∈ state.queue other := by
    intro other number member
    have old : number < state.invocations.length :=
      (moves.orderly tidy.toOrderly).exist other number member
    exact moves.queued other number member old
  refine ⟨moves.orderly tidy.toOrderly, ?_, tidy.once, tidy.known, ?_⟩
  · exact fun other number member => tidy.pending other number (less other number member)
  · exact fun number member other queued =>
      tidy.gone number member other (less other number queued)

theorem tidy_withInvocation {change : Invocation → Invocation} (tidy : state.Tidy)
    (isSpent : state.Spent number) (same : KeepsIdentity change) :
    (state.withInvocation number change).Tidy := by
  have moves : Moves ⟨∅, {number}⟩ state (state.withInvocation number change) :=
    moves_withInvocation (.inl rfl) same
  refine ⟨moves.orderly tidy.toOrderly, ?_, tidy.once, ?_, tidy.gone⟩
  · intro other queued member
    have distinct : number ≠ queued := by
      rintro rfl
      exact isSpent.2 other member
    have kept : (state.withInvocation number change).invocations[queued]? =
        state.invocations[queued]? := by
      simp [withInvocation, distinct]
    rw [status?, kept]
    exact tidy.pending other queued member
  · intro other member
    simpa [withInvocation] using tidy.known other member

theorem tidy_noteStarted (tidy : state.Tidy) (ready : state.Ready number) :
    (state.noteStarted number).Tidy := by
  have moves : Moves .empty state (state.noteStarted number) := .of_core rfl
  refine ⟨moves.orderly tidy.toOrderly, tidy.pending, ?_, ?_, ?_⟩
  · rw [noteStarted, List.nodup_append]
    refine ⟨tidy.once, List.nodup_singleton number, ?_⟩
    intro old member new isNew
    rintro rfl
    exact ready.2 (List.mem_singleton.mp isNew ▸ member)
  · intro other member
    rcases List.mem_append.mp member with old | new
    · exact tidy.known other old
    · rw [List.mem_singleton.mp new]
      exact ready.1.1
  · intro other member index
    rcases List.mem_append.mp member with old | new
    · exact tidy.gone other old index
    · rw [List.mem_singleton.mp new]
      exact ready.1.2 index

theorem Change.tidy (change : Change before after) (tidy : before.Tidy) : after.Tidy := by
  cases change with
  | idle same started => exact tidy.of_idle same started
  | records index invocation supply pending => exact tidy_recordedIn tidy pending
  | opens => exact tidy_opened tidy
  | replaces index inside => exact tidy_withDefault tidy inside
  | leaves index numbers fewer => exact tidy_withQueue tidy fewer
  | updates number change isSpent same => exact tidy_withInvocation tidy isSpent same
  | starts number ready => exact tidy_noteStarted tidy ready

/-- In the course of elementary changes, the calls are in order all the time. -/
theorem Tidy.throughout (tidy : before.Tidy) (history : Relation.ReflTransGen Change before after) :
    Relation.ReflTransGen (fun before after => Change before after ∧ after.Tidy) before after ∧
      after.Tidy := by
  induction history with
  | refl => exact ⟨.refl, tidy⟩
  | tail _ change inductionHypothesis =>
      have kept := change.tidy inductionHypothesis.2
      exact ⟨inductionHypothesis.1.tail ⟨change, kept⟩, kept⟩

/-! ### What remains of earlier states -/

/-- What remains of earlier states when a cache goes on. -/
structure Advances (before after : CacheState) : Prop where
  tidy : after.Tidy
  history : Relation.ReflTransGen Change before after
  waitlists : before.waitlists.length ≤ after.waitlists.length
  invocations : before.invocations.length ≤ after.invocations.length
  queued : ∀ index, ∀ number ∈ after.queue index, number < before.invocations.length →
    number ∈ before.queue index

/-- What every change of a cache respects, given calls that are queued no more. -/
def Onward
    (spent : Set Nat)
    (before after : CacheState) : Prop :=
  before.Tidy → (∀ number ∈ spent, before.Spent number) → Advances before after

theorem Advances.refl (tidy : state.Tidy) : Advances state state :=
  ⟨tidy, .refl, Nat.le_refl _, Nat.le_refl _, fun _ _ member _ => member⟩

theorem Advances.trans (first : Advances before middle) (second : Advances middle after) :
    Advances before after where
  tidy := second.tidy
  history := first.history.trans second.history
  waitlists := first.waitlists.trans second.waitlists
  invocations := first.invocations.trans second.invocations
  queued := fun index number member old => first.queued index number
    (second.queued index number member (old.trans_le first.invocations)) old

/-- A call that is queued no more is never queued again. -/
theorem Advances.staysSpent (advances : Advances before after) (isSpent : before.Spent number) :
    after.Spent number := by
  refine ⟨isSpent.1.trans_le advances.invocations, ?_⟩
  intro index member
  exact isSpent.2 index (advances.queued index number member isSpent.1)

theorem Change.advances (change : Change before after) (tidy : before.Tidy) :
    Advances before after := by
  have kept := change.tidy tidy
  have ofMoves : ∀ territory, Moves territory before after → Advances before after :=
    fun _ moves =>
      ⟨kept, .single change, moves.waitlists, moves.invocations, moves.queued⟩
  cases change with
  | idle same started => exact ofMoves .empty (.of_core same)
  | records index invocation supply pending => exact ofMoves .empty moves_recordedIn
  | opens => exact ofMoves .empty (moves_opened before)
  | replaces index inside =>
      exact ⟨kept, .single (.replaces before index inside), Nat.le_refl _, Nat.le_refl _,
        fun _ _ member _ => member⟩
  | leaves index numbers fewer => exact ofMoves (.ofWaitlist index) (moves_withQueue rfl fewer)
  | updates number change isSpent same =>
      exact ofMoves ⟨∅, {number}⟩ (moves_withInvocation (.inl rfl) same)
  | starts number ready =>
      have same : (before.noteStarted number).core = before.core := rfl
      exact ofMoves .empty (.of_core same)

theorem Advances.of_idle (tidy : before.Tidy) (same : after.core = before.core)
    (started : after.started = before.started) : Advances before after :=
  (Change.idle same started).advances tidy

/-! ### Elementary actions -/

instance (spent : Set Nat) : Admits (Onward spent) where
  refl := fun state tidy _ => .refl tidy
  trans := fun first second tidy isSpent => by
    have advances := first tidy isSpent
    exact advances.trans (second advances.tidy fun number member =>
      advances.staysSpent (isSpent number member))
  idle := fun same started tidy _ => .of_idle tidy same started
  recorded := fun state index invocation supply pending tidy _ =>
    (Change.records state index invocation supply pending).advances tidy

theorem onward_setStatus (member : number ∈ spent) (status : InvocationStatus) :
    Action.Respects (Onward spent) (setStatus number status) := by
  intro state tidy isSpent
  apply Change.advances _ tidy
  exact .updates state number _ (isSpent number member) fun _ => ⟨rfl, rfl, rfl, rfl⟩

theorem advances_prepared (tidy : state.Tidy) (isSpent : state.Spent number) (results : Results) :
    Advances state (state.prepared number results) := by
  rw [prepared]
  split
  · exact .refl tidy
  · apply Change.advances _ tidy
    exact .updates state number _ isSpent fun _ => ⟨rfl, rfl, rfl, rfl⟩

theorem onward_clearWaitlist (index : Nat) :
    Action.Respects (Onward spent) (clearWaitlist index) := fun state tidy _ =>
  (Change.leaves state index [] (List.nil_sublist _)).advances tidy

theorem onward_openWaitlist : Action.Respects (Onward spent) openWaitlist := fun state tidy _ =>
  (Change.opens state).advances tidy

/-! ### Calls on their way -/

theorem Ready.advances (ready : before.Ready number) (advances : Advances before after)
    (started : after.started = before.started) : after.Ready number :=
  ⟨advances.staysSpent ready.1, started ▸ ready.2⟩

/-- The oldest call of a waitlist is ready when it is taken off. -/
theorem ready_taken {rest : List Nat} (tidy : state.Tidy)
    (queued : state.queue index = number :: rest) :
    (state.withQueue index rest).Ready number := by
  have isQueued : number ∈ state.queue index := by simp [queued]
  have inside := lt_of_mem_queue isQueued
  refine ⟨⟨tidy.exist index number isQueued, ?_⟩, fun member => tidy.gone number member index isQueued⟩
  intro other still
  rw [queue_withQueue rest inside] at still
  split at still
  · have distinct := tidy.distinct index
    rw [queued, List.nodup_cons] at distinct
    exact distinct.1 still
  · rename_i elsewhere
    exact elsewhere (tidy.separate other index number still isQueued)

end CacheState

end DeferredText
