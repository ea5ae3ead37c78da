import DeferredText.Proofs.Run
import DeferredText.Resolve.Drain
import Mathlib.Data.List.Basic

/-!
Contract: the elementary actions on a cache as changes of its state.

Owns: the state after each elementary action, and what the log can change.

Does not own: sequences of actions (`Proofs.Course`).
-/

namespace DeferredText

theorem Action.bind_eq {σ α β : Type} (action : Action σ α) (next : α → Action σ β) (state : σ) :
    (action >>= next) state =
      match action state with
      | (.ok value, after) => next value after
      | (.error stop, after) => (.error stop, after) := by
  change ExceptT.bindCont next (action state).1 (action state).2 = _
  rcases action state with ⟨stop | value, after⟩ <;> rfl

theorem Action.get_eq {σ : Type} (state : σ) : (get : Action σ σ) state = (.ok state, state) :=
  rfl

theorem Action.bind_ok {σ α β : Type} {action : Action σ α} {next : α → Action σ β}
    {state after : σ} {value : α} {final : Except Stop β × σ}
    (acts : action state = (.ok value, after))
    (further : next value after = final) :
    (action >>= next) state = final := by
  rw [Action.bind_eq, acts]
  exact further

theorem Action.bind_error {σ α β : Type} {action : Action σ α} {next : α → Action σ β}
    {state after : σ} {stop : Stop}
    (acts : action state = (.error stop, after)) :
    (action >>= next) state = (.error stop, after) := by
  rw [Action.bind_eq, acts]

namespace CacheState

/-- The state with one invocation changed. -/
def withInvocation
    (state : CacheState)
    (number : Nat)
    (change : Invocation → Invocation) : CacheState :=
  { state with invocations := state.invocations.modify number change }

def withStatus
    (state : CacheState)
    (number : Nat)
    (status : InvocationStatus) : CacheState :=
  state.withInvocation number fun invocation => { invocation with status := status }

/-- The state in which the arguments of a call that is about to run are settled. -/
def prepared
    (state : CacheState)
    (number : Nat)
    (results : Results) : CacheState :=
  if results.isEmpty then state
  else
    state.withInvocation number fun invocation =>
      { invocation with arguments := invocation.arguments.substitute results }

/-- The numbers queued in a waitlist, oldest first. -/
def queue
    (state : CacheState)
    (index : Nat) : List Nat :=
  (state.waitlist index).pending

/-- The status of a recorded call. -/
def status?
    (state : CacheState)
    (number : Nat) : Option InvocationStatus :=
  state.invocations[number]?.map Invocation.status

/-- The state with other numbers queued in a waitlist. -/
def withQueue
    (state : CacheState)
    (index : Nat)
    (numbers : List Nat) : CacheState :=
  state.setWaitlist index { state.waitlist index with pending := numbers }

/-- The state with another log. -/
def withLines
    (state : CacheState)
    (lines : List String) : CacheState :=
  { state with lines := lines }

/-- The state with another log and other events that the log could not write. -/
def withLog
    (state : CacheState)
    (lines : List String)
    (unwritten : List Event) : CacheState :=
  { state with
    lines := lines
    unwritten := unwritten }

/-- The state after the log could not write an event. -/
def refusing
    (state : CacheState)
    (event : Event) : CacheState :=
  state.withLog state.lines (state.unwritten ++ [event])

/-- The state with other deliveries due. -/
def withReady
    (state : CacheState)
    (ready : List Delivery) : CacheState :=
  { state with ready := ready }

variable {state told : CacheState} {index number : Nat}

/-! ### Queues -/

@[simp]
theorem queue_withInvocation (change : Invocation → Invocation) (other : Nat) :
    (state.withInvocation number change).queue other = state.queue other := by
  rfl

@[simp]
theorem queue_withStatus (status : InvocationStatus) (other : Nat) :
    (state.withStatus number status).queue other = state.queue other := by
  rfl

@[simp]
theorem queue_prepared (results : Results) (other : Nat) :
    (state.prepared number results).queue other = state.queue other := by
  rw [prepared]
  split <;> rfl

@[simp]
theorem queue_withLines (lines : List String) (other : Nat) :
    (state.withLines lines).queue other = state.queue other := by
  rfl

@[simp]
theorem invocations_withLines (lines : List String) :
    (state.withLines lines).invocations = state.invocations := by
  rfl

@[simp]
theorem invocations_withQueue (numbers : List Nat) :
    (state.withQueue index numbers).invocations = state.invocations := by
  rfl

theorem waitlist_eq_empty (beyond : state.waitlists.length ≤ index) :
    state.waitlist index = .empty "" := by
  rw [waitlist, List.getD_eq_getElem?_getD, List.getElem?_eq_none beyond]
  rfl

theorem queue_eq_nil (beyond : state.waitlists.length ≤ index) : state.queue index = [] := by
  rw [queue, waitlist_eq_empty beyond]
  rfl

theorem lt_of_mem_queue (member : number ∈ state.queue index) :
    index < state.waitlists.length := by
  by_contra beyond
  rw [queue_eq_nil (Nat.le_of_not_lt beyond)] at member
  cases member

theorem queue_setWaitlist_self (replacement : Waitlist Nat)
    (inside : index < state.waitlists.length) :
    (state.setWaitlist index replacement).queue index = replacement.pending := by
  simp [queue, waitlist, setWaitlist, List.getD, inside]

theorem queue_setWaitlist_other (replacement : Waitlist Nat) {other : Nat}
    (distinct : other ≠ index) :
    (state.setWaitlist index replacement).queue other = state.queue other := by
  simp [queue, waitlist, setWaitlist, List.getD, List.getElem?_set_ne distinct.symm]

/-- Outside the waitlists there are no queues to change. -/
theorem setWaitlist_beyond (replacement : Waitlist Nat)
    (beyond : state.waitlists.length ≤ index) :
    state.setWaitlist index replacement = state := by
  rw [setWaitlist, List.set_eq_of_length_le beyond]

/-! ### Actions -/

theorem setStatus_eq (status : InvocationStatus) :
    setStatus number status state = (.ok (), state.withStatus number status) := by
  rfl

theorem prepare_eq (results : Results) :
    Drain.prepare number results state = (.ok (), state.prepared number results) := by
  rw [Drain.prepare, prepared]
  cases results.isEmpty <;> rfl

theorem argumentsOf_eq :
    argumentsOf number state =
      (.ok ((state.invocations[number]?.map Invocation.arguments).getD .none), state) := by
  rfl

theorem elapsedSince_eq (started : Int) :
    elapsedSince started state = (.ok (.int (elapsed started state.clock)), state) := by
  rfl

theorem takeNext_eq (index : Nat) (state : CacheState) :
    takeNext index state =
      match (state.waitlist index).take? with
      | none => (.ok none, state)
      | some (number, rest) => (.ok (some number), state.setWaitlist index rest) := by
  have opened : takeNext index state =
      (match (state.waitlist index).take? with
      | none => (pure none : CacheAction (Option Nat))
      | some (number, rest) => do
          set (state.setWaitlist index rest)
          return some number) state := rfl
  rw [opened]
  cases (state.waitlist index).take? <;> rfl

theorem takeNext_nil (empty : state.queue index = []) :
    takeNext index state = (.ok none, state) := by
  have nothing : (state.waitlist index).take? = none := by
    rw [queue] at empty
    rw [Waitlist.take?, empty]
  rw [takeNext_eq, nothing]

theorem takeNext_cons {rest : List Nat} (queued : state.queue index = number :: rest) :
    takeNext index state = (.ok (some number), state.withQueue index rest) := by
  have first : (state.waitlist index).take? =
      some (number, { state.waitlist index with pending := rest }) := by
    rw [queue] at queued
    rw [Waitlist.take?, queued]
  rw [takeNext_eq, first]
  rfl

theorem clearWaitlist_eq :
    clearWaitlist index state = (.ok (state.queue index).length, state.withQueue index []) := by
  rfl

private theorem tell_under (log : Option LogSettings) (event : Event) (state : CacheState) :
    (match log with
      | none => (pure () : CacheAction Unit)
      | some settings =>
          match event.lines settings with
          | .ok lines => set { state with lines := state.lines ++ lines }
          | .error failure => do
              set { state with unwritten := state.unwritten ++ [event] }
              Action.fail failure) state =
      match log.map event.lines with
      | none => (.ok (), state)
      | some (.ok lines) => (.ok (), state.withLines (state.lines ++ lines))
      | some (.error failure) => (.error (.failed failure), state.refusing event) := by
  cases log with
  | none => rfl
  | some settings =>
      dsimp only [Option.map_some]
      cases event.lines settings <;> rfl

theorem tell_eq (event : Event) (state : CacheState) :
    tell event state =
      match state.log.map event.lines with
      | none => (.ok (), state)
      | some (.ok lines) => (.ok (), state.withLines (state.lines ++ lines))
      | some (.error failure) => (.error (.failed failure), state.refusing event) :=
  tell_under state.log event state

theorem tell_silent (event : Event) (silent : state.log = none) :
    tell event state = (.ok (), state) := by
  rw [tell_eq, silent]
  rfl

/-- Telling an event changes the log at most. -/
theorem tell_changes (event : Event) (state : CacheState) :
    ∃ lines unwritten, (tell event state).2 = state.withLog lines unwritten := by
  rw [tell_eq]
  split <;> exact ⟨_, _, rfl⟩

/-- An event that is told adds lines at most. -/
theorem tell_lines {event : Event} (tells : tell event state = (.ok (), told)) :
    ∃ lines, told = state.withLines lines := by
  rw [tell_eq] at tells
  split at tells <;> cases tells
  · exact ⟨state.lines, rfl⟩
  · exact ⟨_, rfl⟩

end CacheState

end DeferredText
