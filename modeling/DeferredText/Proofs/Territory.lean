import DeferredText.Proofs.Effects
import Mathlib.Data.List.Pairwise
import Mathlib.Data.Set.Lattice

/-!
Contract: what the tasks of one cache may do to each other.

A task has a territory: the waitlists it takes calls from, and the calls it has taken.
It changes calls of its territory only, and to a waitlist of another task it can at
most add fresh calls. Tasks with separate territories keep each other's.

Owns: territories, what a task does within one, what it can rely on, and how both
compose.

Does not own: which territory a task has (`Proofs.Guarded`).
-/

namespace DeferredText

namespace CacheState

/-- Queued calls exist, and every call is queued at most once. -/
structure Orderly (state : CacheState) : Prop where
  exist : ∀ index number, number ∈ state.queue index → number < state.invocations.length
  distinct : ∀ index, (state.queue index).Nodup
  separate : ∀ index other number, number ∈ state.queue index → number ∈ state.queue other →
    index = other
  fallback : state.defaultWaitlist < state.waitlists.length

/-- What a call is, apart from its arguments and its status. -/
def identity?
    (state : CacheState)
    (number : Nat) : Option (String × String × Callable × CallStyle) :=
  state.invocations[number]?.map fun invocation =>
    (invocation.token, invocation.name, invocation.target, invocation.style)

/-- The part of a cache that territories are about. -/
def core
    (state : CacheState) :
    PlaceholderShape × Bool × Option LogSettings × Registry × List (Waitlist Nat) × Nat ×
      List Invocation :=
  (state.shape, state.strict, state.log, state.registry, state.waitlists, state.defaultWaitlist,
    state.invocations)

/-- The calls of a waitlist are followed by fresh ones at most. -/
def Extended
    (before after : CacheState)
    (index : Nat) : Prop :=
  ∃ recorded, after.queue index = before.queue index ++ recorded ∧
    ∀ number ∈ recorded, before.invocations.length ≤ number

/-- What every change of a cache respects during renderings and resolutions. -/
structure Grows (before after : CacheState) : Prop where
  waitlists : before.waitlists.length ≤ after.waitlists.length
  invocations : before.invocations.length ≤ after.invocations.length
  queued : ∀ index, ∀ number ∈ after.queue index, number < before.invocations.length →
    number ∈ before.queue index
  identity : ∀ number < before.invocations.length,
    after.identity? number = before.identity? number
  cycles : ∀ index < before.waitlists.length, after.cycleId index = before.cycleId index
  shape : after.shape = before.shape
  strict : after.strict = before.strict
  log : after.log = before.log
  registry : after.registry = before.registry
  fallback : after.defaultWaitlist = before.defaultWaitlist
  orderly : before.Orderly → after.Orderly

end CacheState

open CacheState

/-- What belongs to a task. -/
structure Territory where
  waitlists : Set Nat
  calls : Set Nat

namespace Territory

/-- Nothing at all. -/
def empty : Territory := ⟨∅, ∅⟩

/-- One waitlist, and no call taken from it. -/
def ofWaitlist (index : Nat) : Territory := ⟨{index}, ∅⟩

def union (left right : Territory) : Territory :=
  ⟨left.waitlists ∪ right.waitlists, left.calls ∪ right.calls⟩

/-- The calls of a territory: those taken, and those queued in its waitlists. -/
def reach
    (territory : Territory)
    (state : CacheState) : Set Nat :=
  {number | number ∈ territory.calls ∨
    ∃ index ∈ territory.waitlists, number ∈ state.queue index}

structure Apart (left right : Territory) : Prop where
  waitlists : ∀ index, index ∈ left.waitlists → index ∉ right.waitlists
  calls : ∀ number, number ∈ left.calls → number ∉ right.calls

/-- The waitlists and calls exist, and calls that were taken are not queued. -/
structure Holds
    (territory : Territory)
    (state : CacheState) : Prop where
  waitlists : ∀ index ∈ territory.waitlists, index < state.waitlists.length
  calls : ∀ number ∈ territory.calls, number < state.invocations.length
  taken : ∀ number ∈ territory.calls, ∀ index, number ∉ state.queue index

/-- A territory that grew out of another by fresh waitlists and by calls taken. -/
structure Extends
    (territory earlier : Territory)
    (state : CacheState) : Prop where
  waitlists : ∀ index ∈ territory.waitlists,
    index ∈ earlier.waitlists ∨ state.waitlists.length ≤ index
  calls : ∀ number ∈ territory.calls,
    number ∈ earlier.reach state ∨ state.invocations.length ≤ number

/-- What a task with the territory does. -/
structure Moves
    (territory : Territory)
    (before after : CacheState) : Prop extends Grows before after where
  recorded : ∀ index, index ∉ territory.waitlists → index < before.waitlists.length →
    Extended before after index
  untouched : ∀ number, number ∉ territory.reach before → number < before.invocations.length →
    after.invocations[number]? = before.invocations[number]?

/-- What a task with the territory can rely on while others go on. -/
structure Keeps
    (territory : Territory)
    (before after : CacheState) : Prop extends Grows before after where
  recorded : ∀ index ∈ territory.waitlists, Extended before after index
  untouched : ∀ number ∈ territory.reach before,
    after.invocations[number]? = before.invocations[number]?

end Territory

open Territory

variable {territory other wider earlier left right : Territory}
  {state before middle after : CacheState}

/-! ### Growth -/

namespace CacheState

theorem Extended.refl (index : Nat) : Extended state state index :=
  ⟨[], by simp, by simp⟩

theorem Extended.trans {index : Nat}
    (first : Extended before middle index)
    (second : Extended middle after index)
    (grows : before.invocations.length ≤ middle.invocations.length) :
    Extended before after index := by
  obtain ⟨early, earlyQueue, earlyFresh⟩ := first
  obtain ⟨late, lateQueue, lateFresh⟩ := second
  refine ⟨early ++ late, ?_, ?_⟩
  · rw [lateQueue, earlyQueue, List.append_assoc]
  · intro number member
    rcases List.mem_append.mp member with isEarly | isLate
    · exact earlyFresh number isEarly
    · exact grows.trans (lateFresh number isLate)

theorem Grows.refl (state : CacheState) : Grows state state where
  waitlists := Nat.le_refl _
  invocations := Nat.le_refl _
  queued := fun _ _ member _ => member
  identity := fun _ _ => rfl
  cycles := fun _ _ => rfl
  shape := rfl
  strict := rfl
  log := rfl
  registry := rfl
  fallback := rfl
  orderly := id

theorem Grows.trans
    (first : Grows before middle)
    (second : Grows middle after) : Grows before after where
  waitlists := first.waitlists.trans second.waitlists
  invocations := first.invocations.trans second.invocations
  queued := fun index number member below =>
    first.queued index number
      (second.queued index number member (below.trans_le first.invocations)) below
  identity := fun number below =>
    (second.identity number (below.trans_le first.invocations)).trans (first.identity number below)
  cycles := fun index below =>
    (second.cycles index (below.trans_le first.waitlists)).trans (first.cycles index below)
  shape := second.shape.trans first.shape
  strict := second.strict.trans first.strict
  log := second.log.trans first.log
  registry := second.registry.trans first.registry
  fallback := second.fallback.trans first.fallback
  orderly := fun orderly => second.orderly (first.orderly orderly)

end CacheState

/-! ### Territories -/

namespace Territory

theorem Apart.symm (apart : Apart left right) : Apart right left where
  waitlists := fun index mine yours => apart.waitlists index yours mine
  calls := fun number mine yours => apart.calls number yours mine

instance : Std.Symm Apart := ⟨fun _ _ => Apart.symm⟩

theorem Apart.empty_left (territory : Territory) : Apart empty territory where
  waitlists := fun _ member => absurd member (Set.notMem_empty _)
  calls := fun _ member => absurd member (Set.notMem_empty _)

theorem Holds.empty (state : CacheState) : Holds empty state where
  waitlists := fun _ member => absurd member (Set.notMem_empty _)
  calls := fun _ member => absurd member (Set.notMem_empty _)
  taken := fun _ member => absurd member (Set.notMem_empty _)

theorem Extends.refl (territory : Territory) (state : CacheState) :
    Extends territory territory state where
  waitlists := fun _ member => .inl member
  calls := fun _ member => .inl (.inl member)

theorem Extends.of_empty (territory : Territory) (state : CacheState) :
    Extends empty territory state where
  waitlists := fun _ member => absurd member (Set.notMem_empty _)
  calls := fun _ member => absurd member (Set.notMem_empty _)

/-- The reaches of separate territories do not meet. -/
theorem reach_apart (apart : Apart left right) (orderly : state.Orderly)
    (leftHolds : Holds left state) (rightHolds : Holds right state) {number : Nat}
    (mine : number ∈ left.reach state) : number ∉ right.reach state := by
  intro yours
  rcases mine with taken | ⟨index, owned, queued⟩
  · rcases yours with takenToo | ⟨otherIndex, -, queuedThere⟩
    · exact apart.calls number taken takenToo
    · exact leftHolds.taken number taken otherIndex queuedThere
  · rcases yours with taken | ⟨otherIndex, ownedThere, queuedThere⟩
    · exact rightHolds.taken number taken index queued
    · have same := orderly.separate index otherIndex number queued queuedThere
      exact apart.waitlists index owned (same ▸ ownedThere)

/-- What one task does, a task with a separate territory can rely on. -/
theorem Moves.keeps (moves : Moves left before after) (apart : Apart left right)
    (orderly : before.Orderly) (leftHolds : Holds left before) (rightHolds : Holds right before) :
    Keeps right before after where
  toGrows := moves.toGrows
  recorded := fun index member =>
    moves.recorded index (apart.symm.waitlists index member) (rightHolds.waitlists index member)
  untouched := fun number member => by
    have below : number < before.invocations.length := by
      rcases member with taken | ⟨index, -, queued⟩
      · exact rightHolds.calls number taken
      · exact orderly.exist index number queued
    exact moves.untouched number
      (reach_apart apart.symm orderly rightHolds leftHolds member) below

theorem Moves.refl (territory : Territory) (state : CacheState) : Moves territory state state where
  toGrows := .refl state
  recorded := fun index _ _ => .refl index
  untouched := fun _ _ _ => rfl

/-- A change of anything but waitlists and calls is within every territory. -/
theorem Moves.of_core (same : after.core = before.core) : Moves territory before after := by
  obtain ⟨shape, strict, _, log, _, _, _, registry, waitlists, fallback, calls⟩ := after
  simp only [core, Prod.mk.injEq] at same
  obtain ⟨rfl, rfl, rfl, rfl, rfl, rfl, rfl⟩ := same
  exact ⟨⟨Nat.le_refl _, Nat.le_refl _, fun _ _ member _ => member, fun _ _ => rfl,
    fun _ _ => rfl, rfl, rfl, rfl, rfl, rfl, fun orderly =>
      ⟨orderly.exist, orderly.distinct, orderly.separate, orderly.fallback⟩⟩,
    fun index _ _ => ⟨[], by simp [queue, waitlist], by simp⟩, fun _ _ _ => rfl⟩

theorem Keeps.refl (territory : Territory) (state : CacheState) : Keeps territory state state where
  toGrows := .refl state
  recorded := fun index _ => .refl index
  untouched := fun _ _ => rfl

theorem Keeps.reach (keeps : Keeps territory before after) {number : Nat}
    (member : number ∈ territory.reach before) : number ∈ territory.reach after := by
  rcases member with taken | ⟨index, owned, queued⟩
  · exact .inl taken
  · obtain ⟨recorded, appended, -⟩ := keeps.recorded index owned
    exact .inr ⟨index, owned, by rw [appended]; exact List.mem_append_left _ queued⟩

theorem Keeps.trans (first : Keeps territory before middle) (second : Keeps territory middle after) :
    Keeps territory before after where
  toGrows := first.toGrows.trans second.toGrows
  recorded := fun index member =>
    (first.recorded index member).trans (second.recorded index member) first.invocations
  untouched := fun number member =>
    (second.untouched number (first.reach member)).trans (first.untouched number member)

theorem Holds.grows (holds : Holds territory before) (grows : Grows before after) :
    Holds territory after where
  waitlists := fun index member => (holds.waitlists index member).trans_le grows.waitlists
  calls := fun number member => (holds.calls number member).trans_le grows.invocations
  taken := fun number member index queued =>
    holds.taken number member index
      (grows.queued index number queued (holds.calls number member))

theorem Holds.keeps (holds : Holds territory before) (keeps : Keeps territory before after) :
    Holds territory after :=
  holds.grows keeps.toGrows

/-- What an extended territory reaches is reached before, or is fresh. -/
theorem Extends.reach (extending : Extends wider territory before) (grows : Grows before after)
    {number : Nat} (member : number ∈ wider.reach after)
    (old : number < before.invocations.length) : number ∈ territory.reach before := by
  rcases member with taken | ⟨index, owned, queued⟩
  · rcases extending.calls number taken with reached | fresh
    · exact reached
    · exact absurd fresh (Nat.not_le_of_lt old)
  · have wasQueued := grows.queued index number queued old
    rcases extending.waitlists index owned with mine | fresh
    · exact .inr ⟨index, mine, wasQueued⟩
    · exact absurd fresh (Nat.not_le_of_lt (lt_of_mem_queue wasQueued))

theorem Extends.trans (second : Extends wider other middle) (first : Extends other territory before)
    (grows : Grows before middle) : Extends wider territory before where
  waitlists := fun index member => by
    rcases second.waitlists index member with mine | fresh
    · exact first.waitlists index mine
    · exact .inr (grows.waitlists.trans fresh)
  calls := fun number member => by
    by_cases old : number < before.invocations.length
    · rcases second.calls number member with reached | fresh
      · exact .inl (first.reach grows reached old)
      · exact absurd (grows.invocations.trans fresh) (Nat.not_le_of_lt old)
    · exact .inr (Nat.le_of_not_lt old)

/-- A task goes on in an extended territory. -/
theorem Moves.trans (first : Moves territory before middle)
    (extending : Extends wider territory before) (second : Moves wider middle after) :
    Moves territory before after where
  toGrows := first.toGrows.trans second.toGrows
  recorded := fun index foreign below => by
    have stillForeign : index ∉ wider.waitlists := by
      intro member
      rcases extending.waitlists index member with mine | fresh
      · exact foreign mine
      · exact absurd fresh (Nat.not_le_of_lt below)
    exact (first.recorded index foreign below).trans
      (second.recorded index stillForeign (below.trans_le first.waitlists)) first.invocations
  untouched := fun number foreign below => by
    have stillForeign : number ∉ wider.reach middle := fun member =>
      foreign (extending.reach first.toGrows member below)
    exact (second.untouched number stillForeign (below.trans_le first.invocations)).trans
      (first.untouched number foreign below)

theorem Moves.union_left (moves : Moves left before after) (right : Territory) :
    Moves (right.union left) before after where
  toGrows := moves.toGrows
  recorded := fun index foreign below =>
    moves.recorded index (fun member => foreign (.inr member)) below
  untouched := fun number foreign below => by
    apply moves.untouched number _ below
    rintro (taken | ⟨index, owned, queued⟩)
    · exact foreign (.inl (.inr taken))
    · exact foreign (.inr ⟨index, .inr owned, queued⟩)

theorem Keeps.of_union_left (keeps : Keeps (left.union right) before after) : Keeps left before after where
  toGrows := keeps.toGrows
  recorded := fun index member => keeps.recorded index (.inl member)
  untouched := fun number member => by
    apply keeps.untouched number
    rcases member with taken | ⟨index, owned, queued⟩
    · exact .inl (.inl taken)
    · exact .inr ⟨index, .inl owned, queued⟩

theorem union_comm (left right : Territory) : left.union right = right.union left := by
  simp [union, Set.union_comm]

theorem union_empty (territory : Territory) : territory.union empty = territory := by
  simp [union, empty]

theorem Keeps.of_union_right (keeps : Keeps (left.union right) before after) :
    Keeps right before after := by
  rw [union_comm] at keeps
  exact keeps.of_union_left

theorem Holds.union (leftHolds : Holds left state) (rightHolds : Holds right state) :
    Holds (left.union right) state where
  waitlists := fun index member => member.elim (leftHolds.waitlists index)
    (rightHolds.waitlists index)
  calls := fun number member => member.elim (leftHolds.calls number) (rightHolds.calls number)
  taken := fun number member => member.elim (leftHolds.taken number) (rightHolds.taken number)

theorem Holds.of_union_left (holds : Holds (left.union right) state) : Holds left state where
  waitlists := fun index member => holds.waitlists index (.inl member)
  calls := fun number member => holds.calls number (.inl member)
  taken := fun number member => holds.taken number (.inl member)

theorem Holds.of_union_right (holds : Holds (left.union right) state) : Holds right state := by
  rw [union_comm] at holds
  exact holds.of_union_left

theorem Apart.union (first : Apart territory left) (second : Apart territory right) :
    Apart territory (left.union right) where
  waitlists := fun index mine yours =>
    yours.elim (first.waitlists index mine) (second.waitlists index mine)
  calls := fun number mine yours =>
    yours.elim (first.calls number mine) (second.calls number mine)

theorem Apart.of_union_left (apart : Apart territory (left.union right)) :
    Apart territory left where
  waitlists := fun index mine yours => apart.waitlists index mine (.inl yours)
  calls := fun number mine yours => apart.calls number mine (.inl yours)

theorem Apart.of_union_right (apart : Apart territory (left.union right)) :
    Apart territory right := by
  rw [union_comm] at apart
  exact apart.of_union_left

/-- What a part of a task comes to own is separate from the rest of the task. -/
theorem Apart.extend (apart : Apart left right) (extending : Extends wider left before)
    (holds : Holds right before) : Apart wider right where
  waitlists := fun index member yours => by
    rcases extending.waitlists index member with mine | fresh
    · exact apart.waitlists index mine yours
    · exact absurd fresh (Nat.not_le_of_lt (holds.waitlists index yours))
  calls := fun number member yours => by
    rcases extending.calls number member with (taken | ⟨index, -, queued⟩) | fresh
    · exact apart.calls number taken yours
    · exact holds.taken number yours index queued
    · exact absurd fresh (Nat.not_le_of_lt (holds.calls number yours))

theorem Extends.union_right (extending : Extends wider left before) (right : Territory) :
    Extends (right.union wider) (right.union left) before where
  waitlists := fun index member => by
    rcases member with yours | mine
    · exact .inl (.inl yours)
    · exact (extending.waitlists index mine).imp_left .inr
  calls := fun number member => by
    rcases member with yours | mine
    · exact .inl (.inl (.inl yours))
    · refine (extending.calls number mine).imp_left ?_
      rintro (taken | ⟨index, owned, queued⟩)
      · exact .inl (.inr taken)
      · exact .inr ⟨index, .inr owned, queued⟩

theorem Extends.of_union (left right : Territory) (state : CacheState) :
    Extends left (left.union right) state where
  waitlists := fun _ member => .inl (.inl member)
  calls := fun _ member => .inl (.inl (.inl member))

end Territory

/-! ### Changes of queues and calls -/

section Changes

variable {index number : Nat} {numbers : List Nat}

theorem queue_withQueue (numbers : List Nat) (inside : index < state.waitlists.length)
    (other : Nat) :
    (state.withQueue index numbers).queue other =
      if other = index then numbers else state.queue other := by
  by_cases same : other = index
  · rw [if_pos same, same]
    exact queue_setWaitlist_self _ inside
  · rw [if_neg same]
    exact queue_setWaitlist_other _ same

theorem cycleId_withQueue (numbers : List Nat) (other : Nat) :
    (state.withQueue index numbers).cycleId other = state.cycleId other := by
  by_cases inside : index < state.waitlists.length
  · by_cases same : other = index
    · subst same
      simp [withQueue, setWaitlist, cycleId, waitlist, List.getD, inside]
    · simp [withQueue, setWaitlist, cycleId, waitlist, List.getD,
        List.getElem?_set_ne (Ne.symm same)]
  · rw [withQueue, setWaitlist_beyond _ (Nat.le_of_not_lt inside)]

theorem queue_cleared : (state.withQueue index []).queue index = [] := by
  by_cases inside : index < state.waitlists.length
  · rw [queue_withQueue [] inside, if_pos rfl]
  · rw [withQueue, setWaitlist_beyond _ (Nat.le_of_not_lt inside)]
    exact queue_eq_nil (Nat.le_of_not_lt inside)

/-- Calls go off a waitlist of the territory. -/
theorem Territory.moves_withQueue (owned : index ∈ territory.waitlists)
    (fewer : numbers.Sublist (state.queue index)) :
    Moves territory state (state.withQueue index numbers) := by
  by_cases inside : index < state.waitlists.length
  · have less : ∀ other number, number ∈ (state.withQueue index numbers).queue other →
        number ∈ state.queue other := by
      intro other number member
      rw [queue_withQueue numbers inside] at member
      split at member
      · rename_i same
        exact same ▸ fewer.mem member
      · exact member
    exact
      { waitlists := by simp [withQueue, setWaitlist]
        invocations := Nat.le_refl _
        queued := fun other number member _ => less other number member
        identity := fun _ _ => rfl
        cycles := fun other _ => cycleId_withQueue numbers other
        shape := rfl
        strict := rfl
        log := rfl
        registry := rfl
        fallback := rfl
        orderly := fun orderly =>
          { exist := fun other number member => orderly.exist other number (less other number member)
            distinct := fun other => by
              rw [queue_withQueue numbers inside]
              split
              · exact (orderly.distinct index).sublist fewer
              · exact orderly.distinct other
            separate := fun first second number inFirst inSecond =>
              orderly.separate first second number (less first number inFirst)
                (less second number inSecond)
            fallback := by simpa [withQueue, setWaitlist] using orderly.fallback }
        recorded := fun other foreign _ => by
          have distinct : other ≠ index := by
            rintro rfl
            exact foreign owned
          refine ⟨[], ?_, by simp⟩
          rw [queue_withQueue numbers inside, if_neg distinct, List.append_nil]
        untouched := fun _ _ _ => rfl }
  · rw [withQueue, setWaitlist_beyond _ (Nat.le_of_not_lt inside)]
    exact .refl territory state

/-- The territory after a call was taken off one of its waitlists. -/
def Territory.taking
    (territory : Territory)
    (number : Nat) : Territory :=
  ⟨territory.waitlists, insert number territory.calls⟩

section Taking

variable {rest : List Nat} (queued : state.queue index = number :: rest)
include queued

theorem Territory.extends_taking (owned : index ∈ territory.waitlists) :
    Extends (territory.taking number) territory state where
  waitlists := fun _ member => .inl member
  calls := fun other member => by
    rcases member with rfl | old
    · exact .inl (.inr ⟨index, owned, by simp [queued]⟩)
    · exact .inl (.inl old)

theorem Territory.holds_taking (orderly : state.Orderly) (holds : Holds territory state)
    (owned : index ∈ territory.waitlists) :
    Holds (territory.taking number) (state.withQueue index rest) := by
  have moves : Moves territory state (state.withQueue index rest) :=
    moves_withQueue owned (by rw [queued]; exact List.sublist_cons_self _ _)
  have kept := holds.grows moves.toGrows
  have isQueued : number ∈ state.queue index := by simp [queued]
  constructor
  · exact kept.waitlists
  · intro other member
    rcases member with rfl | old
    · exact orderly.exist index other isQueued
    · exact kept.calls other old
  · intro other member place still
    rcases member with rfl | old
    · rw [queue_withQueue rest (lt_of_mem_queue isQueued)] at still
      split at still
      · have distinct := orderly.distinct index
        rw [queued, List.nodup_cons] at distinct
        exact distinct.1 still
      · rename_i elsewhere
        exact elsewhere (orderly.separate place index other still isQueued)
    · exact kept.taken other old place still

end Taking

/-- A call of the territory changes its arguments or its status. -/
theorem Territory.moves_withInvocation {change : Invocation → Invocation}
    (reached : number ∈ territory.reach state)
    (sameCall : ∀ invocation, (change invocation).token = invocation.token ∧
      (change invocation).name = invocation.name ∧
      (change invocation).target = invocation.target ∧
      (change invocation).style = invocation.style) :
    Moves territory state (state.withInvocation number change) where
  waitlists := Nat.le_refl _
  invocations := by simp [withInvocation]
  queued := fun _ _ member _ => member
  identity := fun other _ => by
    simp only [identity?, withInvocation, List.getElem?_modify]
    cases state.invocations[other]? with
    | none => simp
    | some invocation =>
        obtain ⟨token, name, target, style⟩ := sameCall invocation
        by_cases same : number = other <;> simp [same, token, name, target, style]
  cycles := fun _ _ => rfl
  shape := rfl
  strict := rfl
  log := rfl
  registry := rfl
  fallback := rfl
  orderly := fun orderly =>
    { exist := fun index other member => by
        simpa [withInvocation] using orderly.exist index other member
      distinct := orderly.distinct
      separate := orderly.separate
      fallback := orderly.fallback }
  recorded := fun _ _ _ => ⟨[], by simp [queue, withInvocation, waitlist], by simp⟩
  untouched := fun other foreign _ => by
    have distinct : number ≠ other := fun same => foreign (same ▸ reached)
    simp [withInvocation, distinct]

end Changes

end DeferredText
