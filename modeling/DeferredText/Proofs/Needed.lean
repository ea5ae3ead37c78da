import DeferredText.Proofs.Overlap
import DeferredText.Proofs.Substitution
import Mathlib.Data.List.Nodup

/-!
Contract: the calls that run are the needed ones, in the order they were recorded.

Whether a call is needed is decided during the resolution, in a text that is rewritten
and for a queue that is consumed. As long as tokens do not overlap and no result brings
one, the decision is the same as in the text at the beginning.

Owns: the needed calls of a waitlist, and that a resolution runs them up to the first
one that fails.

Does not own: the text of a resolution (`Proofs.Substitution`).
-/

namespace DeferredText

open CacheState Territory

/-- The calls among those queued whose token is in the text or in an argument of a call
queued behind it, oldest first. -/
def CacheState.needed
    (state : CacheState)
    (text : String) : List Nat → List Nat
  | [] => []
  | number :: later =>
      match state.invocations[number]? with
      | none => state.needed text later
      | some invocation =>
          if Drain.isNeeded text invocation.token
              (later.filterMap fun other => state.invocations[other]?) then
            number :: state.needed text later
          else state.needed text later

/-- The items up to the first one that has the property, and that one. -/
def throughFirst {α : Type} (property : α → Bool) : List α → List α
  | [] => []
  | item :: rest => if property item then [item] else item :: throughFirst property rest

namespace Turn

/-- The value of the call, if it returned one, has a text. -/
def Readable (turn : Turn) : Prop :=
  ∀ value failure, turn.fate ≠ .unreadable value failure

/-- The resolution ends with the turn, since its call failed or its value has no text. -/
def stops (turn : Turn) : Bool :=
  match turn.fate with
  | .unreadable _ _ | .failed _ => true
  | _ => false

/-- The text after the turn. -/
def rewritten
    (turn : Turn)
    (text : String) : String :=
  match turn.fate.text? with
  | none => text
  | some result => replaceText turn.invocation.token result text

/-- No result that is put into the text makes one of the tokens appear. -/
def BringNothing
    (tokens : List String) : String → List Turn → Prop
  | _, [] => True
  | text, turn :: turns =>
      (∀ result, turn.fate.text? = some result →
        BringsNothing tokens turn.invocation.token result text) ∧
        BringNothing tokens (turn.rewritten text) turns

/-- The calls whose implementation was run. -/
def called (turns : List Turn) : List Nat :=
  (turns.filter fun turn => turn.fate.ran).map Turn.number

/-- Whether the resolution ended with the call. -/
def failing
    (turns : List Turn)
    (number : Nat) : Bool :=
  turns.any fun turn => turn.number == number && turn.stops

end Turn

section Lists

variable {α : Type} {property : α → Bool}

theorem throughFirst_isPrefix (items : List α) : throughFirst property items <+: items := by
  induction items with
  | nil => exact List.prefix_rfl
  | cons item rest inductionHypothesis =>
      rw [throughFirst]
      split
      · exact ⟨rest, rfl⟩
      · exact (List.prefix_cons_inj item).mpr inductionHypothesis

end Lists

namespace CacheState

variable {state : CacheState} {text : String}

theorem needed_sublist (numbers : List Nat) : (state.needed text numbers).Sublist numbers := by
  induction numbers with
  | nil => exact List.Sublist.refl _
  | cons number later inductionHypothesis =>
      rw [needed]
      split
      · exact inductionHypothesis.cons number
      · split
        · exact inductionHypothesis.cons_cons number
        · exact inductionHypothesis.cons number

/-- Only the calls that are queued matter. -/
theorem needed_congr {after : CacheState} {numbers : List Nat}
    (same : ∀ number ∈ numbers, after.invocations[number]? = state.invocations[number]?) :
    after.needed text numbers = state.needed text numbers := by
  induction numbers with
  | nil => rfl
  | cons number later inductionHypothesis =>
      have rest : ∀ other ∈ later, after.invocations[other]? = state.invocations[other]? :=
        fun other member => same other (List.mem_cons_of_mem number member)
      rw [needed, needed, same number List.mem_cons_self, inductionHypothesis rest,
        List.filterMap_congr rest]

end CacheState

/-! ### What stays the same while the text is rewritten -/

namespace Drain

/-- The tokens of the calls still queued occur in the text exactly if they occurred in the
text at the beginning, and they do not overlap. -/
structure Steady
    (text : String)
    (index : Nat)
    (world : World)
    (progress : Progress) : Prop where
  nonempty : "" ∉ world.state.tokens index
  distinct : (world.state.tokens index).Nodup
  disjoint : Disjointly (world.state.tokens index) progress.text
  same : ∀ token ∈ world.state.tokens index,
    containsText token progress.text = containsText token text

variable {start : Starter} {invoke : Invoke} {index : Nat} {territory : Territory}
  {text : String} {world after : World} {progress next : Progress} {turn : Turn}
  {turns : List Turn} {outcome : Outcome Progress}

theorem Serves.text_rewritten (serves : Serves start invoke index progress turn (.ok next)) :
    next.text = turn.rewritten progress.text := by
  cases serves <;> rfl

theorem Serves.goesOn (serves : Serves start invoke index progress turn (.ok next)) :
    turn.stops = false := by
  cases serves <;> rfl

theorem Serves.stops {failure : Failure}
    (serves : Serves start invoke index progress turn (.error failure)) :
    turn.stops = true ∧ turn.fate.ran = true := by
  cases serves <;> exact ⟨rfl, rfl⟩

theorem Steady.step {tokens : List String} (steady : Steady text index world progress)
    (serves : Serves start invoke index progress turn (.ok next))
    (leaves : world.state.tokens index =
      turn.invocation.token :: turn.after.state.tokens index)
    (among : ∀ token ∈ world.state.tokens index, token ∈ tokens)
    (nothing : ∀ result, turn.fate.text? = some result →
      BringsNothing tokens turn.invocation.token result progress.text) :
    Steady text index turn.after next := by
  obtain ⟨nonempty, distinct, disjoint, same⟩ := steady
  have others : ∀ token ∈ turn.after.state.tokens index,
      token ∈ world.state.tokens index ∧ token ≠ turn.invocation.token := by
    intro token member
    rw [leaves] at distinct ⊢
    refine ⟨List.mem_cons_of_mem _ member, ?_⟩
    rintro rfl
    exact (List.nodup_cons.mp distinct).1 member
  have served : turn.invocation.token ∈ world.state.tokens index := by
    rw [leaves]
    exact List.mem_cons_self
  have left : "" ∉ turn.after.state.tokens index := fun member => nonempty (others _ member).1
  have leftDistinct : (turn.after.state.tokens index).Nodup := by
    rw [leaves] at distinct
    exact (List.nodup_cons.mp distinct).2
  cases given : turn.fate.text? with
  | none =>
      have unchanged : next.text = progress.text := by
        rw [serves.text_rewritten, Turn.rewritten, given]
      refine ⟨left, leftDistinct, ?_, fun token member => ?_⟩
      · rw [unchanged]
        exact disjoint.mono fun token member => (others token member).1
      · rw [unchanged]
        exact same token (others token member).1
  | some result =>
      have replaced : next.text = replaceText turn.invocation.token result progress.text := by
        rw [serves.text_rewritten, Turn.rewritten, given]
      have brings : BringsNothing (world.state.tokens index) turn.invocation.token result
          progress.text :=
        fun other member => nothing result given other (among other member)
      refine ⟨left, leftDistinct, ?_, fun token member => ?_⟩
      · rw [replaced]
        exact disjoint.replaced nonempty brings served others
      · rw [replaced, disjoint.containsText_replaced nonempty brings served
          (others token member).1 (others token member).2]
        exact same token (others token member).1

/-! ### One turn -/

/-- The call that is taken is the first of the needed calls, if it is run. -/
theorem Takes.needed {rest : List Nat}
    (queued : world.state.queue index = turn.number :: rest)
    (taken : turn.before = world.withState (world.state.withQueue index rest))
    (serves : Serves start invoke index progress turn outcome)
    (same : containsText turn.invocation.token progress.text =
      containsText turn.invocation.token text) :
    world.state.needed text (turn.number :: rest) =
      if turn.fate.ran then turn.number :: world.state.needed text rest
      else world.state.needed text rest := by
  have found : world.state.invocations[turn.number]? = some turn.invocation := by
    have found := serves.found
    rwa [taken] at found
  have later : turn.before.state.queued index =
      rest.filterMap fun other => world.state.invocations[other]? := by
    have left := takes_queue queued taken
    rw [CacheState.queue] at left
    rw [CacheState.queued, left, taken]
    rfl
  have decided : isNeeded text turn.invocation.token
      (rest.filterMap fun other => world.state.invocations[other]?) = turn.fate.ran := by
    rw [← later, isNeeded, ← same]
    cases serves with
    | skipped found unneeded tells => exact unneeded
    | returned calls runs readable tells => exact calls.needed
    | unreadable calls runs unreadable => exact calls.needed
    | failed calls runs tells closes => exact calls.needed
  rw [CacheState.needed, found]
  simp only [decided]

/-- A turn leaves all other calls that are queued or were taken before. -/
theorem Takes.untouched (takes : Takes index world turn)
    (serves : Serves start invoke index progress turn outcome)
    (orders : Orders anyState start) (invokes : ∀ number, (invoke number).Guarded)
    (guarded : World.Guarded anyState territory world) (owned : index ∈ territory.waitlists)
    {number : Nat} (held : number ∈ territory.calls ∨ number ∈ world.state.queue index)
    (other : number ≠ turn.number) :
    turn.after.state.invocations[number]? = world.state.invocations[number]? := by
  have guardedBefore := takes.guarded guarded owned
  have effect := serves.effect orders invokes guardedBefore owned (Set.mem_insert _ _)
  obtain ⟨rest, queued, taken⟩ := takes
  have reached : number ∈ (territory.taking turn.number).reach turn.before.state := by
    rcases held with mine | waiting
    · exact .inl (Set.mem_insert_of_mem _ mine)
    · refine .inr ⟨index, owned, ?_⟩
      rw [takes_queue queued taken]
      rw [queued] at waiting
      exact (List.mem_cons.mp waiting).resolve_left other
  rw [effect.others number reached other, taken]
  rfl

/-! ### Courses -/

/-- No call is recorded in the waitlist by any turn, but that failing empties it. -/
def Silent
    (index : Nat)
    (turns : List Turn) : Prop :=
  ∀ turn ∈ turns, turn.failed = false → turn.Silent index

theorem Silent.tail (silent : Silent index (turn :: turns)) : Silent index turns :=
  fun other member => silent other (List.mem_cons_of_mem turn member)

/-- The turns are those of the queued calls up to the first one that fails. -/
theorem Course.numbers {fails : Nat → Bool}
    (course : Course start invoke index world progress turns outcome after)
    (silent : Silent index turns)
    (agree : ∀ turn ∈ turns, fails turn.number = turn.stops) :
    turns.map Turn.number = throughFirst fails (world.state.queue index) := by
  induction course with
  | finished empty =>
      rw [empty]
      rfl
  | @further world after progress next turn turns outcome takes serves _ inductionHypothesis =>
      have here : fails turn.number = false :=
        (agree turn List.mem_cons_self).trans serves.goesOn
      have quiet := silent turn List.mem_cons_self serves.unfailing
      obtain ⟨rest, queued, taken⟩ := takes
      have left : turn.after.state.queue index = rest := quiet.trans (takes_queue queued taken)
      have further := inductionHypothesis silent.tail fun other member =>
        agree other (List.mem_cons_of_mem turn member)
      rw [queued, throughFirst, here, List.map_cons, further, left]
      rfl
  | @failed world progress turn failure takes serves =>
      have here : fails turn.number = true := (agree turn List.mem_cons_self).trans
        serves.stops.1
      obtain ⟨rest, queued, taken⟩ := takes
      rw [queued, throughFirst, here]
      rfl

theorem Course.numbers_isPrefix
    (course : Course start invoke index world progress turns outcome after)
    (silent : Silent index turns) :
    turns.map Turn.number <+: world.state.queue index := by
  induction course with
  | finished empty => exact List.nil_prefix
  | @further world after progress next turn turns outcome takes serves _ inductionHypothesis =>
      have quiet := silent turn List.mem_cons_self serves.unfailing
      obtain ⟨rest, queued, taken⟩ := takes
      have left : turn.after.state.queue index = rest := quiet.trans (takes_queue queued taken)
      rw [queued, List.map_cons, List.prefix_cons_inj, ← left]
      exact inductionHypothesis silent.tail
  | failed takes serves =>
      obtain ⟨rest, queued, taken⟩ := takes
      rw [queued, List.map_cons, List.map_nil, List.prefix_cons_inj]
      exact List.nil_prefix

/-- The calls that are run are the needed ones up to the first one that fails. -/
theorem Course.called {fails : Nat → Bool} {tokens : List String}
    (course : Course start invoke index world progress turns outcome after)
    (orders : Orders anyState start) (invokes : ∀ number, (invoke number).Guarded)
    (guarded : World.Guarded anyState territory world) (owned : index ∈ territory.waitlists)
    (silent : Silent index turns)
    (agree : ∀ turn ∈ turns, fails turn.number = turn.stops)
    (steady : Steady text index world progress)
    (among : ∀ token ∈ world.state.tokens index, token ∈ tokens)
    (nothing : Turn.BringNothing tokens progress.text turns) :
    Turn.called turns = throughFirst fails (world.state.needed text (world.state.queue index)) := by
  induction course generalizing territory with
  | finished empty =>
      rw [empty]
      rfl
  | @further world after progress next turn turns outcome takes serves _ inductionHypothesis =>
      have here : fails turn.number = false :=
        (agree turn List.mem_cons_self).trans serves.goesOn
      have quiet := silent turn List.mem_cons_self serves.unfailing
      obtain ⟨leaves, guardedAfter⟩ := serves.tokens takes orders invokes guarded owned quiet
      have served : turn.invocation.token ∈ world.state.tokens index := by
        rw [leaves]
        exact List.mem_cons_self
      have untouched : ∀ number ∈ turn.after.state.queue index,
          turn.after.state.invocations[number]? = world.state.invocations[number]? := by
        intro number member
        rw [quiet] at member
        have other : number ≠ turn.number := by
          rintro rfl
          exact (takes.guarded guarded owned).holds.taken _ (Set.mem_insert _ _) index member
        obtain ⟨rest, queued, taken⟩ := id takes
        rw [takes_queue queued taken] at member
        exact takes.untouched serves orders invokes guarded owned
          (.inr (queued ▸ List.mem_cons_of_mem _ member)) other
      have rest := inductionHypothesis guardedAfter owned silent.tail
        (fun other member => agree other (List.mem_cons_of_mem turn member))
        (steady.step serves leaves among nothing.1)
        (fun token member => among token (leaves ▸ List.mem_cons_of_mem _ member))
        (serves.text_rewritten ▸ nothing.2)
      rw [needed_congr untouched] at rest
      obtain ⟨left, queued, taken⟩ := takes
      rw [quiet, takes_queue queued taken] at rest
      rw [queued, Takes.needed queued taken serves (steady.same _ served), Turn.called,
        List.filter_cons]
      split
      · rw [throughFirst, here, List.map_cons]
        exact congrArg _ rest
      · exact rest
  | @failed world progress turn failure takes serves =>
      obtain ⟨stops, ran⟩ := serves.stops
      have here : fails turn.number = true := (agree turn List.mem_cons_self).trans stops
      obtain ⟨rest, queued, taken⟩ := takes
      have served : turn.invocation.token ∈ world.state.tokens index := by
        rw [CacheState.tokens, Takes.queued ⟨rest, queued, taken⟩ serves.found]
        exact List.mem_cons_self
      rw [queued, Takes.needed queued taken serves (steady.same _ served), if_pos ran,
        throughFirst, here, Turn.called, List.filter_cons, if_pos ran]
      rfl

/-- A course leaves the calls it takes no turn for. -/
theorem Course.untouched
    (course : Course start invoke index world progress turns outcome after)
    (orders : Orders anyState start) (invokes : ∀ number, (invoke number).Guarded)
    (guarded : World.Guarded anyState territory world) (owned : index ∈ territory.waitlists)
    (silent : Silent index turns)
    {number : Nat} (held : number ∈ territory.calls ∨ number ∈ world.state.queue index)
    (absent : number ∉ turns.map Turn.number) :
    after.state.invocations[number]? = world.state.invocations[number]? := by
  induction course generalizing territory with
  | finished => rfl
  | @further world after progress next turn turns outcome takes serves _ inductionHypothesis =>
      rw [List.map_cons, List.mem_cons, not_or] at absent
      have quiet := silent turn List.mem_cons_self serves.unfailing
      have guardedAfter := (serves.tokens takes orders invokes guarded owned quiet).2
      have stillHeld : number ∈ (territory.taking turn.number).calls ∨
          number ∈ turn.after.state.queue index := by
        rcases held with mine | waiting
        · exact .inl (Set.mem_insert_of_mem _ mine)
        · obtain ⟨rest, queued, taken⟩ := takes
          rw [queued] at waiting
          rw [quiet, takes_queue queued taken]
          exact .inr ((List.mem_cons.mp waiting).resolve_left absent.1)
      rw [inductionHypothesis guardedAfter owned silent.tail stillHeld absent.2]
      exact takes.untouched serves orders invokes guarded owned held absent.1
  | @failed world progress turn failure takes serves =>
      rw [List.map_cons, List.mem_cons, not_or] at absent
      exact takes.untouched serves orders invokes guarded owned held absent.1

/-- Every call that had its turn ends as its turn did. -/
theorem Course.statuses
    (course : Course start invoke index world progress turns outcome after)
    (orders : Orders anyState start) (invokes : ∀ number, (invoke number).Guarded)
    (guarded : World.Guarded anyState territory world) (owned : index ∈ territory.waitlists)
    (silent : Silent index turns) (once : (turns.map Turn.number).Nodup) :
    ∀ turn ∈ turns, after.state.status? turn.number = some turn.fate.status := by
  induction course generalizing territory with
  | finished => exact fun _ member => absurd member List.not_mem_nil
  | @further world after progress next turn turns outcome takes serves continues
      inductionHypothesis =>
      obtain ⟨fresh, onceMore⟩ := List.nodup_cons.mp once
      have guardedBefore := takes.guarded guarded owned
      have effect := serves.effect orders invokes guardedBefore owned (Set.mem_insert _ _)
      intro other member
      rcases List.mem_cons.mp member with rfl | later
      · rw [CacheState.status?, continues.untouched orders invokes effect.guarded owned silent.tail
          (.inl (Set.mem_insert _ _)) fresh]
        exact effect.status
      · exact inductionHypothesis effect.guarded owned silent.tail onceMore other later
  | @failed world progress turn failure takes serves =>
      have guardedBefore := takes.guarded guarded owned
      have effect := serves.effect orders invokes guardedBefore owned (Set.mem_insert _ _)
      intro other member
      obtain rfl := List.mem_singleton.mp member
      exact effect.status

end Drain

/-! ### Which calls failed -/

section Failing

variable {turns : List Turn} {turn : Turn}

theorem Turn.failing_iff {number : Nat} :
    failing turns number = true ↔ ∃ turn ∈ turns, turn.number = number ∧ turn.stops = true := by
  simp [failing, List.any_eq_true]

/-- As long as a call has one turn only, its turn says whether the resolution ended. -/
theorem Turn.failing_eq (once : (turns.map Turn.number).Nodup) (member : turn ∈ turns) :
    failing turns turn.number = turn.stops := by
  rw [Bool.eq_iff_iff, failing_iff]
  constructor
  · rintro ⟨other, otherMember, same, stops⟩
    rwa [← List.inj_on_of_nodup_map once otherMember member same]
  · exact fun stops => ⟨turn, member, rfl, stops⟩

theorem Turn.mem_called {number : Nat} :
    number ∈ called turns ↔ ∃ turn ∈ turns, turn.number = number ∧ turn.fate.ran = true := by
  simp only [called, List.mem_map, List.mem_filter]
  constructor
  · rintro ⟨turn, ⟨member, ran⟩, same⟩
    exact ⟨turn, member, same, ran⟩
  · rintro ⟨turn, member, same, ran⟩
    exact ⟨turn, ⟨member, ran⟩, same⟩

end Failing

namespace Drain

/-- The needed calls of a waitlist were run, in order, up to the first one that failed. -/
structure RunsNeeded
    (index : Nat)
    (text : String)
    (turns : List Turn)
    (before after : CacheState) : Prop where
  called : Turn.called turns =
    throughFirst (Turn.failing turns) (before.needed text (before.queue index))
  ran : ∀ number ∈ Turn.called turns, after.status? number =
    some (if Turn.failing turns number then .failed else .completed)
  skipped : ∀ number ∈ throughFirst (Turn.failing turns) (before.queue index),
    number ∉ before.needed text (before.queue index) → after.status? number = some .skipped
  /-- The calls behind the one that failed are not run and stay as they were recorded. -/
  unreached : ∀ number ∈ before.queue index,
    number ∉ throughFirst (Turn.failing turns) (before.queue index) →
      number ∉ Turn.called turns ∧ after.invocations[number]? = before.invocations[number]?

variable {start : Starter} {invoke : Invoke} {index : Nat} {territory : Territory}
  {text : String} {world after : World} {progress : Progress} {turns : List Turn}
  {outcome : Outcome Progress}

/-- Only a call whose value has no text has another status than it should. -/
theorem runsNeeded_iff {before after : CacheState}
    (once : (turns.map Turn.number).Nodup)
    (numbers : turns.map Turn.number =
      throughFirst (Turn.failing turns) (before.queue index))
    (called : Turn.called turns =
      throughFirst (Turn.failing turns) (before.needed text (before.queue index)))
    (statuses : ∀ turn ∈ turns, after.status? turn.number = some turn.fate.status)
    (untouched : ∀ number ∈ before.queue index, number ∉ turns.map Turn.number →
      after.invocations[number]? = before.invocations[number]?) :
    RunsNeeded index text turns before after ↔ ∀ turn ∈ turns, turn.Readable := by
  constructor
  · intro runs turn member value failure unreadable
    have wasCalled : turn.number ∈ Turn.called turns :=
      Turn.mem_called.mpr ⟨turn, member, rfl, by rw [unreadable]; rfl⟩
    have status := runs.ran turn.number wasCalled
    rw [statuses turn member, Turn.failing_eq once member, Turn.stops, unreadable] at status
    cases Option.some.inj status
  · intro readable
    constructor
    · exact called
    · intro number member
      obtain ⟨turn, taken, rfl, ran⟩ := Turn.mem_called.mp member
      rw [statuses turn taken, Turn.failing_eq once taken, Turn.stops]
      cases fate : turn.fate with
      | skipped =>
          rw [fate] at ran
          cases ran
      | returned value text => rfl
      | unreadable value failure => exact absurd fate (readable turn taken value failure)
      | failed failure => rfl
    · intro number reached unneeded
      rw [← numbers] at reached
      obtain ⟨turn, taken, rfl⟩ := List.mem_map.mp reached
      have passed : turn.fate.ran = false := by
        by_contra ran
        have member := Turn.mem_called.mpr ⟨turn, taken, rfl, Bool.eq_true_of_not_eq_false ran⟩
        rw [called] at member
        exact unneeded ((throughFirst_isPrefix _).subset member)
      rw [statuses turn taken]
      cases fate : turn.fate with
      | skipped => rfl
      | returned value text | unreadable value failure | failed failure =>
          rw [fate] at passed
          cases passed
    · intro number queued unreached
      rw [← numbers] at unreached
      refine ⟨fun member => ?_, untouched number queued unreached⟩
      obtain ⟨turn, taken, rfl, -⟩ := Turn.mem_called.mp member
      exact unreached (List.mem_map_of_mem taken)

theorem Course.runsNeeded_iff {tokens : List String} {before later : CacheState}
    (course : Course start invoke index world progress turns outcome after)
    (orders : Orders anyState start) (invokes : ∀ number, (invoke number).Guarded)
    (guarded : World.Guarded anyState territory world) (owned : index ∈ territory.waitlists)
    (silent : Silent index turns)
    (steady : Steady text index world progress)
    (among : ∀ token ∈ world.state.tokens index, token ∈ tokens)
    (nothing : Turn.BringNothing tokens progress.text turns)
    (queue : world.state.queue index = before.queue index)
    (recorded : world.state.invocations = before.invocations)
    (kept : later.invocations = after.state.invocations) :
    RunsNeeded index text turns before later ↔ ∀ turn ∈ turns, turn.Readable := by
  have once : (turns.map Turn.number).Nodup :=
    (course.numbers_isPrefix silent).sublist.nodup (guarded.orderly.distinct index)
  have agree : ∀ turn ∈ turns, Turn.failing turns turn.number = turn.stops :=
    fun turn member => Turn.failing_eq once member
  apply Drain.runsNeeded_iff once
  · rw [← queue]
    exact course.numbers silent agree
  · have same : world.state.needed text (before.queue index) =
        before.needed text (before.queue index) :=
      needed_congr fun number _ => by rw [recorded]
    rw [← same, ← queue]
    exact course.called orders invokes guarded owned silent agree steady among nothing
  · intro turn member
    rw [CacheState.status?, kept]
    exact course.statuses orders invokes guarded owned silent once turn member
  · intro number queued absent
    rw [← queue] at queued
    rw [kept, ← recorded]
    exact course.untouched orders invokes guarded owned silent (.inr queued) absent

theorem Resolution.runsNeeded_iff {outcome : Outcome String}
    (resolution : Resolution start invoke index text world turns outcome after)
    (orders : Orders anyState start) (invokes : ∀ number, (invoke number).Guarded)
    (guarded : World.Guarded anyState territory world) (owned : index ∈ territory.waitlists)
    (silent : Silent index turns)
    (nonempty : "" ∉ world.state.tokens index)
    (distinct : (world.state.tokens index).Nodup)
    (disjoint : Disjointly (world.state.tokens index) text)
    (nothing : Turn.BringNothing (world.state.tokens index) text turns) :
    RunsNeeded index text turns world.state after.state ↔ ∀ turn ∈ turns, turn.Readable := by
  have steady : ∀ {begun : World}, begun.state.tokens index = world.state.tokens index →
      Steady text index begun (.start text) := by
    intro begun tokens
    constructor
    · rwa [tokens]
    · rwa [tokens]
    · rwa [tokens]
    · exact fun _ _ => rfl
  cases resolution with
  | finished begins course ends =>
      obtain ⟨tokens, guardedBegun⟩ := tells_begin begins guarded
      exact course.runsNeeded_iff orders invokes guardedBegun owned silent (steady tokens)
        (fun token member => tokens ▸ member) nothing (begins.queue index) begins.invocations
        ends.invocations
  | failed begins course =>
      obtain ⟨tokens, guardedBegun⟩ := tells_begin begins guarded
      exact course.runsNeeded_iff orders invokes guardedBegun owned silent (steady tokens)
        (fun token member => tokens ▸ member) nothing (begins.queue index) begins.invocations rfl

end Drain

/-- Resolving a text runs the calls whose token is in the text or in an argument of a call
recorded later, in the order they were recorded, up to the first one that fails. The other
calls reached are skipped, those behind the failing one stay as they were recorded. This
is so exactly if every value has a text: without one the call counts as completed. -/
theorem resolve_needed {limits : Limits} {current : Option Nat} {index : Nat} {text : String}
    {world after : World} {turns : List Turn} {outcome : Outcome String}
    (guarded : World.Guarded anyState (.ofWaitlist index) world)
    (resolution : Drain.Resolution (Cache.startRender limits)
      (Cache.resolver limits current index) index text world turns outcome after)
    (enough : (world.state.queue index).length < limits.steps)
    (silent : Drain.Silent index turns)
    (nonempty : "" ∉ world.state.tokens index)
    (distinct : (world.state.tokens index).Nodup)
    (disjoint : Disjointly (world.state.tokens index) text)
    (nothing : Turn.BringNothing (world.state.tokens index) text turns) :
    (∃ fuel, ∀ more, fuel ≤ more →
      world.run (Cache.startRender limits) more
        (Cache.resolve limits current none (some index) text) =
          (Outcome.asResult (outcome.map some), after)) ∧
      (Drain.RunsNeeded index text turns world.state after.state ↔
        ∀ turn ∈ turns, turn.Readable) := by
  have runs := resolution.runsNeeded_iff (Cache.orders limits) (Cache.guarded_resolver index)
    guarded rfl silent nonempty distinct disjoint nothing
  have few : turns.length < limits.steps :=
    (resolution.length_le silent).trans_lt enough
  exact ⟨(Cache.resolve_runs resolution few).run, runs⟩

namespace Sample

/-- The second call is not needed and skipped. -/
theorem resolve_two_needed :
    (∃ fuel, ∀ more, fuel ≤ more →
      (World.ofState two).run (Cache.startRender limits) more
        (Cache.resolve limits none none (some 0) "a<x>b<x>") =
          (.ok (some "a1b1"), second.after)) ∧
      (Drain.RunsNeeded 0 "a<x>b<x>" [first, second] two second.after.state ↔
        ∀ turn ∈ [first, second], turn.Readable) := by
  have resolution : Drain.Resolution (Cache.startRender limits) (Cache.resolver limits none 0) 0
      "a<x>b<x>" (.ofState two) [first, second] (.ok "a1b1") second.after :=
    .finished ⟨rfl, rfl⟩ two_course ⟨rfl, rfl⟩
  apply resolve_needed (guarded_cache _) resolution (by decide)
  · intro turn member _
    simp only [List.mem_cons, List.not_mem_nil, or_false] at member
    rcases member with rfl | rfl <;> rfl
  · decide
  · decide
  · decide
  · refine ⟨?_, nofun, trivial⟩
    rintro result same
    obtain rfl := Option.some.inj same
    decide

/-- The first call returns and the second one is needed, but it does not run. -/
theorem resolve_refused :
    (∃ fuel, ∀ more, fuel ≤ more →
      (World.ofState logged).run (Cache.startRender limits) more
        (Cache.resolve limits none none (some 0) "<x><y>") =
          (.error (.failed refusal), refused)) ∧
      (logged.tokens 0).Nodup ∧
      Disjointly (logged.tokens 0) "<x><y>" ∧
      BringsNothing (logged.tokens 0) "<x>" "1" "<x><y>" ∧
      refused.state.invocations.length = logged.invocations.length ∧
      logged.needed "<x><y>" (logged.queue 0) = [0, 1] ∧
      refused.state.calls.length = 1 ∧
      refused.state.status? 0 = some .completed ∧
      refused.state.status? 1 = some .pending := by
  exact ⟨refused_runs.run, by decide, by decide, by decide, rfl, rfl, rfl, rfl, rfl⟩

end Sample

end DeferredText
