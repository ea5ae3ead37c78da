import DeferredText.Proofs.Needed
import Mathlib.Algebra.Group.Int.Defs
import Mathlib.Algebra.Group.Nat.Defs

/-!
Contract: what a failed resolution leaves in its waitlist.

A failing implementation empties the waitlist, whatever was recorded meanwhile, and what
was discarded is never queued again. A returned value without a text ends the resolution
too, but discards nothing.

Owns: the last turn of a failed resolution, and what is queued after it.

Does not own: which turns there are (`Proofs.Needed`).
-/

namespace DeferredText

open CacheState Territory

namespace Drain

variable {start : Starter} {invoke : Invoke} {index : Nat} {territory : Territory}
  {text : String} {world after : World} {progress : Progress} {turns : List Turn}
  {failure : Failure}

/-- The turn with which a resolution failed, and what it did. -/
structure FailsWith
    (index : Nat)
    (turns : List Turn)
    (last : Turn)
    (after : World) : Prop where
  split : ∃ earlier, turns = earlier ++ [last] ∧ ∀ turn ∈ earlier, turn.stops = false
  stops : last.stops = true
  ends : last.after = after
  effect : ∃ territory, Effect territory index last

theorem Course.failsWith
    (course : Course start invoke index world progress turns (.error failure) after)
    (orders : Orders anyState start) (invokes : ∀ number, (invoke number).Guarded)
    (guarded : World.Guarded anyState territory world) (owned : index ∈ territory.waitlists) :
    ∃ last, FailsWith index turns last after := by
  generalize same : Except.error failure = outcome at course
  induction course generalizing territory with
  | finished empty => cases same
  | @further world after progress next turn turns outcome takes serves _ inductionHypothesis =>
      have effect := serves.effect orders invokes (takes.guarded guarded owned) owned
        (Set.mem_insert _ _)
      obtain ⟨last, ⟨earlier, rfl, goOn⟩, stops, ends, served⟩ :=
        inductionHypothesis effect.guarded owned same
      refine ⟨last, ⟨turn :: earlier, rfl, ?_⟩, stops, ends, served⟩
      intro other member
      rcases List.mem_cons.mp member with rfl | later
      · exact serves.goesOn
      · exact goOn other later
  | @failed world progress turn failure takes serves =>
      have effect := serves.effect orders invokes (takes.guarded guarded owned) owned
        (Set.mem_insert _ _)
      exact ⟨turn,
        { split := ⟨[], rfl, fun other member => absurd member List.not_mem_nil⟩
          stops := serves.stops.1
          ends := rfl
          effect := ⟨_, effect⟩ }⟩

theorem Resolution.failsWith
    (resolution : Resolution start invoke index text world turns (.error failure) after)
    (orders : Orders anyState start) (invokes : ∀ number, (invoke number).Guarded)
    (guarded : World.Guarded anyState territory world) (owned : index ∈ territory.waitlists) :
    ∃ last, FailsWith index turns last after := by
  generalize same : Except.error failure = outcome at resolution
  cases resolution with
  | finished begins course ends => cases same
  | failed begins course =>
      exact course.failsWith orders invokes (guarded.tell begins 0).2 owned

/-- Nothing is queued any more, and what was recorded so far will never be. -/
def Discarded
    (index : Nat)
    (state : CacheState) : Prop :=
  state.queue index = [] ∧
    ∀ later, Grows state later → ∀ number ∈ later.queue index, state.invocations.length ≤ number

theorem discarded_of_empty {state : CacheState} (empty : state.queue index = []) :
    Discarded index state := by
  refine ⟨empty, fun later grows number queued => ?_⟩
  by_contra old
  have wasQueued := grows.queued index number queued (Nat.lt_of_not_le old)
  rw [empty] at wasQueued
  cases wasQueued

/-- All that was queued when a value turned out to have no text is still queued. -/
def LeftBehind
    (index : Nat)
    (last : Turn)
    (state : CacheState) : Prop :=
  (∃ value failure, last.fate = .unreadable value failure) ∧
    Extended last.before.state state index

/-- Either every value had a text and the waitlist is discarded, or the last one had none
and nothing is. -/
theorem FailsWith.cases {last : Turn} (fails : FailsWith index turns last after) :
    ((∀ turn ∈ turns, turn.Readable) ∧ Discarded index after.state) ∨
      LeftBehind index last after.state := by
  obtain ⟨⟨earlier, rfl, goOn⟩, stops, rfl, territory, effect⟩ := fails
  cases fate : last.fate with
  | skipped => rw [Turn.stops, fate] at stops; cases stops
  | returned value text => rw [Turn.stops, fate] at stops; cases stops
  | unreadable value failure =>
      refine .inr ⟨⟨value, failure, fate⟩, effect.queue ?_⟩
      rw [fate]
      rintro _ ⟨⟩
  | failed failure =>
      refine .inl ⟨?_, discarded_of_empty (effect.cleared failure fate)⟩
      intro turn member value cause unreadable
      rcases List.mem_append.mp member with before | isLast
      · have goesOn := goOn turn before
        rw [Turn.stops, unreadable] at goesOn
        cases goesOn
      · obtain rfl := List.mem_singleton.mp isLast
        rw [fate] at unreadable
        cases unreadable

end Drain

/-- Resolving a text in a given waitlist hands over what its resolution ends with. -/
theorem Cache.resolve_hands {limits : Limits} {current : Option Nat} {start : Starter}
    {index : Nat} {text : String} {world after : World} {turns : List Turn} {failure : Failure}
    (resolution : Drain.Resolution start (resolver limits current index) index text world turns
      (.error failure) after)
    (enough : turns.length < limits.steps) (done : Option Notify) :
    World.Runs start world (resolve limits current done (some index) text)
      (handFailure done current failure after.state).1
      (after.withState (handFailure done current failure after.state).2) := by
  have takes : takeWaitlist (some index) current world.state = (.ok index, world.state) := rfl
  rw [resolve_eq]
  apply World.Runs.bind_read takes
  rw [resolveWaitlist_eq]
  exact (resolution.run enough).attempt.bind (World.runs_action rfl rfl)

/-- A resolution that fails hands its failure over, and at that moment its waitlist is
empty and what it held is never run, or else the resolution failed since a returned value
has no text, and then everything is still queued. -/
theorem resolve_discards {limits : Limits} {current : Option Nat} {index : Nat} {text : String}
    {world after : World} {turns : List Turn} {failure : Failure}
    (guarded : World.Guarded anyState (.ofWaitlist index) world)
    (resolution : Drain.Resolution (Cache.startRender limits)
      (Cache.resolver limits current index) index text world turns (.error failure) after)
    (enough : turns.length < limits.steps) (done : Option Notify) :
    (∃ fuel, ∀ more, fuel ≤ more →
      world.run (Cache.startRender limits) more
        (Cache.resolve limits current done (some index) text) =
          ((Cache.handFailure done current failure after.state).1,
            after.withState (Cache.handFailure done current failure after.state).2)) ∧
      ∃ last ∈ turns, last.after = after ∧
        (((∀ turn ∈ turns, turn.Readable) ∧ Drain.Discarded index after.state) ∨
          Drain.LeftBehind index last after.state) := by
  obtain ⟨last, fails⟩ := resolution.failsWith (Cache.orders limits)
    (Cache.guarded_resolver index) guarded rfl
  obtain ⟨earlier, split, -⟩ := fails.split
  have isLast : last ∈ turns := by
    rw [split]
    simp
  exact ⟨(Cache.resolve_hands resolution enough done).run, last, isLast, fails.ends, fails.cases⟩

/-! ### Resolutions that fail -/

namespace Drain

variable {start : Starter} {invoke : Invoke} {index number : Nat} {progress : Progress}
  {state answered : CacheState} {suspended : List Suspended} {invocation : Invocation}

/-- A call whose implementation fails at once. -/
theorem Serves.failed_silently {failure : Failure} (silent : state.log = none)
    (stillSilent : answered.log = none)
    (found : state.invocations[number]? = some invocation)
    (needed : isNeeded progress.text invocation.token (state.queued index) = true)
    (done : invoke number (state.prepared number progress.results) =
      .done (.error (.failed failure)) answered) :
    Serves start invoke index progress
      ⟨number, invocation, .failed failure, ⟨state, suspended⟩,
        ⟨(answered.withStatus number .failed).withQueue index [], suspended⟩⟩
      (.error failure) :=
  .failed (.silently silent found needed) (runs_at_once done)
    ⟨CacheState.tell_silent _ stillSilent, rfl⟩ ⟨CacheState.tell_silent _ stillSilent, rfl⟩

/-- A call that returns at once what has no text. -/
theorem Serves.unreadable_silently {value : Value} {failure : Failure}
    (silent : state.log = none)
    (found : state.invocations[number]? = some invocation)
    (needed : isNeeded progress.text invocation.token (state.queued index) = true)
    (done : invoke number (state.prepared number progress.results) = .done (.ok value) answered)
    (unreadable : resultText value = .error failure) :
    Serves start invoke index progress
      ⟨number, invocation, .unreadable value failure, ⟨state, suspended⟩,
        ⟨answered.withStatus number .completed, suspended⟩⟩
      (.error failure) :=
  .unreadable (.silently silent found needed) (runs_at_once done) unreadable

end Drain

/-- Exactly the numbers of more digits than the bound have no text. -/
theorem resultText_int_eq_error_iff {number : Int} {failure : Failure} :
    resultText (.int number) = .error failure ↔
      10 ^ digitBound ≤ number.natAbs ∧ failure = .digitLimit := by
  have digits : (Nat.toDigits 10 number.natAbs).length ≤ digitBound ↔
      number.natAbs < 10 ^ digitBound :=
    Nat.length_toDigits_le_iff (by decide) (by decide)
  have shown : resultText (.int number) = integerText number := by
    rw [resultText]
    · rw [Value.display.eq_def]
      exact Value.quoted.eq_3 number
    · rintro ⟨⟩
  rw [shown, integerText]
  split
  · rename_i long
    have large : 10 ^ digitBound ≤ number.natAbs :=
      Nat.le_of_not_lt (mt digits.mpr (Nat.not_le_of_lt long))
    constructor
    · intro same
      exact ⟨large, (Except.error.inj same).symm⟩
    · rintro ⟨-, rfl⟩
      rfl
  · rename_i short
    have small : number.natAbs < 10 ^ digitBound := digits.mp (Nat.le_of_not_lt short)
    constructor
    · rintro ⟨⟩
    · rintro ⟨large, -⟩
      exact absurd small (Nat.not_lt_of_le large)

namespace Sample

def complaint : Failure := .badValue "no"

/-- The first call fails, the second one is queued behind it. -/
def failing : CacheState :=
  cache [{ call "<x>" .none with
      target := .helper ⟨"helper", .function, .coroutine fun _ => .fail complaint⟩ },
    call "<y>" (.text "2")]

def refusing : Turn :=
  { number := 0
    invocation := { call "<x>" .none with
      target := .helper ⟨"helper", .function, .coroutine fun _ => .fail complaint⟩ }
    fate := .failed complaint
    before := ⟨failing.withQueue 0 [1], []⟩
    after := ⟨(CacheState.withStatus { failing.withQueue 0 [1] with
      calls := [⟨"helper", .none⟩]
      started := [0] } 0 .failed).withQueue 0 [], []⟩ }

theorem refusing_serves :
    Drain.Serves (Cache.startRender limits) (Cache.resolver limits none 0) 0 (.start "<x><y>")
      refusing (.error complaint) := by
  exact .failed_silently rfl rfl rfl (by decide) rfl

/-- The second call is discarded. -/
theorem resolve_failing :
    (∃ fuel, ∀ more, fuel ≤ more →
      (World.ofState failing).run (Cache.startRender limits) more
        (Cache.resolve limits none none (some 0) "<x><y>") =
          (.error (.failed complaint), refusing.after)) ∧
      ∃ last ∈ [refusing], last.after = refusing.after ∧
        (((∀ turn ∈ [refusing], turn.Readable) ∧ Drain.Discarded 0 refusing.after.state) ∨
          Drain.LeftBehind 0 last refusing.after.state) := by
  have resolution : Drain.Resolution (Cache.startRender limits) (Cache.resolver limits none 0) 0
      "<x><y>" (.ofState failing) [refusing] (.error complaint) refusing.after :=
    .failed ⟨rfl, rfl⟩ (.failed ⟨[1], rfl, rfl⟩ refusing_serves)
  exact resolve_discards (guarded_cache _) resolution (by decide) none

/-- A number that is not written out. -/
def huge : Value := .int (10 ^ 4300)

theorem resultText_huge : resultText huge = .error .digitLimit := by
  rw [huge, resultText_int_eq_error_iff]
  refine ⟨?_, rfl⟩
  decide +kernel

/-- The first call returns a number without a text, the second one is queued behind it. -/
def unwritten : CacheState := cache [call "<x>" huge, call "<y>" (.text "2")]

def vast : Turn :=
  { number := 0
    invocation := call "<x>" huge
    fate := .unreadable huge .digitLimit
    before := ⟨unwritten.withQueue 0 [1], []⟩
    after := ⟨CacheState.withStatus { unwritten.withQueue 0 [1] with
      calls := [⟨"helper", .none⟩]
      started := [0] } 0 .completed, []⟩ }

theorem vast_serves :
    Drain.Serves (Cache.startRender limits) (Cache.resolver limits none 0) 0 (.start "<x><y>")
      vast (.error .digitLimit) := by
  exact .unreadable_silently rfl rfl (by decide) rfl resultText_huge

/-- The call that was left behind, when the same waitlist is resolved again. -/
def resumed : Turn :=
  { number := 1
    invocation := call "<y>" (.text "2")
    fate := .returned (.text "2") "2"
    before := ⟨vast.after.state.withQueue 0 [], []⟩
    after := ⟨CacheState.withStatus { vast.after.state.withQueue 0 [] with
      calls := [⟨"helper", .none⟩, ⟨"helper", .none⟩]
      started := [0, 1] } 1 .completed, []⟩ }

theorem resumed_serves :
    Drain.Serves (Cache.startRender limits) (Cache.resolver limits none 0) 0 (.start "<y>")
      resumed (.ok ⟨"2", [("<y>", "2")], 1, 0⟩) := by
  exact .returned_silently rfl rfl rfl (by decide) rfl rfl

/-- The first resolution fails, and the call behind it is still queued and is run by the
next one. -/
theorem resolve_unwritten :
    (∃ fuel, ∀ more, fuel ≤ more →
      (World.ofState unwritten).run (Cache.startRender limits) more
        (Cache.resolve limits none none (some 0) "<x><y>") =
          (.error (.failed .digitLimit), vast.after)) ∧
      vast.after.state.queue 0 = [1] ∧
      (∃ fuel, ∀ more, fuel ≤ more →
        vast.after.run (Cache.startRender limits) more
          (Cache.resolve limits none none (some 0) "<y>") = (.ok (some "2"), resumed.after)) ∧
      vast.after.state.calls.length < resumed.after.state.calls.length := by
  have first : Drain.Resolution (Cache.startRender limits) (Cache.resolver limits none 0) 0
      "<x><y>" (.ofState unwritten) [vast] (.error .digitLimit) vast.after :=
    .failed ⟨rfl, rfl⟩ (.failed ⟨[1], rfl, rfl⟩ vast_serves)
  have second : Drain.Resolution (Cache.startRender limits) (Cache.resolver limits none 0) 0
      "<y>" vast.after [resumed] (.ok "2") resumed.after :=
    .finished ⟨rfl, rfl⟩ (.further ⟨[], rfl, rfl⟩ resumed_serves (.finished rfl)) ⟨rfl, rfl⟩
  exact ⟨(Cache.resolve_runs first (by decide)).run, rfl,
    (Cache.resolve_runs second (by decide)).run, by decide⟩

end Sample

end DeferredText
