import DeferredText.Proofs.Fragments
import DeferredText.Proofs.Turns

/-!
Contract: resolving a text puts every result in place of its token, all at once.

The tokens are replaced one after the other, in a text that earlier results have
changed. As long as the next token occurs only where it was put, this is the same as
replacing all tokens of the original text together.

Owns: the text of a resolution in which no further call is recorded.

Does not own: which calls are run (`Proofs.Needed`).
-/

namespace DeferredText

open CacheState Territory

/-- The tokens of the calls queued in a waitlist, oldest first. -/
def CacheState.tokens
    (state : CacheState)
    (index : Nat) : List String :=
  (state.queued index).map Invocation.token

/-- What tokens stand for when some of them have been replaced by their results. -/
def settled
    (answer : String → String)
    (replaced : List String)
    (token : String) : String :=
  if token ∈ replaced then answer token else token

theorem settled_nil (answer : String → String) : settled answer [] = id := by
  funext token
  simp [settled]

theorem settled_of_notMem {answer : String → String} {replaced : List String} {token : String}
    (absent : token ∉ replaced) : settled answer replaced token = token := by
  rw [settled, if_neg absent]

theorem update_settled (answer : String → String) (replaced : List String) (token : String) :
    Function.update (settled answer replaced) token (answer token) =
      settled answer (replaced ++ [token]) := by
  funext other
  by_cases same : other = token
  · subst same
    simp [settled]
  · simp [settled, same]

namespace Turn

/-- The call was skipped, or it returned what its token stands for. -/
def Answers
    (answer : String → String)
    (turn : Turn) : Prop :=
  turn.fate = .skipped ∨
    ∃ value, turn.fate = .returned value (answer turn.invocation.token)

/-- The implementation of the call failed. -/
def failed (turn : Turn) : Bool :=
  match turn.fate with
  | .failed _ => true
  | _ => false

/-- No call was recorded in the waitlist during the turn. -/
def Silent
    (index : Nat)
    (turn : Turn) : Prop :=
  turn.after.state.queue index = turn.before.state.queue index

end Turn

namespace Drain

variable {start : Starter} {invoke : Invoke} {index : Nat} {territory : Territory}
  {answer : String → String} {fragments : List Fragment} {world after : World}

/-- A call is passed over only if its token is no fragment of the text. -/
theorem notMem_of_unneeded {replaced : List String} {progress : Progress} {token : String}
    {queued : List Invocation}
    (unneeded : isNeeded progress.text token queued = false)
    (fresh : token ∉ replaced)
    (own : Fragment.OnlyAsFragment (settled answer replaced) token fragments)
    (shown : progress.text = Fragment.join (settled answer replaced) fragments) :
    .placeholder token ∉ fragments := by
  intro member
  have contains : containsText token progress.text = true := by
    rw [shown]
    exact (Fragment.containsText_join own (settled_of_notMem fresh)).mpr member
  rw [isNeeded, contains, Bool.true_or] at unneeded
  cases unneeded

/-- A turn replaces its token in the text, or the token is not there. -/
theorem Serves.text {replaced : List String} {progress : Progress} {turn : Turn}
    {outcome : Outcome Progress}
    (serves : Serves start invoke index progress turn outcome)
    (answers : turn.Answers answer)
    (nonempty : turn.invocation.token ≠ "")
    (fresh : turn.invocation.token ∉ replaced)
    (own : Fragment.OnlyAsFragment (settled answer replaced) turn.invocation.token fragments)
    (shown : progress.text = Fragment.join (settled answer replaced) fragments) :
    ∃ next, outcome = .ok next ∧
      next.text = Fragment.join (settled answer (replaced ++ [turn.invocation.token]))
        fragments := by
  cases serves with
  | @skipped number invocation before told found unneeded tells =>
      refine ⟨progress.skip, rfl, ?_⟩
      have absent := notMem_of_unneeded unneeded fresh own shown
      rw [Progress.skip, shown]
      apply Fragment.join_congr
      intro token member
      have distinct : token ≠ invocation.token := by
        rintro rfl
        exact absent member
      simp [settled, distinct]
  | returned calls runs readable tells =>
      refine ⟨_, rfl, ?_⟩
      rcases answers with fate | ⟨value, fate⟩
      · cases fate
      · rw [(Fate.returned.inj fate).2, Progress.complete, shown, ← update_settled]
        exact Fragment.replaceText_join _ own nonempty (settled_of_notMem fresh)
  | unreadable calls runs unreadable =>
      rcases answers with fate | ⟨value, fate⟩ <;> cases fate
  | failed calls runs tells closes =>
      rcases answers with fate | ⟨value, fate⟩ <;> cases fate

/-- The calls queued before a turn are the call it takes and those it leaves, which are
still there after the turn. -/
theorem Serves.queued {progress : Progress} {turn : Turn} {outcome : Outcome Progress}
    (takes : Takes index world turn)
    (serves : Serves start invoke index progress turn outcome)
    (orders : Orders anyState start) (invokes : ∀ number, (invoke number).Guarded)
    (guarded : World.Guarded anyState territory world) (owned : index ∈ territory.waitlists)
    (silent : turn.Silent index) :
    world.state.queued index = turn.invocation :: turn.after.state.queued index ∧
      turn.after.state.queued index = turn.before.state.queued index ∧
      World.Guarded anyState (territory.taking turn.number) turn.after := by
  have guardedBefore := takes.guarded guarded owned
  have effect := serves.effect orders invokes guardedBefore owned (Set.mem_insert _ _)
  have kept := effect.queued guardedBefore owned (Set.mem_insert _ _) silent
  refine ⟨?_, kept, effect.guarded⟩
  rw [takes.queued serves.found, kept]

/-- The same for the tokens of the calls. -/
theorem Serves.tokens {progress : Progress} {turn : Turn} {outcome : Outcome Progress}
    (takes : Takes index world turn)
    (serves : Serves start invoke index progress turn outcome)
    (orders : Orders anyState start) (invokes : ∀ number, (invoke number).Guarded)
    (guarded : World.Guarded anyState territory world) (owned : index ∈ territory.waitlists)
    (silent : turn.Silent index) :
    world.state.tokens index = turn.invocation.token :: turn.after.state.tokens index ∧
      World.Guarded anyState (territory.taking turn.number) turn.after := by
  obtain ⟨queue, -, guardedAfter⟩ := serves.queued takes orders invokes guarded owned silent
  refine ⟨?_, guardedAfter⟩
  rw [CacheState.tokens, queue]
  rfl

/-- Along a course the text is the original one with the tokens so far replaced. -/
theorem Course.text {replaced : List String} {progress : Progress} {turns : List Turn}
    {outcome : Outcome Progress}
    (course : Course start invoke index world progress turns outcome after)
    (orders : Orders anyState start) (invokes : ∀ number, (invoke number).Guarded)
    (guarded : World.Guarded anyState territory world) (owned : index ∈ territory.waitlists)
    (silent : ∀ turn ∈ turns, turn.Silent index)
    (answers : ∀ turn ∈ turns, turn.Answers answer)
    (nonempty : "" ∉ world.state.tokens index)
    (distinct : (replaced ++ world.state.tokens index).Nodup)
    (own : ∀ left token right, world.state.tokens index = left ++ token :: right →
      Fragment.OnlyAsFragment (settled answer (replaced ++ left)) token fragments)
    (shown : progress.text = Fragment.join (settled answer replaced) fragments) :
    ∃ final, outcome = .ok final ∧
      final.text = Fragment.join (settled answer (replaced ++ world.state.tokens index))
        fragments := by
  induction course generalizing replaced territory with
  | @finished world progress empty =>
      have none : world.state.tokens index = [] := by
        rw [CacheState.queue] at empty
        rw [CacheState.tokens, CacheState.queued, empty]
        rfl
      rw [none, List.append_nil]
      exact ⟨progress, rfl, shown⟩
  | @further world after progress next turn turns outcome takes serves _ inductionHypothesis =>
      obtain ⟨tokens, guardedAfter⟩ := serves.tokens takes orders invokes guarded owned
        (silent turn List.mem_cons_self)
      rw [tokens] at nonempty distinct own ⊢
      have fresh : turn.invocation.token ∉ replaced := fun member =>
        (List.nodup_append.mp distinct).2.2 _ member _ List.mem_cons_self rfl
      have ownHere : Fragment.OnlyAsFragment (settled answer replaced) turn.invocation.token
          fragments := by
        simpa using own [] turn.invocation.token _ rfl
      obtain ⟨_, same, nextShown⟩ := serves.text (answers turn List.mem_cons_self)
        (fun empty => nonempty (empty ▸ List.mem_cons_self)) fresh ownHere shown
      cases same
      have moved : replaced ++ turn.invocation.token :: turn.after.state.tokens index =
          (replaced ++ [turn.invocation.token]) ++ turn.after.state.tokens index := by simp
      rw [moved] at distinct ⊢
      apply inductionHypothesis guardedAfter owned
        (fun other member => silent other (List.mem_cons_of_mem turn member))
        (fun other member => answers other (List.mem_cons_of_mem turn member))
        (fun member => nonempty (List.mem_cons_of_mem _ member)) distinct _ nextShown
      intro left token right split
      have whole := own (turn.invocation.token :: left) token right (by rw [split]; rfl)
      simpa using whole
  | @failed world progress turn failure takes serves =>
      exfalso
      cases serves with
      | unreadable calls runs unreadable =>
          rcases answers _ List.mem_cons_self with fate | ⟨value, fate⟩ <;> cases fate
      | failed calls runs tells closes =>
          rcases answers _ List.mem_cons_self with fate | ⟨value, fate⟩ <;> cases fate

theorem Serves.unfailing {progress next : Progress} {turn : Turn}
    (serves : Serves start invoke index progress turn (.ok next)) : turn.failed = false := by
  cases serves <;> rfl

/-- While no call is recorded there are no more turns than calls. -/
theorem Course.length_le {progress : Progress} {turns : List Turn} {outcome : Outcome Progress}
    (course : Course start invoke index world progress turns outcome after)
    (silent : ∀ turn ∈ turns, turn.failed = false → turn.Silent index) :
    turns.length ≤ (world.state.queue index).length := by
  induction course with
  | finished empty => exact Nat.zero_le _
  | @further world after progress next turn turns outcome takes serves _ inductionHypothesis =>
      have rest := inductionHypothesis fun other member =>
        silent other (List.mem_cons_of_mem turn member)
      have same := silent turn List.mem_cons_self serves.unfailing
      rw [Turn.Silent] at same
      rw [same] at rest
      obtain ⟨left, queued, taken⟩ := takes
      have leaves := takes_queue queued taken
      rw [leaves] at rest
      rw [queued, List.length_cons, List.length_cons]
      exact Nat.succ_le_succ rest
  | failed takes serves =>
      obtain ⟨left, queued, taken⟩ := takes
      rw [queued, List.length_cons]
      exact Nat.succ_le_succ (Nat.zero_le _)

theorem Resolution.length_le {text : String} {turns : List Turn} {outcome : Outcome String}
    (resolution : Resolution start invoke index text world turns outcome after)
    (silent : ∀ turn ∈ turns, turn.failed = false → turn.Silent index) :
    turns.length ≤ (world.state.queue index).length := by
  cases resolution with
  | finished begins course ends =>
      rw [← begins.queue]
      exact course.length_le silent
  | failed begins course =>
      rw [← begins.queue]
      exact course.length_le silent

/-- The first line in the log leaves the calls and the guard as they are. -/
theorem tells_begin {begun : World} {event : Event} (begins : world.Tells event begun)
    (guarded : World.Guarded anyState territory world) :
    begun.state.tokens index = world.state.tokens index ∧
      World.Guarded anyState territory begun := by
  refine ⟨?_, (guarded.tell begins 0).2⟩
  obtain ⟨lines, rfl⟩ := begins.eq
  rfl

theorem Resolution.text {turns : List Turn} {outcome : Outcome String}
    (resolution : Resolution start invoke index (Fragment.join id fragments) world turns outcome
      after)
    (orders : Orders anyState start) (invokes : ∀ number, (invoke number).Guarded)
    (guarded : World.Guarded anyState territory world) (owned : index ∈ territory.waitlists)
    (silent : ∀ turn ∈ turns, turn.Silent index)
    (answers : ∀ turn ∈ turns, turn.Answers answer)
    (nonempty : "" ∉ world.state.tokens index)
    (distinct : (world.state.tokens index).Nodup)
    (known : ∀ token, .placeholder token ∈ fragments → token ∈ world.state.tokens index)
    (own : ∀ left token right, world.state.tokens index = left ++ token :: right →
      Fragment.OnlyAsFragment (settled answer left) token fragments) :
    outcome = .ok (Fragment.join answer fragments) := by
  have whole : ∀ {begun middle : World} {event : Event} {end_ : Outcome Progress},
      world.Tells event begun →
      Course start invoke index begun (.start (Fragment.join id fragments)) turns end_ middle →
      ∃ final, end_ = .ok final ∧ final.text = Fragment.join answer fragments := by
    intro begun middle event end_ begins course
    obtain ⟨tokens, guardedBegun⟩ := tells_begin begins guarded
    obtain ⟨final, same, shown⟩ := @Course.text _ _ _ _ _ _ _ _ [] _ _ _ course orders invokes
      guardedBegun owned silent answers (tokens ▸ nonempty) (tokens ▸ distinct) (tokens ▸ own)
      (by rw [settled_nil]; rfl)
    refine ⟨final, same, shown.trans (Fragment.join_congr ?_)⟩
    intro token member
    rw [tokens, List.nil_append, settled, if_pos (known token member)]
  cases resolution with
  | finished begins course ends =>
      obtain ⟨final, same, shown⟩ := whole begins course
      cases same
      rw [shown]
  | failed begins course =>
      obtain ⟨final, same, shown⟩ := whole begins course
      cases same

end Drain

/-- Resolving a text that consists of fragments replaces every token by the result of its
call, at all its places, and leaves everything else as it is, if the token of the next
call never occurs but as a fragment in the text that the results so far have left. -/
theorem resolve_join {limits : Limits} {current : Option Nat} {index : Nat}
    {world after : World} {turns : List Turn} {outcome : Outcome String}
    {answer : String → String} {fragments : List Fragment}
    (guarded : World.Guarded anyState (.ofWaitlist index) world)
    (resolution : Drain.Resolution (Cache.startRender limits)
      (Cache.resolver limits current index) index (Fragment.join id fragments) world turns
      outcome after)
    (enough : (world.state.queue index).length < limits.steps)
    (silent : ∀ turn ∈ turns, turn.Silent index)
    (answers : ∀ turn ∈ turns, turn.Answers answer)
    (nonempty : "" ∉ world.state.tokens index)
    (distinct : (world.state.tokens index).Nodup)
    (known : ∀ token, .placeholder token ∈ fragments → token ∈ world.state.tokens index)
    (own : ∀ left token right, world.state.tokens index = left ++ token :: right →
      Fragment.OnlyAsFragment (settled answer left) token fragments) :
    ∃ fuel, ∀ more, fuel ≤ more →
      world.run (Cache.startRender limits) more
        (Cache.resolve limits current none (some index) (Fragment.join id fragments)) =
          (.ok (some (Fragment.join answer fragments)), after) := by
  have text := resolution.text (Cache.orders limits) (Cache.guarded_resolver index) guarded rfl
    silent answers nonempty distinct known own
  have few : turns.length < limits.steps :=
    (resolution.length_le fun turn member _ => silent turn member).trans_lt enough
  rw [text] at resolution
  exact (Cache.resolve_runs resolution few).run

/-! ### A resolution of two calls -/

namespace Sample

/-- A recorded call of a coroutine that returns a value. -/
def call (token : String) (value : Value) : Invocation :=
  { token := token
    name := "helper"
    arguments := .none
    target := .helper ⟨"helper", .function, .coroutine fun _ => .finish value⟩
    style := .coroutine
    status := .pending }

/-- A cache without a log whose default waitlist holds the given calls. -/
def cache (calls : List Invocation) : CacheState :=
  calls.foldl (fun state invocation => state.recordedIn 0 invocation .initial)
    (.initial .standard false false none)

theorem orderly_cache (calls : List Invocation) : (cache calls).Orderly := by
  have recorded : ∀ state : CacheState, state.Orderly → (calls.foldl
      (fun state invocation => state.recordedIn 0 invocation .initial) state).Orderly := by
    induction calls with
    | nil => exact fun _ orderly => orderly
    | cons invocation rest inductionHypothesis =>
        exact fun state orderly => inductionHypothesis _ (orderly_recordedIn orderly)
  exact recorded _ (orderly_initial _ _ _ _)

def limits : Limits := ⟨1, 10⟩

def two : CacheState := cache [call "<x>" (.int 1), call "<y>" (.text "2")]

/-- A text in which the first token occurs twice and the second one never. -/
def fragments : List Fragment :=
  [.literal "a", .placeholder "<x>", .literal "b", .placeholder "<x>"]

def answer (token : String) : String :=
  if token = "<x>" then "1" else "2"

def first : Turn :=
  { number := 0
    invocation := call "<x>" (.int 1)
    fate := .returned (.int 1) "1"
    before := ⟨two.withQueue 0 [1], []⟩
    after := ⟨CacheState.withStatus { two.withQueue 0 [1] with
      calls := [⟨"helper", .none⟩]
      started := [0] } 0 .completed, []⟩ }

def second : Turn :=
  { number := 1
    invocation := call "<y>" (.text "2")
    fate := .skipped
    before := ⟨first.after.state.withQueue 0 [], []⟩
    after := ⟨(first.after.state.withQueue 0 []).withStatus 1 .skipped, []⟩ }

theorem first_serves :
    Drain.Serves (Cache.startRender limits) (Cache.resolver limits none 0) 0
      (.start (Fragment.join id fragments)) first (.ok ⟨"a1b1", [("<x>", "1")], 1, 0⟩) := by
  exact .returned_silently rfl rfl rfl (by decide) rfl rfl

theorem second_serves :
    Drain.Serves (Cache.startRender limits) (Cache.resolver limits none 0) 0
      ⟨"a1b1", [("<x>", "1")], 1, 0⟩ second (.ok ⟨"a1b1", [("<x>", "1")], 1, 1⟩) := by
  exact .skipped_silently rfl rfl (by decide)

theorem two_course :
    Drain.Course (Cache.startRender limits) (Cache.resolver limits none 0) 0 (.ofState two)
      (.start (Fragment.join id fragments)) [first, second]
      (.ok ⟨"a1b1", [("<x>", "1")], 1, 1⟩) second.after := by
  exact .further ⟨[1], rfl, rfl⟩ first_serves (.further ⟨[], rfl, rfl⟩ second_serves
    (.finished rfl))

theorem guarded_cache (calls : List Invocation) :
    World.Guarded anyState (.ofWaitlist 0) (.ofState (cache calls)) := by
  have recorded : ∀ state : CacheState, 0 < state.waitlists.length → 0 < (calls.foldl
      (fun state invocation => state.recordedIn 0 invocation .initial) state).waitlists.length := by
    induction calls with
    | nil => exact fun _ inside => inside
    | cons invocation rest inductionHypothesis =>
        intro state inside
        apply inductionHypothesis
        simpa [recordedIn] using inside
  exact World.guarded_ofWaitlist (orderly_cache calls) (recorded _ Nat.one_pos) rfl

/-- Two tokens are only where they were put if the first one is at the beginning, and the second
one is once the first one is replaced. -/
theorem own_pair {fragments : List Fragment}
    (first : Fragment.OnlyAsFragment (settled answer []) "<x>" fragments)
    (second : Fragment.OnlyAsFragment (settled answer ["<x>"]) "<y>" fragments) :
    ∀ left token right, ["<x>", "<y>"] = left ++ token :: right →
      Fragment.OnlyAsFragment (settled answer left) token fragments := by
  intro left token right split
  rcases left with _ | ⟨head, _ | ⟨next, rest⟩⟩
  · simp only [List.nil_append, List.cons.injEq] at split
    rw [← split.1]
    exact first
  · simp only [List.cons_append, List.nil_append, List.cons.injEq] at split
    rw [← split.1, ← split.2.1]
    exact second
  · simp at split

/-- The first call returns a number and the second one is passed over. -/
theorem resolve_two :
    ∃ fuel, ∀ more, fuel ≤ more →
      (World.ofState two).run (Cache.startRender limits) more
        (Cache.resolve limits none none (some 0) (Fragment.join id fragments)) =
          (.ok (some (Fragment.join answer fragments)), second.after) := by
  apply resolve_join (guarded_cache _) (.finished ⟨rfl, rfl⟩ two_course ⟨rfl, rfl⟩) (by decide)
  · intro turn member
    simp only [List.mem_cons, List.not_mem_nil, or_false] at member
    rcases member with rfl | rfl <;> rfl
  · intro turn member
    simp only [List.mem_cons, List.not_mem_nil, or_false] at member
    rcases member with rfl | rfl
    · exact .inr ⟨.int 1, rfl⟩
    · exact .inl rfl
  · decide
  · decide
  · intro token member
    simp only [fragments, List.mem_cons, List.not_mem_nil, reduceCtorEq, false_or, or_false,
      Fragment.placeholder.injEq, or_self] at member
    subst member
    decide
  · exact own_pair (by decide) (by decide)

/-! ### A log that refuses a line -/

/-- Settings that write errors only, and cut what they show at no whole number. -/
def settings : LogSettings :=
  { LogSettings.standard with
    level := .text LogLevel.error.name
    truncateAt := .float (Binary64.ofInt 20) }

/-- The second call has an argument that is long enough to be cut. -/
def logged : CacheState :=
  { cache [call "<x>" (.text "1"),
      { call "<y>" (.text "2") with
        arguments := .ofPositional [.text "a text longer than that"] }] with
    log := some settings }

def shown : Turn :=
  { number := 0
    invocation := call "<x>" (.text "1")
    fate := .returned (.text "1") "1"
    before := ⟨logged.withQueue 0 [1], []⟩
    after := ⟨CacheState.withStatus { logged.withQueue 0 [1] with
      calls := [⟨"helper", .none⟩]
      started := [0] } 0 .completed, []⟩ }

theorem tells_nothing {world : World} {event : Event} (logs : world.state.log = some settings)
    (empty : (event.lines settings).toOption = some []) : world.Tells event world := by
  have lines : event.lines settings = .ok [] := by
    cases written : event.lines settings with
    | ok lines =>
        rw [written] at empty
        exact congrArg _ (Option.some.inj empty)
    | error failure =>
        rw [written] at empty
        cases empty
  refine ⟨?_, rfl⟩
  rw [tell_eq, logs, Option.map_some, lines]
  change (_, world.state.withLines (world.state.lines ++ [])) = _
  rw [List.append_nil]
  rfl

theorem shown_serves :
    Drain.Serves (Cache.startRender limits) (Cache.resolver limits none 0) 0 (.start "<x><y>")
      shown (.ok ⟨"1<y>", [("<x>", "1")], 1, 0⟩) := by
  exact .returned ⟨rfl, rfl, tells_nothing rfl (by decide +kernel)⟩ (Drain.runs_at_once rfl) rfl
    (tells_nothing rfl (by decide +kernel))

/-- What it says of a count that is no whole number. -/
def refusal : Failure :=
  .wrongType "slice indices must be integers or None or have an __index__ method"

def refused : World :=
  ⟨((shown.after.state.withQueue 0 []).prepared 1 [("<x>", "1")]).refusing
    (.invoking (.text (cycleName 1)) (.text "helper") (.tuple [.text "a text longer than that"])),
    []⟩

/-- The second call is taken off the waitlist, but the log refuses the line about it. -/
theorem refused_step :
    World.Runs (Cache.startRender limits) ⟨shown.after.state.withQueue 0 [], []⟩
      (Drain.step (Cache.resolver limits none 0) 0 1 ⟨"1<y>", [("<x>", "1")], 1, 0⟩)
      (.error (.failed refusal)) refused := by
  have found : (shown.after.state.withQueue 0 []).invocations[1]? =
      some { call "<y>" (.text "2") with
        arguments := .ofPositional [.text "a text longer than that"] } := rfl
  have needed : Drain.isNeeded "1<y>" (call "<y>" (.text "2")).token
      ((shown.after.state.withQueue 0 []).queued 0) = true := by decide
  rw [Drain.step_eq]
  apply World.Runs.bind_get
  simp only [found]
  rw [if_pos needed]
  apply World.Runs.bind_action (prepare_eq _)
  apply World.Runs.bind_read argumentsOf_eq
  apply World.Runs.bind_error
  refine World.runs_action ?_ rfl
  rw [tell_eq]
  rfl

theorem refused_runs :
    World.Runs (Cache.startRender limits) (.ofState logged)
      (Cache.resolve limits none none (some 0) "<x><y>") (.error (.failed refusal)) refused := by
  have drained : World.Runs (Cache.startRender limits) (.ofState logged)
      (Drain.run (Cache.resolver limits none 0) limits.steps 0 "<x><y>")
      (.error (.failed refusal)) refused := by
    rw [Drain.run_eq]
    apply World.Runs.bind_get
    apply (tells_nothing rfl (by decide +kernel)).bind
    apply World.Runs.bind_error
    change World.Runs _ _ (Drain.loop _ 0 (8 + 1 + 1) _) _ _
    rw [Drain.loop_succ]
    apply World.Runs.bind_action (takeNext_cons rfl)
    apply shown_serves.step.bind
    rw [Drain.loop_succ]
    apply World.Runs.bind_action (takeNext_cons rfl)
    exact refused_step.bind_error
  rw [Cache.resolve_eq]
  apply World.Runs.bind_read rfl
  rw [Cache.resolveWaitlist_eq]
  exact drained.attempt.bind (World.runs_action rfl rfl)

/-- The text of both tokens, and nothing else. -/
def adjacent : List Fragment :=
  [.placeholder "<x>", .placeholder "<y>"]

/-- Both helpers answer and both tokens are only where they were put, but no text is returned,
since the log refuses the line about the second call. -/
theorem resolve_unjoined :
    (∃ fuel, ∀ more, fuel ≤ more →
      (World.ofState logged).run (Cache.startRender limits) more
        (Cache.resolve limits none none (some 0) (Fragment.join id adjacent)) =
          (.error (.failed refusal), refused)) ∧
      (∀ recorded ∈ logged.queued 0, ∃ value, recorded.target = (call "" value).target ∧
        resultText value = .ok (answer recorded.token)) ∧
      logged.tokens 0 = ["<x>", "<y>"] ∧
      (∀ left token right, logged.tokens 0 = left ++ token :: right →
        Fragment.OnlyAsFragment (settled answer left) token adjacent) ∧
      refused.state.invocations.length = logged.invocations.length := by
  refine ⟨refused_runs.run, ?_, rfl, own_pair (by decide) (by decide), rfl⟩
  intro recorded member
  simp only [show logged.queued 0 = [_, _] from rfl, List.mem_cons, List.not_mem_nil,
    or_false] at member
  rcases member with rfl | rfl
  · exact ⟨.text "1", rfl, rfl⟩
  · exact ⟨.text "2", rfl, rfl⟩

end Sample

end DeferredText
