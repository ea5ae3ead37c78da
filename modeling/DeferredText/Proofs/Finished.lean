import DeferredText.Proofs.Agreement

/-!
Contract: no token is left in finished text.

What a rendering resolves was written with tokens of its own calls, and every result is
put together from plain texts, from what its implementation was handed, and from what was
recorded meanwhile. As long as no result holds a token that was recorded meanwhile, the
tokens in the text and in the arguments are all replaced by plain texts.

Owns: the finished text of a rendering.

Does not own: what a template is evaluated to (`Proofs.Lockstep`), and which arguments an
implementation is handed (`Proofs.Handover`).
-/

namespace DeferredText

open CacheState Territory

namespace Turn

/-- The tokens of the calls that were recorded during the turn. -/
def generated (turn : Turn) : List String :=
  (turn.after.state.invocations.drop turn.before.state.invocations.length).map Invocation.token

/-- The text that the call of the turn returned, if it returned one. -/
def result? (turn : Turn) : Option String :=
  match turn.fate with
  | .returned _ text => some text
  | _ => none

/-- No token of a call that was recorded during the turn is in its result. -/
def LeaksNothing (turn : Turn) : Prop :=
  ∀ text ∈ turn.result?, ∀ token ∈ turn.generated, containsText token text = false

end Turn

/-- The text and the arguments of the calls consist of plain parts and of whole tokens: the
text of tokens of all calls, the arguments of tokens of earlier ones. In keys of mappings
there are no tokens. -/
structure Embeds
    (text : String)
    (queued : List Invocation) : Prop where
  tokens : ∀ call ∈ queued, IsToken call.token
  text : Written (queued.map Invocation.token) text
  arguments : ∀ earlier call later, queued = earlier ++ call :: later →
    ∀ content ∈ call.arguments.contents, Written (earlier.map Invocation.token) content
  keys : ∀ call ∈ queued, ∀ content ∈ call.arguments.keyContents, IsPlain content

/-! ### Plain texts -/

section Plain

variable {tokens : List String} {token text : String}

theorem IsToken.notIn_plain (isToken : IsToken token) (plain : IsPlain text) :
    containsText token text = false := by
  have whole : Fragment.join id [.literal text] = text := String.append_empty
  rw [← Bool.not_eq_true, ← whole,
    containsText_written (Fragment.arePlain_literal plain) isToken]
  exact fun member => nomatch List.mem_singleton.mp member

/-- A written text without tokens is plain. -/
theorem Written.isPlain (written : Written tokens text)
    (absent : ∀ token ∈ tokens, IsToken token → containsText token text = false) :
    IsPlain text := by
  obtain ⟨fragments, plain, known, rfl⟩ := written
  apply isPlain_join
  intro fragment member
  cases fragment with
  | literal content => exact plain.1 content member
  | placeholder token =>
      exfalso
      have isToken := plain.2 token member
      have found := (containsText_written plain isToken).mpr member
      rw [absent token (known token member) isToken] at found
      cases found

/-- A written text holds no tokens but those it was written with. -/
theorem Written.restrict {fewer : List String} (written : Written tokens text)
    (among : ∀ token ∈ tokens, IsToken token → containsText token text = true → token ∈ fewer) :
    Written fewer text := by
  obtain ⟨fragments, plain, known, rfl⟩ := written
  refine ⟨fragments, plain, ?_, rfl⟩
  intro token member
  have isToken := plain.2 token member
  exact among token (known token member) isToken
    ((containsText_written plain isToken).mpr member)

end Plain

namespace Drain

/-- The results of turns, each under its token. -/
def results (turns : List Turn) : Results :=
  turns.filterMap fun turn => turn.result?.map fun text => (turn.token, text)

/-- The result of a turn is put together from plain texts, from tokens in the arguments that
the implementation was handed, and from tokens of calls recorded meanwhile. -/
def Verbatim
    (earlier : List Turn)
    (turn : Turn) : Prop :=
  ∀ text ∈ turn.result?, ∃ tokens, Written tokens text ∧ ∀ token ∈ tokens,
    token ∈ turn.generated ∨
      ¬ (handed (results earlier) turn.invocation.arguments).Free [token]

theorem results_append (turns : List Turn) (turn : Turn) :
    results (turns ++ [turn]) =
      results turns ++ (turn.result?.map fun text => (turn.token, text)).toList := by
  rw [results, List.filterMap_append, List.filterMap_cons, results]
  cases turn.result? <;> rfl

/-- How far the tokens in a text and in the arguments of queued calls are replaced. -/
structure Cleared
    (text : String)
    (past : List Turn)
    (queued : List Invocation)
    (progress : Progress) : Prop where
  clean : progress.results.Clean
  results : progress.results = Drain.results past
  known : ∀ token ∈ progress.results.map Prod.fst, token ∈ past.map Turn.token
  shown : progress.text = progress.results.applyTo text
  inText : ∀ token ∈ past.map Turn.token, containsText token text = true →
    token ∈ progress.results.map Prod.fst
  inArguments : ∀ call ∈ queued, ∀ content ∈ call.arguments.contents,
    ∀ token ∈ past.map Turn.token, containsText token content = true →
      token ∈ progress.results.map Prod.fst

theorem cleared_nil (text : String) (queued : List Invocation) :
    Cleared text [] queued (.start text) where
  clean := Results.clean_nil
  results := rfl
  known := fun _ member => absurd member List.not_mem_nil
  shown := rfl
  inText := fun _ member => absurd member List.not_mem_nil
  inArguments := fun _ _ _ _ _ member => absurd member List.not_mem_nil

variable {start : Starter} {invoke : Invoke} {index : Nat} {territory : Territory}
  {text : String} {world after : World} {progress next final : Progress} {turn : Turn}
  {past turns : List Turn} {call : Invocation} {queued : List Invocation}

/-- A text whose tokens are all of past calls is plain when the results are applied. -/
theorem Cleared.isPlain (cleared : Cleared text past queued progress) {content : String}
    (written : Written (past.map Turn.token) content)
    (replaced : ∀ token ∈ past.map Turn.token, containsText token content = true →
      token ∈ progress.results.map Prod.fst) :
    IsPlain (progress.results.applyTo content) :=
  cleared.clean.isPlain_applyTo (written.restrict fun token member _ => replaced token member)

/-- The oldest call is handed plain texts, and so its result is plain. -/
theorem Cleared.plain_result (cleared : Cleared text past (turn.invocation :: queued) progress)
    (arguments : ∀ content ∈ turn.invocation.arguments.contents,
      Written (past.map Turn.token) content)
    (keys : ∀ content ∈ turn.invocation.arguments.keyContents, IsPlain content)
    (verbatim : Verbatim past turn) (leaks : turn.LeaksNothing) {answer : String}
    (answers : answer ∈ turn.result?) : IsPlain answer := by
  obtain ⟨tokens, written, among⟩ := verbatim answer answers
  apply written.isPlain
  intro token member isToken
  rcases among token member with generated | passed
  · exact leaks answer answers token generated
  · exfalso
    apply passed
    rw [← cleared.results]
    intro content inside other same
    obtain rfl := List.mem_singleton.mp same
    apply isToken.notIn_plain
    rcases List.mem_append.mp inside with shown | hidden
    · rw [contents_handed] at shown
      obtain ⟨recorded, isRecorded, rfl⟩ := List.mem_map.mp shown
      exact cleared.isPlain (arguments recorded isRecorded)
        (cleared.inArguments _ List.mem_cons_self recorded isRecorded)
    · rw [keyContents_handed] at hidden
      exact keys content hidden

/-- A turn replaces its token wherever it is, or the token is nowhere. -/
theorem Cleared.step (cleared : Cleared text past (turn.invocation :: queued) progress)
    (serves : Serves start invoke index progress turn (.ok next))
    (waiting : turn.before.state.queued index = queued)
    (isToken : IsToken turn.token) (fresh : turn.token ∉ past.map Turn.token)
    {tokens : List String} (written : Written tokens text)
    (plain : ∀ answer ∈ turn.result?, IsPlain answer) :
    Cleared text (past ++ [turn]) queued next := by
  have unset : turn.token ∉ progress.results.map Prod.fst :=
    fun member => fresh (cleared.known _ member)
  have others : ∀ {token : String}, token ∈ (past ++ [turn]).map Turn.token →
      token ∈ past.map Turn.token ∨ token = turn.token := by
    intro token member
    rw [List.map_append, List.mem_append] at member
    exact member.imp_right List.mem_singleton.mp
  cases serves with
  | @skipped number invocation before told found unneeded tells =>
      -- Nothing that waits for the token is left, so it needs no result.
      rw [waiting, isNeeded, Bool.or_eq_false_iff, List.any_eq_false] at unneeded
      obtain ⟨notInText, notPassed⟩ := unneeded
      refine ⟨cleared.clean, ?_, ?_, cleared.shown, ?_, ?_⟩
      · rw [results_append]
        exact cleared.results.trans (List.append_nil _).symm
      · intro token member
        rw [List.map_append]
        exact List.mem_append_left _ (cleared.known token member)
      · intro token member found
        rcases others member with old | rfl
        · exact cleared.inText token old found
        · have still := cleared.clean.containsText_applyTo written isToken unset found
          rw [← cleared.shown] at still
          exact absurd still (Bool.eq_false_iff.mp notInText)
      · intro waiting member content inside token among found
        rcases others among with old | rfl
        · exact cleared.inArguments waiting (List.mem_cons_of_mem _ member) content inside token
            old found
        · have mentions := waiting.arguments.mentions_iff.mpr ⟨content, inside, found⟩
          exact absurd mentions (notPassed waiting member)
  | @returned number invocation before asked answered told value answer calls runs readable tells =>
      have added : (progress.complete invocation.token answer).results =
          progress.results ++ [(invocation.token, answer)] := Results.set_of_notMem unset
      have tokens : (progress.complete invocation.token answer).results.map Prod.fst =
          progress.results.map Prod.fst ++ [invocation.token] := by
        rw [added, List.map_append]
        rfl
      refine ⟨?_, ?_, ?_, ?_, ?_, ?_⟩
      · rw [added]
        exact cleared.clean.snoc isToken unset (plain answer rfl)
      · rw [added, results_append, cleared.results]
        rfl
      · intro token member
        rw [tokens, List.mem_append] at member
        rw [List.map_append, List.mem_append]
        exact member.imp_left (cleared.known token)
      · rw [added, Results.applyTo_both, ← cleared.shown]
        rfl
      · intro token member found
        rw [tokens, List.mem_append]
        exact (others member).imp (fun old => cleared.inText token old found)
          fun same => List.mem_singleton.mpr same
      · intro waiting member content inside token among found
        rw [tokens, List.mem_append]
        exact (others among).imp (fun old => cleared.inArguments waiting
          (List.mem_cons_of_mem _ member) content inside token old found)
          fun same => List.mem_singleton.mpr same

/-- At the end of a course no token is left in the text. -/
theorem Course.plain {whole : List Invocation} {outcome : Outcome Progress}
    (course : Course start invoke index world progress turns outcome after)
    (orders : Orders anyState start) (invokes : ∀ number, (invoke number).Guarded)
    (guarded : World.Guarded anyState territory world) (owned : index ∈ territory.waitlists)
    (silent : Silent index turns)
    (embeds : Embeds text whole) (distinct : (whole.map Invocation.token).Nodup)
    (past : List Turn) (split : whole = past.map Turn.invocation ++ world.state.queued index)
    (verbatim : ∀ earlier turn later, turns = earlier ++ turn :: later →
      Verbatim (past ++ earlier) turn)
    (leaks : ∀ turn ∈ turns, turn.LeaksNothing)
    (cleared : Cleared text past (world.state.queued index) progress)
    (ends : outcome = .ok final) : IsPlain final.text := by
  induction course generalizing past territory with
  | @finished world progress empty =>
      obtain rfl := Except.ok.inj ends
      have none : world.state.queued index = [] := by
        rw [CacheState.queue] at empty
        rw [CacheState.queued, empty]
        rfl
      rw [none, List.append_nil] at split
      have written := embeds.text
      rw [split, List.map_map] at written
      rw [cleared.shown]
      exact cleared.isPlain written cleared.inText
  | @further world after progress next head turns outcome takes serves _ inductionHypothesis =>
      obtain ⟨queue, kept, guardedAfter⟩ := serves.queued takes orders invokes guarded owned
        (silent head List.mem_cons_self serves.unfailing)
      rw [queue] at split cleared
      have tokens : (past.map Turn.invocation).map Invocation.token = past.map Turn.token := by
        rw [List.map_map]
        rfl
      have isWhole : head.invocation ∈ whole := by
        rw [split]
        exact List.mem_append_right _ List.mem_cons_self
      have fresh : head.token ∉ past.map Turn.token := by
        intro member
        rw [split, List.map_append, tokens] at distinct
        exact (List.nodup_append.mp distinct).2.2 _ member _ List.mem_cons_self rfl
      have arguments := embeds.arguments _ _ _ split
      rw [tokens] at arguments
      have plain : ∀ answer ∈ head.result?, IsPlain answer := fun answer answers =>
        cleared.plain_result arguments (embeds.keys _ isWhole)
          (by simpa using verbatim [] head turns rfl) (leaks head List.mem_cons_self) answers
      apply inductionHypothesis guardedAfter owned silent.tail (past ++ [head])
      · rw [split, List.map_append, List.append_assoc]
        rfl
      · intro earlier turn later same
        have own := verbatim (head :: earlier) turn later (by rw [same]; rfl)
        rwa [List.append_assoc]
      · exact fun turn member => leaks turn (List.mem_cons_of_mem head member)
      · exact cleared.step serves kept.symm (embeds.tokens _ isWhole) fresh embeds.text plain
      · exact ends
  | failed takes serves => cases ends

theorem Resolution.plain {rendered : String}
    (resolution : Resolution start invoke index rendered world turns (.ok text) after)
    (orders : Orders anyState start) (invokes : ∀ number, (invoke number).Guarded)
    (guarded : World.Guarded anyState territory world) (owned : index ∈ territory.waitlists)
    (silent : Silent index turns) (distinct : (world.state.tokens index).Nodup)
    (embeds : Embeds rendered (world.state.queued index))
    (verbatim : ∀ earlier turn later, turns = earlier ++ turn :: later → Verbatim earlier turn)
    (leaks : ∀ turn ∈ turns, turn.LeaksNothing) : IsPlain text := by
  cases resolution with
  | @finished begun middle after progress begins course ends =>
      have guardedBegun := (guarded.tell begins 0).2
      have same : begun.state.queued index = world.state.queued index := by
        obtain ⟨lines, rfl⟩ := begins.eq
        rfl
      exact course.plain orders invokes guardedBegun owned silent embeds distinct [] same.symm
        verbatim leaks (cleared_nil rendered _) rfl

end Drain

/-- A waitlist that is opened is nobody else's. -/
theorem World.Guarded.opened {world : World} (guarded : World.Guarded anyState .empty world) :
    World.Guarded anyState (.ofWaitlist world.state.waitlists.length)
      (world.withState world.state.opened) := by
  obtain ⟨holdings, same, guards⟩ := guarded.tasks
  have moved : Guards anyState .empty world.state.opened holdings :=
    guards.moves (moves_opened world.state) guarded.orderly (.empty _)
      fun holding _ => .empty_left holding.1
  refine ⟨(moves_opened world.state).orderly guarded.orderly, trivial, ?_, holdings, same, ?_⟩
  · constructor
    · rintro index rfl
      change world.state.waitlists.length < world.state.opened.waitlists.length
      simp [CacheState.opened]
    · exact fun _ member => absurd member (Set.notMem_empty _)
    · exact fun _ member => absurd member (Set.notMem_empty _)
  · refine ⟨?_, moved.holds, moved.guarded, moved.separate⟩
    intro holding member
    refine ⟨?_, fun _ _ => Set.notMem_empty _⟩
    rintro index taken rfl
    exact absurd ((guards.holds holding member).waitlists _ taken) (Nat.lt_irrefl _)

namespace Sample

/-- A deferred helper that puts its argument in brackets. -/
def bracketing : Callable :=
  .helper ⟨"f", .function, .coroutine fun arguments =>
    match arguments.positional with
    | [.text content] => .finish (.text ("<" ++ content ++ ">"))
    | _ => .finish .none⟩

/-- A deferred helper that answers with a number. -/
def counting : Callable :=
  .helper ⟨"g", .function, .coroutine fun _ => .finish (.int 2)⟩

/-- A deferred helper that returns its argument. -/
def returning : Callable :=
  .helper ⟨"r", .function, .coroutine fun arguments =>
    .finish (arguments.positional.headD .none)⟩

/-- A deferred helper that returns what it gets when it calls another one by name. -/
def relaying : Callable :=
  .helper ⟨"a", .function, .coroutine fun _ =>
    .compute (.call "g" .none fun outcome => .ofOutcome outcome .finish) fun outcome =>
      .ofOutcome outcome .finish⟩

def deferredOnly : Registry :=
  .ofEntries [⟨"f", .deferred "f" bracketing, true, some bracketing⟩,
    ⟨"g", .deferred "g" counting, true, some counting⟩,
    ⟨"r", .deferred "r" returning, true, some returning⟩,
    ⟨"a", .deferred "a" relaying, true, some relaying⟩]

/-- What a template is rendered to, with the tokens of the calls that are recorded. -/
def finished (template : String) : Option String × List String :=
  let ended := (unusedWorld deferredOnly).run (Cache.startRender limits) 9
    (Cache.render limits none none (.text template) .none)
  (ended.1.toOption.join, ended.2.state.invocations.map Invocation.token)

def innerDrawn : String × Supply :=
  Supply.token .standard .initial

def outerDrawn : String × Supply :=
  Supply.token .standard innerDrawn.2

def inner : Invocation :=
  { token := innerDrawn.1
    name := "g"
    arguments := .none
    target := counting
    style := .coroutine
    status := .pending }

def outer : Invocation :=
  { token := outerDrawn.1
    name := "f"
    arguments := .ofPositional [.text innerDrawn.1]
    target := bracketing
    style := .coroutine
    status := .pending }

/-- The state after the template was evaluated. -/
def evaluated : CacheState :=
  ((unusedWorld deferredOnly).state.opened.recordedIn 1 inner innerDrawn.2).recordedIn 1 outer
    outerDrawn.2

/-- The argument of the outer call when the inner one has returned. -/
def received : String :=
  replaceText innerDrawn.1 "2" innerDrawn.1

/-- The text when the inner call has returned. -/
def between : String :=
  replaceText innerDrawn.1 "2" outerDrawn.1

end Sample

end DeferredText
