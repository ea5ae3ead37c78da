import DeferredText.Proofs.Contents
import DeferredText.Proofs.Discard
import DeferredText.Proofs.Tokens

/-!
Contract: the arguments with which implementations are run.

When a call is run, all tokens of earlier calls in the texts of its arguments have been
replaced by the results. Only in keys of mappings tokens stay as they were recorded, and
a call whose token is in keys alone is not needed for it.

Owns: the arguments handed to implementations, in a resolution in which no further call
is recorded.

Does not own: the text of the resolution (`Proofs.Substitution`).
-/

namespace DeferredText

open CacheState Territory

namespace Fragment

/-- Neither results nor the texts around them contain or complete a token: wherever a
token occurs at some stage of the resolution, it is a fragment that is not replaced yet. -/
def Genuine
    (answer : String → String)
    (tokens : List String)
    (fragments : List Fragment) : Prop :=
  ∀ replaced left, tokens = replaced ++ left → ∀ token ∈ tokens, ∀ before after,
    join (settled answer replaced) fragments = before ++ token ++ after →
      token ∈ left ∧ ∃ first rest, fragments = first ++ .placeholder token :: rest ∧
        before = join (settled answer replaced) first

section Genuine

variable {answer : String → String} {tokens replaced left : List String} {token : String}
  {fragments : List Fragment}

theorem Genuine.own (genuine : Genuine answer tokens fragments)
    (stage : tokens = replaced ++ left) (member : token ∈ tokens) :
    OnlyAsFragment (settled answer replaced) token fragments := by
  intro before after split
  exact (genuine replaced left stage token member before after split).2

/-- A token that has been replaced does not occur any more. -/
theorem Genuine.gone (genuine : Genuine answer tokens fragments)
    (stage : tokens = replaced ++ left) (distinct : tokens.Nodup) (member : token ∈ replaced) :
    containsText token (join (settled answer replaced) fragments) = false := by
  by_contra occurs
  rw [Bool.not_eq_false, containsText_iff] at occurs
  obtain ⟨before, after, split⟩ := occurs
  have known : token ∈ tokens := stage ▸ List.mem_append_left left member
  obtain ⟨waiting, -⟩ := genuine replaced left stage token known before after split
  rw [stage, List.nodup_append] at distinct
  exact distinct.2.2 token member token waiting rfl

/-- Standard tokens are genuine among texts and results without doubled underscores. -/
theorem ArePlain.genuine (plain : ArePlain fragments) (answers : ∀ token, IsPlain (answer token))
    (standard : ∀ token ∈ tokens, IsToken token) : Genuine answer tokens fragments := by
  intro replaced left stage token member before after split
  have settles : Settles (settled answer replaced) := by
    intro other
    by_cases old : other ∈ replaced
    · right
      rw [settled, if_pos old]
      exact answers other
    · exact .inl (settled_of_notMem old)
  have isToken := standard token member
  obtain ⟨itself, where_⟩ := plain.occurrence settles isToken split
  refine ⟨?_, where_⟩
  by_contra absent
  have old : token ∈ replaced := by
    rw [stage, List.mem_append] at member
    exact member.resolve_right absent
  rw [settled, if_pos old] at itself
  exact isToken.not_isPlain (itself ▸ answers token)

end Genuine

end Fragment

namespace Turn

def token (turn : Turn) : String :=
  turn.invocation.token

/-- The implementation behind the call was run while the call had these arguments. -/
def Hands
    (start : Starter)
    (invoke : Drain.Invoke)
    (turn : Turn)
    (arguments : Arguments) : Prop :=
  ∃ asked answered result,
    asked.state.invocations[turn.number]? =
      some { turn.invocation with arguments := arguments } ∧
    World.Runs start asked (invoke turn.number) result answered

end Turn

namespace Drain

/-- The arguments of a call that is about to run. -/
def handed
    (results : Results)
    (arguments : Arguments) : Arguments :=
  if results.isEmpty then arguments else arguments.substitute results

theorem contents_handed (results : Results) (arguments : Arguments) :
    (handed results arguments).contents = arguments.contents.map results.applyTo := by
  rw [handed]
  split
  · rename_i empty
    rw [List.isEmpty_iff] at empty
    rw [empty]
    exact (List.map_id _).symm
  · exact arguments.contents_substitute results

theorem keyContents_handed (results : Results) (arguments : Arguments) :
    (handed results arguments).keyContents = arguments.keyContents := by
  rw [handed]
  split
  · rfl
  · exact arguments.keyContents_substitute results

theorem prepared_found {state : CacheState} {number : Nat} {invocation : Invocation}
    (results : Results) (found : state.invocations[number]? = some invocation) :
    (state.prepared number results).invocations[number]? =
      some { invocation with arguments := handed results invocation.arguments } := by
  rw [prepared, handed]
  split
  · exact found
  · rw [withInvocation, List.getElem?_modify_eq, found]
    rfl

variable {start : Starter} {invoke : Invoke} {index : Nat} {territory : Territory}
  {answer : String → String} {parts : String → List Fragment} {world after : World}
  {progress next : Progress} {turn : Turn} {past turns : List Turn} {outcome : Outcome Progress}

/-- A turn that runs its call hands over the arguments as they are at that time. -/
theorem Serves.hands (serves : Serves start invoke index progress turn outcome)
    (ran : turn.fate.ran = true) :
    turn.Hands start invoke (handed progress.results turn.invocation.arguments) := by
  have asks : ∀ {number : Nat} {invocation : Invocation} {before asked : World},
      Calls index progress number invocation before asked →
      asked.state.invocations[number]? =
        some { invocation with arguments := handed progress.results invocation.arguments } := by
    intro number invocation before asked calls
    rw [calls.tells.invocations]
    exact prepared_found progress.results calls.found
  cases serves with
  | skipped found unneeded tells => cases ran
  | returned calls runs readable tells => exact ⟨_, _, _, asks calls, runs⟩
  | unreadable calls runs unreadable => exact ⟨_, _, _, asks calls, runs⟩
  | failed calls runs tells closes => exact ⟨_, _, _, asks calls, runs⟩

/-! ### The results so far -/

/-- What replacing the tokens of past turns makes of the arguments that are still queued. -/
structure Reaches
    (answer : String → String)
    (parts : String → List Fragment)
    (past : List Turn)
    (queued : List Invocation)
    (results : Results) : Prop where
  known : ∀ token ∈ results.map Prod.fst, token ∈ past.map Turn.token
  rewritten : ∀ invocation ∈ queued, ∀ text ∈ invocation.arguments.contents,
    results.applyTo text = Fragment.join (settled answer (past.map Turn.token)) (parts text)
  returned : ∀ invocation ∈ queued, ∀ text ∈ invocation.arguments.contents, ∀ turn ∈ past,
    .placeholder turn.token ∈ parts text → ∃ value, turn.fate = .returned value (answer turn.token)

theorem reaches_nil {queued : List Invocation}
    (written : ∀ invocation ∈ queued, ∀ text ∈ invocation.arguments.contents,
      Fragment.join id (parts text) = text) :
    Reaches answer parts [] queued [] where
  known := fun _ member => absurd member List.not_mem_nil
  rewritten := fun invocation waiting text member => by
    rw [List.map_nil, settled_nil, written invocation waiting text member]
    rfl
  returned := fun _ _ _ _ _ member => absurd member List.not_mem_nil

/-- A token that is passed on to a queued call makes its own call needed. -/
theorem notMem_of_unneeded_arguments {text token : String} {queued : List Invocation}
    {invocation : Invocation} {content : String}
    (unneeded : isNeeded text token queued = false) (waiting : invocation ∈ queued)
    (member : content ∈ invocation.arguments.contents)
    (written : Fragment.join id (parts content) = content) :
    .placeholder token ∉ parts content := by
  intro passed
  obtain ⟨first, rest, split⟩ := List.append_of_mem passed
  have contains : containsText token content = true := by
    rw [containsText_iff]
    refine ⟨Fragment.join id first, Fragment.join id rest, ?_⟩
    conv_lhs => rw [← written, split]
    rw [Fragment.join_append, Fragment.join_cons, Fragment.written, String.append_assoc]
    rfl
  have mentions : invocation.arguments.mentions token = true :=
    invocation.arguments.mentions_iff.mpr ⟨content, member, contains⟩
  have needed : isNeeded text token queued = true := by
    rw [isNeeded, Bool.or_eq_true, List.any_eq_true]
    exact .inr ⟨invocation, waiting, mentions⟩
  rw [unneeded] at needed
  cases needed

/-- A turn that goes on brings its result into all arguments that wait for it. -/
theorem Reaches.step {queued : List Invocation}
    (reaches : Reaches answer parts past queued progress.results)
    (serves : Serves start invoke index progress turn (.ok next))
    (before : turn.before.state.queued index = queued)
    (answers : ∀ value text, turn.fate = .returned value text → text = answer turn.token)
    (nonempty : turn.token ≠ "")
    (fresh : turn.token ∉ past.map Turn.token)
    (written : ∀ invocation ∈ queued, ∀ text ∈ invocation.arguments.contents,
      Fragment.join id (parts text) = text)
    (own : ∀ invocation ∈ queued, ∀ text ∈ invocation.arguments.contents,
      Fragment.OnlyAsFragment (settled answer (past.map Turn.token)) turn.token (parts text)) :
    Reaches answer parts (past ++ [turn]) queued next.results := by
  have tokens : (past ++ [turn]).map Turn.token = past.map Turn.token ++ [turn.token] := by
    rw [List.map_append, List.map_singleton]
  cases serves with
  | @skipped number invocation before told found unneeded tells =>
      -- The token is in no argument that is still queued, so nothing has to be replaced.
      have absent : ∀ waiting ∈ queued, ∀ text ∈ waiting.arguments.contents,
          .placeholder invocation.token ∉ parts text := by
        intro waiting member text inside
        rw [before] at unneeded
        exact notMem_of_unneeded_arguments unneeded member inside
          (written waiting member text inside)
      refine ⟨?_, ?_, ?_⟩
      · intro token member
        rw [tokens]
        exact List.mem_append_left _ (reaches.known token member)
      · intro waiting member text inside
        rw [Progress.skip, reaches.rewritten waiting member text inside, tokens]
        apply Fragment.join_congr
        intro token passed
        have other : token ≠ invocation.token := by
          rintro rfl
          exact absent waiting member text inside passed
        simp [settled, Turn.token, other]
      · intro waiting member text inside earlier among passed
        rcases List.mem_append.mp among with old | new
        · exact reaches.returned waiting member text inside earlier old passed
        · obtain rfl := List.mem_singleton.mp new
          exact absurd passed (absent waiting member text inside)
  | @returned number invocation before asked answered told value text calls runs readable tells =>
      have isAnswer : text = answer invocation.token := answers value text rfl
      have unset : invocation.token ∉ progress.results.map Prod.fst :=
        fun member => fresh (reaches.known _ member)
      have added : (progress.complete invocation.token text).results =
          progress.results ++ [(invocation.token, text)] := Results.set_of_notMem unset
      refine ⟨?_, ?_, ?_⟩
      · intro token member
        rw [added, List.map_append, List.mem_append] at member
        rw [tokens, List.mem_append]
        exact member.imp_left (reaches.known token)
      · intro waiting member content inside
        have replaced := Fragment.replaceText_join (answer invocation.token)
          (own waiting member content inside) nonempty (settled_of_notMem fresh)
        rw [added, Results.applyTo_append, reaches.rewritten waiting member content inside, tokens,
          isAnswer]
        exact replaced.trans (by rw [← update_settled]; rfl)
      · intro waiting member content inside earlier among passed
        rcases List.mem_append.mp among with old | new
        · exact reaches.returned waiting member content inside earlier old passed
        · obtain rfl := List.mem_singleton.mp new
          exact ⟨value, by rw [isAnswer]; rfl⟩

/-! ### What is handed over -/

/-- The arguments that an implementation was run with, by the turns before its own. -/
structure Handover
    (start : Starter)
    (invoke : Invoke)
    (answer : String → String)
    (parts : String → List Fragment)
    (queued : List Invocation)
    (earlier : List Turn)
    (turn : Turn)
    (arguments : Arguments) : Prop where
  /-- The turns before it are those of the calls recorded before it, in their order. -/
  recorded : earlier.map Turn.invocation ++ [turn.invocation] <+: queued
  hands : turn.Hands start invoke arguments
  /-- Every earlier token is replaced, in every text that is not inside of a key. -/
  contents : arguments.contents = turn.invocation.arguments.contents.map fun text =>
    Fragment.join (settled answer (earlier.map Turn.token)) (parts text)
  /-- What replaces a token is the result of its call, which was run before. -/
  returned : ∀ text ∈ turn.invocation.arguments.contents, ∀ other ∈ earlier,
    .placeholder other.token ∈ parts text → ∃ value, other.fate = .returned value
      (answer other.token)
  keys : arguments.keyContents = turn.invocation.arguments.keyContents

/-- A turn hands over what the results so far have made of the recorded arguments. -/
theorem Serves.handover {queued : List Invocation}
    (serves : Serves start invoke index progress turn outcome) (ran : turn.fate.ran = true)
    (reaches : Reaches answer parts past (turn.invocation :: queued) progress.results) :
    Handover start invoke answer parts (past.map Turn.invocation ++ turn.invocation :: queued) past
      turn (handed progress.results turn.invocation.arguments) where
  recorded := by
    rw [List.prefix_append_right_inj]
    exact ⟨queued, rfl⟩
  hands := serves.hands ran
  contents := by
    rw [contents_handed]
    apply List.map_congr_left
    intro text inside
    exact reaches.rewritten turn.invocation List.mem_cons_self text inside
  returned := fun text inside => reaches.returned turn.invocation List.mem_cons_self text inside
  keys := keyContents_handed _ _

theorem Reaches.mono {queued fewer : List Invocation} {results : Results}
    (reaches : Reaches answer parts past queued results)
    (among : ∀ invocation ∈ fewer, invocation ∈ queued) :
    Reaches answer parts past fewer results where
  known := reaches.known
  rewritten := fun invocation member => reaches.rewritten invocation (among invocation member)
  returned := fun invocation member => reaches.returned invocation (among invocation member)

/-- Along a course every implementation is handed what the results before it make of the
recorded arguments. -/
theorem Course.handover {queued : List Invocation}
    (course : Course start invoke index world progress turns outcome after) (past : List Turn)
    (orders : Orders anyState start) (invokes : ∀ number, (invoke number).Guarded)
    (guarded : World.Guarded anyState territory world) (owned : index ∈ territory.waitlists)
    (silent : Silent index turns)
    (answers : ∀ turn ∈ turns, ∀ value text, turn.fate = .returned value text →
      text = answer turn.token)
    (whole : queued = past.map Turn.invocation ++ world.state.queued index)
    (nonempty : "" ∉ queued.map Invocation.token)
    (distinct : (queued.map Invocation.token).Nodup)
    (written : ∀ invocation ∈ queued, ∀ text ∈ invocation.arguments.contents,
      Fragment.join id (parts text) = text)
    (genuine : ∀ invocation ∈ queued, ∀ text ∈ invocation.arguments.contents,
      Fragment.Genuine answer (queued.map Invocation.token) (parts text))
    (reaches : Reaches answer parts past (world.state.queued index) progress.results)
    {earlier later : List Turn} {turn : Turn} (split : turns = earlier ++ turn :: later)
    (ran : turn.fate.ran = true) :
    ∃ arguments, Handover start invoke answer parts queued (past ++ earlier) turn arguments := by
  induction course generalizing past territory earlier with
  | finished empty =>
      rcases earlier with _ | ⟨first, others⟩ <;> cases split
  | @further world after progress next head turns outcome takes serves _ inductionHypothesis =>
      have quiet := silent head List.mem_cons_self serves.unfailing
      obtain ⟨queue, kept, guardedAfter⟩ :=
        serves.queued takes orders invokes guarded owned quiet
      rw [queue] at whole reaches
      rcases earlier with _ | ⟨first, others⟩
      · obtain ⟨rfl, -⟩ := List.cons.inj split
        rw [List.append_nil, whole]
        exact ⟨_, serves.handover ran reaches⟩
      · obtain ⟨rfl, rest⟩ := List.cons.inj split
        have served : head.invocation ∈ queued := by
          rw [whole]
          exact List.mem_append_right _ List.mem_cons_self
        have waiting : ∀ invocation ∈ head.after.state.queued index, invocation ∈ queued := by
          intro invocation member
          rw [whole]
          exact List.mem_append_right _ (List.mem_cons_of_mem _ member)
        have tokens : queued.map Invocation.token = past.map Turn.token ++
            head.token :: (head.after.state.queued index).map Invocation.token := by
          rw [whole, List.map_append, List.map_map]
          rfl
        have fresh : head.token ∉ past.map Turn.token := by
          intro member
          rw [tokens] at distinct
          exact (List.nodup_append.mp distinct).2.2 _ member _ List.mem_cons_self rfl
        have reachesNext : Reaches answer parts (past ++ [head])
            (head.after.state.queued index) next.results := by
          apply (reaches.mono fun _ => List.mem_cons_of_mem _).step serves kept.symm
            (answers head List.mem_cons_self) _ fresh
          · exact fun invocation member => written invocation (waiting invocation member)
          · intro invocation member text inside
            apply (genuine invocation (waiting invocation member) text inside).own tokens
            exact List.mem_map_of_mem served
          · intro empty
            exact nonempty (empty ▸ List.mem_map_of_mem served)
        have further := inductionHypothesis (past ++ [head]) guardedAfter owned silent.tail
          (fun other member => answers other (List.mem_cons_of_mem head member))
          (by rw [whole, List.map_append, List.append_assoc]; rfl) reachesNext rest
        rwa [List.append_assoc] at further
  | @failed world progress head failure takes serves =>
      rcases earlier with _ | ⟨first, others⟩
      · obtain ⟨rfl, -⟩ := List.cons.inj split
        have queue := takes.queued serves.found
        rw [queue] at whole reaches
        rw [List.append_nil, whole]
        exact ⟨_, serves.handover ran reaches⟩
      · obtain ⟨-, rest⟩ := List.cons.inj split
        rcases others with _ | ⟨second, others⟩ <;> cases rest

theorem Resolution.handover {text : String} {outcome : Outcome String}
    (resolution : Resolution start invoke index text world turns outcome after)
    (orders : Orders anyState start) (invokes : ∀ number, (invoke number).Guarded)
    (guarded : World.Guarded anyState territory world) (owned : index ∈ territory.waitlists)
    (silent : Silent index turns)
    (answers : ∀ turn ∈ turns, ∀ value text, turn.fate = .returned value text →
      text = answer turn.token)
    (nonempty : "" ∉ world.state.tokens index)
    (distinct : (world.state.tokens index).Nodup)
    (written : ∀ invocation ∈ world.state.queued index,
      ∀ content ∈ invocation.arguments.contents, Fragment.join id (parts content) = content)
    (genuine : ∀ invocation ∈ world.state.queued index,
      ∀ content ∈ invocation.arguments.contents,
        Fragment.Genuine answer (world.state.tokens index) (parts content))
    {earlier later : List Turn} {turn : Turn} (split : turns = earlier ++ turn :: later)
    (ran : turn.fate.ran = true) :
    ∃ arguments, Handover start invoke answer parts (world.state.queued index) earlier turn
      arguments := by
  have begun : ∀ {begun middle : World} {event : Event} {end_ : Outcome Progress},
      world.Tells event begun →
      Course start invoke index begun (.start text) turns end_ middle →
      ∃ arguments, Handover start invoke answer parts (world.state.queued index) earlier turn
        arguments := by
    intro begun middle event end_ begins course
    have guardedBegun := (guarded.tell begins 0).2
    have same : begun.state.queued index = world.state.queued index := by
      obtain ⟨lines, rfl⟩ := begins.eq
      rfl
    rw [← same] at written genuine ⊢
    exact course.handover [] orders invokes guardedBegun owned silent answers rfl
      (same ▸ nonempty) (same ▸ distinct) written (same ▸ genuine) (reaches_nil written) split ran
  cases resolution with
  | finished begins course ends => exact begun begins course
  | failed begins course => exact begun begins course

end Drain

namespace Sample

/-- The first token is inside of a list that is passed to the second call. -/
def passing : CacheState :=
  cache [call "<x>" (.int 1),
    { call "<y>" (.text "2") with arguments := .ofPositional [.list [.text "a<x>"]] }]

def passed : Turn :=
  { number := 0
    invocation := call "<x>" (.int 1)
    fate := .returned (.int 1) "1"
    before := ⟨passing.withQueue 0 [1], []⟩
    after := ⟨CacheState.withStatus { passing.withQueue 0 [1] with
      calls := [⟨"helper", .none⟩]
      started := [0] } 0 .completed, []⟩ }

/-- The first token is a key of a mapping that is passed to the second call. -/
def keyed : CacheState :=
  cache [call "<x>" (.int 1),
    { call "<y>" (.text "2") with arguments := .ofPositional [.dict [(.text "<x>", .none)]] }]

def unpassed : Turn :=
  { number := 0
    invocation := call "<x>" (.int 1)
    fate := .skipped
    before := ⟨keyed.withQueue 0 [1], []⟩
    after := ⟨(keyed.withQueue 0 [1]).withStatus 0 .skipped, []⟩ }

end Sample

end DeferredText
