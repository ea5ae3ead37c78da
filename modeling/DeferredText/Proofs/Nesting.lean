import DeferredText.Proofs.Splicing
import DeferredText.Proofs.Surfacing

/-!
Contract: nested renderings compose.

When a template of an ensemble is rendered, every call of a helper that has another template
rendered ends in the text which that template comes to by itself. The crux is one call: it is
run while the queue of the outer rendering stands half taken, and whatever it does on its way,
it leaves the waitlists and the calls that were there before as they were. So the outer queue
goes on where it was, and the text is put in place of the token without being read again.

Owns: what nested renderings leave alone, the answers of recorded calls, and the rendering of
the templates of an ensemble.

Does not own: evaluation (`Proofs.Splicing`), and failures of nested renderings
(`Proofs.Surfacing`).
-/

namespace DeferredText

open CacheState

/-! ### What is left alone -/

/-- Waitlists and calls below two marks are left as they were, so many tokens are drawn, and
promises that were made are not touched. -/
structure CacheState.Builds (lists recorded drawn : Nat) (before after : CacheState) : Prop where
  waitlists : ∀ index < lists, after.waitlists[index]? = before.waitlists[index]?
  invocations : ∀ number < recorded, after.invocations[number]? = before.invocations[number]?
  opens : before.waitlists.length ≤ after.waitlists.length
  records : before.invocations.length ≤ after.invocations.length
  promises : before.promises <+: after.promises
  supply : after.supply = (Supply.tokens before.shape drawn before.supply).2
  shape : after.shape = before.shape
  registry : after.registry = before.registry
  log : after.log = before.log
  fallback : after.defaultWaitlist = before.defaultWaitlist

namespace CacheState

variable {lists recorded drawn more : Nat} {before middle after : CacheState}

theorem Builds.trans (first : Builds lists recorded drawn before middle)
    (second : Builds lists recorded more middle after) :
    Builds lists recorded (drawn + more) before after where
  waitlists := fun index below => (second.waitlists index below).trans (first.waitlists index below)
  invocations := fun number below =>
    (second.invocations number below).trans (first.invocations number below)
  opens := first.opens.trans second.opens
  records := first.records.trans second.records
  promises := first.promises.trans second.promises
  supply := by rw [second.supply, first.shape, first.supply, Supply.tokens_add]
  shape := second.shape.trans first.shape
  registry := second.registry.trans first.registry
  log := second.log.trans first.log
  fallback := second.fallback.trans first.fallback

theorem Builds.mono (builds : Builds lists recorded drawn before after) {fewer less : Nat}
    (lower : fewer ≤ lists) (below : less ≤ recorded) : Builds fewer less drawn before after :=
  { builds with
    waitlists := fun index inside => builds.waitlists index (inside.trans_le lower)
    invocations := fun number inside => builds.invocations number (inside.trans_le below) }

/-- What happens behind a rendering leaves alone what was there before it. -/
theorem Builds.behind (first : Builds before.waitlists.length before.invocations.length drawn
      before middle)
    (second : Builds middle.waitlists.length middle.invocations.length more middle after) :
    Builds before.waitlists.length before.invocations.length (drawn + more) before after :=
  first.trans (second.mono first.opens first.records)

/-- Neither waitlists nor calls change. -/
theorem Builds.of_idle (waitlists : after.waitlists = before.waitlists)
    (invocations : after.invocations = before.invocations)
    (promises : before.promises <+: after.promises) (supply : after.supply = before.supply)
    (shape : after.shape = before.shape) (registry : after.registry = before.registry)
    (log : after.log = before.log) (fallback : after.defaultWaitlist = before.defaultWaitlist) :
    Builds lists recorded 0 before after where
  waitlists := fun _ _ => by rw [waitlists]
  invocations := fun _ _ => by rw [invocations]
  opens := waitlists ▸ Nat.le_refl _
  records := invocations ▸ Nat.le_refl _
  promises := promises
  supply := supply
  shape := shape
  registry := registry
  log := log
  fallback := fallback

theorem builds_refl (state : CacheState) : Builds lists recorded 0 state state :=
  .of_idle rfl rfl List.prefix_rfl rfl rfl rfl rfl rfl

theorem builds_withLines (state : CacheState) (lines : List String) :
    Builds lists recorded 0 state (state.withLines lines) :=
  .of_idle rfl rfl List.prefix_rfl rfl rfl rfl rfl rfl

/-- Deliveries decide promises that were made behind the mark. -/
theorem Builds.decided (builds : Builds lists recorded drawn before after) {promises : List Promise}
    (older : before.promises <+: promises) (ready : List Delivery) :
    Builds lists recorded drawn before { after with ready := ready, promises := promises } :=
  { builds with promises := older }

/-- A waitlist at the mark is changed. -/
theorem builds_withQueue (state : CacheState) (numbers : List Nat) :
    Builds lists recorded 0 state (state.withQueue lists numbers) :=
  { @builds_refl lists recorded state with
    waitlists := fun index below => List.getElem?_set_ne (Nat.ne_of_gt below)
    opens := by simp [withQueue, setWaitlist] }

/-- A call at the mark is changed. -/
theorem builds_withInvocation (state : CacheState) (change : Invocation → Invocation) :
    Builds lists recorded 0 state (state.withInvocation recorded change) :=
  { @builds_refl lists recorded state with
    invocations := fun number below => List.getElem?_modify_ne change state.invocations (Nat.ne_of_gt below)
    records := by simp [withInvocation] }

/-- A call at the mark is taken off the waitlist at the mark. -/
theorem builds_asking (state : CacheState) (behind : List Nat) (results : Results)
    (lines : List String) :
    Builds lists recorded 0 state (state.asking lists recorded behind results lines) :=
  ((builds_withQueue state behind).trans (builds_withInvocation _ _)).trans (builds_withLines _ lines)

/-- A waitlist is opened, and calls are recorded in it. -/
theorem Gathers.builds {calls : List Invocation} {index : Nat}
    (gathers : Gathers index calls before.opened after) (own : index = before.waitlists.length) :
    Builds before.waitlists.length before.invocations.length calls.length before after where
  waitlists := fun other below => by
    rw [gathers.others other (own ▸ Nat.ne_of_lt below)]
    exact List.getElem?_append_left below
  invocations := fun number below => by
    rw [gathers.invocations]
    exact List.getElem?_append_left below
  opens := by
    rw [gathers.waitlists]
    simp [opened]
  records := by
    rw [gathers.invocations, List.length_append]
    exact Nat.le_add_right _ _
  promises := gathers.promises ▸ List.prefix_rfl
  supply := congrArg Prod.snd gathers.drawn
  shape := gathers.shape
  registry := gathers.registry
  log := gathers.log
  fallback := gathers.fallback

end CacheState

/-- A task runs to its end with a value; nothing is due then, and what was there before it is
left alone. -/
def World.Brings {α : Type}
    (limits : Limits)
    (world : World)
    (task : Task CacheState α)
    (value : α)
    (drawn : Nat) : Prop :=
  ∃ after, World.Runs (Cache.startRender limits) world task (.ok value) (world.withState after) ∧
    after.ready = [] ∧
    Builds world.state.waitlists.length world.state.invocations.length drawn world.state after

/-- The next tokens of a supply are different from each other. -/
def Supply.Apart
    (shape : PlaceholderShape)
    (count : Nat)
    (supply : Supply) : Prop :=
  (tokens shape count supply).1.Nodup

instance (shape : PlaceholderShape) (count : Nat) (supply : Supply) :
    Decidable (Supply.Apart shape count supply) :=
  inferInstanceAs (Decidable (List.Nodup _))

theorem Supply.Apart.split {shape : PlaceholderShape} {first second : Nat} {supply : Supply}
    (apart : Apart shape (first + second) supply) :
    Apart shape first supply ∧ Apart shape second (tokens shape first supply).2 := by
  rw [Apart, tokens_add] at apart
  exact ⟨(List.nodup_append.mp apart).1, (List.nodup_append.mp apart).2.1⟩

theorem CacheState.Builds.apart {lists recorded drawn count : Nat} {before after : CacheState}
    (builds : Builds lists recorded drawn before after)
    (apart : Supply.Apart before.shape (drawn + count) before.supply) :
    Supply.Apart after.shape count after.supply := by
  rw [builds.shape, builds.supply]
  exact apart.split.2

namespace Ensemble

/-- Nothing is due, the log can be written, and the helpers are registered. -/
structure Hosted (ensemble : Ensemble) (world : World) : Prop where
  reserves : world.Reserves ∅
  ready : world.state.ready = []
  writes : ∀ event, world.state.Writes event
  standard : world.state.shape.IsStandard
  fits : ensemble.Fits world.state.registry

variable {ensemble : Ensemble} {world : World} {state : CacheState} {lists recorded drawn : Nat}

theorem Hosted.move (hosted : ensemble.Hosted world)
    (builds : Builds lists recorded drawn world.state state) (ready : state.ready = []) :
    ensemble.Hosted (world.withState state) where
  reserves := hosted.reserves.alter builds.promises.length_le (List.nil_sublist _) ready (by simp)
  ready := ready
  writes := fun event settings logs => hosted.writes event settings (builds.log ▸ logs)
  standard := by
    rw [World.withState, builds.shape]
    exact hosted.standard
  fits := by
    rw [World.withState, builds.registry]
    exact hosted.fits

end Ensemble

/-! ### What takes the place of tokens -/

/-- Results of tokens make no difference to a text in which nothing has the form of a token. -/
theorem Results.applyTo_free {results : Results} {text : String}
    (tokens : ∀ pair ∈ results, IsToken pair.1) (free : FreeOfTokens text) :
    results.applyTo text = text := by
  induction results with
  | nil => rfl
  | cons pair rest inductionHypothesis =>
      have absent := free pair.1 (tokens pair List.mem_cons_self)
      rw [applyTo_cons, replaceText_absent pair.2 absent]
      exact inductionHypothesis fun other member => tokens other (List.mem_cons_of_mem pair member)

theorem Arguments.substitute_free {results : Results} {arguments : Arguments}
    (tokens : ∀ pair ∈ results, IsToken pair.1)
    (free : ∀ content ∈ arguments.contents, FreeOfTokens content) :
    arguments.substitute results = arguments := by
  have same : arguments.substitute results = arguments.substitute [] :=
    substitute_congr fun content member => results.applyTo_free tokens (free content member)
  rw [same, substitute_nil]

namespace Ensemble

/-- The text that takes the place of the token of a call. -/
def replacement
    (ensemble : Ensemble)
    (call : Invocation) : String :=
  ensemble.written ensemble.text call.passage

def solved
    (ensemble : Ensemble)
    (calls : List Invocation) : Results :=
  calls.map fun call => (call.token, ensemble.replacement call)

/-- How many tokens are drawn while a call is run. -/
def price
    (ensemble : Ensemble)
    (call : Invocation) : Nat :=
  ensemble.inside ensemble.calls call.name

variable {ensemble : Ensemble} {call : Invocation} {calls : List Invocation}
  {passages : List Passage} {text : String}

theorem isPlain_replacement (call : Invocation) : IsPlain (ensemble.replacement call) :=
  isPlain_call fun _ isNesting => isPlain_text isNesting

theorem tokens_solved (calls : List Invocation) :
    (ensemble.solved calls).map Prod.fst = calls.map Invocation.token := by
  rw [solved, List.map_map]
  rfl

theorem clean_solved (tokens : ∀ call ∈ calls, IsToken call.token)
    (distinct : (calls.map Invocation.token).Nodup) : (ensemble.solved calls).Clean where
  distinct := by
    rw [tokens_solved]
    exact distinct
  tokens := fun pair member => by
    obtain ⟨call, isCall, rfl⟩ := List.mem_map.mp member
    exact tokens call isCall
  plain := fun pair member => by
    obtain ⟨call, isCall, rfl⟩ := List.mem_map.mp member
    exact ensemble.isPlain_replacement call

/-- A recorded call is a passage that is run later. -/
theorem Carries.deferred (carries : ensemble.Carries passages calls text) (member : call ∈ calls) :
    call.passage ∈ passages ∧ ensemble.isDeferred call.passage = true := by
  have recorded : call.passage ∈ passages.filter ensemble.isDeferred :=
    carries.recorded ▸ List.mem_map_of_mem member
  exact List.mem_filter.mp recorded

/-- The tokens that a template draws are those of its own calls and those that these draw. -/
theorem Carries.tally (carries : ensemble.Carries passages calls text) :
    ensemble.tally ensemble.calls passages =
      calls.length + (calls.map ensemble.price).sum := by
  have priced : ∀ call ∈ calls, ensemble.cost ensemble.calls call.passage =
      1 + ensemble.price call := by
    intro call member
    have isDeferred := (carries.deferred member).2
    rw [Invocation.passage] at isDeferred ⊢
    rw [cost, if_pos isDeferred]
    rfl
  rw [← tally_filter, ← carries.recorded, Ensemble.tally, List.map_map]
  clear carries
  induction calls with
  | nil => rfl
  | cons call rest inductionHypothesis =>
      have others := inductionHypothesis fun other member =>
        priced other (List.mem_cons_of_mem call member)
      rw [List.map_cons, List.sum_cons, others, Function.comp_apply, priced call List.mem_cons_self,
        List.length_cons, List.map_cons, List.sum_cons]
      omega

/-- The text of a template, when all its tokens are replaced. -/
theorem Carries.spliced (carries : ensemble.Carries passages calls text)
    (distinct : (calls.map Invocation.token).Nodup) :
    (ensemble.solved calls).applyTo text = ensemble.splice ensemble.text passages :=
  carries.splices ensemble.text _ (clean_solved carries.tokens distinct) fun _ member =>
    List.mem_map_of_mem member

end Ensemble

/-! ### Turns -/

namespace Cache

/-- Wherever the ensemble is hosted, the call is answered with the text that takes its place. -/
def Answers
    (ensemble : Ensemble)
    (limits : Limits)
    (current : Option Nat)
    (depth : Nat)
    (call : Invocation) : Prop :=
  ∀ world index number, ensemble.Hosted world → world.state.invocations[number]? = some call →
    Supply.Apart world.state.shape (ensemble.price call) world.state.supply →
    World.Brings limits world (invoker limits current index (nested limits current depth) number)
      (.text (ensemble.replacement call)) (ensemble.price call)

end Cache

section Turns

variable {ensemble : Ensemble} {limits : Limits} {current : Option Nat} {depth index number : Nat}
  {world : World} {call : Invocation} {calls later : List Invocation} {passages : List Passage}
  {text : String} {progress : Progress}

theorem CacheState.queue_of_same {before after : CacheState}
    (same : after.waitlists[index]? = before.waitlists[index]?) :
    after.queue index = before.queue index := by
  rw [queue, queue, waitlist, waitlist, List.getD_eq_getElem?_getD, List.getD_eq_getElem?_getD, same]

/-- The oldest call is run, and its text is put in place of its token. The other calls wait on. -/
theorem Cache.Answers.turn (answers : Answers ensemble limits current depth call)
    (hosted : ensemble.Hosted world) (awaits : Awaits index number (call :: later) world.state)
    (needed : Drain.isNeeded progress.text call.token later = true)
    (tokens : ∀ pair ∈ progress.results, IsToken pair.1)
    (free : ∀ content ∈ call.arguments.contents, FreeOfTokens content)
    (apart : Supply.Apart world.state.shape (ensemble.price call) world.state.supply) :
    ∃ turn last, turn.after = world.withState last ∧ Drain.Takes index world turn ∧
      Drain.Serves (startRender limits) (invoker limits current index (nested limits current depth))
        index progress turn (.ok (progress.complete call.token (ensemble.replacement call))) ∧
      last.ready = [] ∧ Builds index number (ensemble.price call) world.state last ∧
      Awaits index (number + 1) later last := by
  obtain ⟨queue, awaitsLater⟩ := awaits.taken
  obtain ⟨lines, calls⟩ := awaits.asks needed
  let behind := List.range' (number + 1) later.length
  let asked := world.withState (world.state.asking index number behind progress.results lines)
  have toAsked : Builds index number 0 world.state asked.state :=
    builds_asking world.state behind progress.results lines
  have isQueued : number ∈ world.state.queue index := queue ▸ List.mem_cons_self
  have inside : index < asked.state.waitlists.length :=
    (lt_of_mem_queue isQueued).trans_le toAsked.opens
  have found : asked.state.invocations[number]? = some call := by
    rw [show asked.state.invocations[number]? = _ from found_asking (awaits.found 0 call rfl),
      Arguments.substitute_free tokens free]
  have known : number < asked.state.invocations.length := (List.getElem?_eq_some_iff.mp found).1
  have hostedAsked : ensemble.Hosted asked := hosted.move toAsked awaits.ready
  obtain ⟨answered, runs, ready, builds⟩ := answers asked index number hostedAsked found apart
  obtain ⟨more, serves⟩ := calls.returns runs rfl (hostedAsked.move builds ready).writes
  let last := (answered.withStatus number .completed).withLines more
  have marks : Builds index number 0 answered last :=
    (builds_withInvocation answered _).trans (builds_withLines _ more)
  have toLast : Builds index number (ensemble.price call) world.state last := by
    have run := builds.mono (Nat.le_of_lt inside) (Nat.le_of_lt known)
    have whole := (toAsked.trans run).trans marks
    rwa [Nat.zero_add, Nat.add_zero] at whole
  have idle : last.ready = [] := ready
  refine ⟨_, last, rfl, ⟨_, queue, rfl⟩, serves, idle, toLast, ?_⟩
  apply awaitsLater.of_kept _ _ idle toLast.log
  · exact (queue_of_same (builds.waitlists index inside)).trans (queue_asking index)
  · intro other above below
    have distinct : number ≠ other := Nat.ne_of_lt above
    have keeps : last.invocations[other]? = answered.invocations[other]? :=
      List.getElem?_modify_ne _ _ distinct
    rw [keeps, builds.invocations other (below.trans_le toAsked.records)]
    exact List.getElem?_modify_ne _ _ distinct

/-- No earlier call has the token of a later one. -/
theorem Ensemble.unsolved (distinct : (calls.map Invocation.token).Nodup)
    {earlier : List Invocation} (split : calls = earlier ++ call :: later) :
    call.token ∉ (ensemble.solved earlier).map Prod.fst := by
  rw [tokens_solved]
  exact Invocation.token_notMem distinct split

/-- A recorded call is needed as long as it was not run. -/
theorem Ensemble.Carries.needed (carries : ensemble.Carries passages calls text)
    (distinct : (calls.map Invocation.token).Nodup) {earlier : List Invocation}
    (split : calls = earlier ++ call :: later) :
    Drain.isNeeded ((ensemble.solved earlier).applyTo text) call.token later = true := by
  have isCall : call ∈ calls := split ▸ List.mem_append_right earlier List.mem_cons_self
  have fewer : (earlier.map Invocation.token).Sublist (calls.map Invocation.token) := by
    rw [split, List.map_append]
    exact List.sublist_append_left _ _
  have clean : (ensemble.solved earlier).Clean :=
    clean_solved (fun other member => carries.tokens other (split ▸ List.mem_append_left _ member))
      (distinct.sublist fewer)
  rw [Drain.isNeeded, Bool.or_eq_true]
  exact .inl (clean.containsText_applyTo carries.written (carries.tokens call isCall)
    (unsolved distinct split) (carries.occurs call isCall))

/-- All calls of a template are run, and their texts are put in place of their tokens. -/
theorem Ensemble.Carries.course (carries : ensemble.Carries passages calls text)
    (distinct : (calls.map Invocation.token).Nodup)
    (answers : ∀ call ∈ calls, Cache.Answers ensemble limits current depth call)
    (free : ∀ call ∈ calls, ∀ content ∈ call.arguments.contents, FreeOfTokens content)
    (earlier : List Invocation) (split : calls = earlier ++ later)
    (hosted : ensemble.Hosted world) (awaits : Awaits index number later world.state)
    (apart : Supply.Apart world.state.shape (later.map ensemble.price).sum world.state.supply)
    (stands : progress.Stands text (ensemble.solved earlier)) :
    ∃ turns final last, turns.length = later.length ∧
      Drain.Course (Cache.startRender limits)
        (Cache.invoker limits current index (Cache.nested limits current depth)) index world
        progress turns (.ok final) (world.withState last) ∧
      final.text = (ensemble.solved calls).applyTo text ∧ last.ready = [] ∧
      Builds index number (later.map ensemble.price).sum world.state last := by
  induction later generalizing earlier world progress number with
  | nil =>
      refine ⟨[], progress, world.state, rfl, .finished awaits.queue, ?_, awaits.ready,
        builds_refl world.state⟩
      rw [stands.text, split, List.append_nil]
  | cons call rest inductionHypothesis =>
      have isCall : call ∈ calls := split ▸ List.mem_append_right earlier List.mem_cons_self
      have needed := carries.needed distinct split
      rw [← stands.text] at needed
      rw [List.map_cons, List.sum_cons] at apart ⊢
      have tokens : ∀ pair ∈ progress.results, IsToken pair.1 := by
        rw [stands.results]
        intro pair member
        obtain ⟨other, isEarlier, rfl⟩ := List.mem_map.mp member
        exact carries.tokens other (split ▸ List.mem_append_left _ isEarlier)
      obtain ⟨turn, last, ends, takes, serves, ready, builds, awaitsRest⟩ :=
        (answers call isCall).turn hosted awaits needed tokens (free call isCall) apart.split.1
      have standsNext : (progress.complete call.token (ensemble.replacement call)).Stands text
          (ensemble.solved (earlier ++ [call])) := by
        rw [show ensemble.solved (earlier ++ [call]) =
          ensemble.solved earlier ++ [(call.token, ensemble.replacement call)] from List.map_append]
        exact stands.complete (unsolved distinct split)
      obtain ⟨turns, final, closed, length, continues, shows, readyThen, further⟩ :=
        inductionHypothesis (earlier ++ [call]) (by rw [split, List.append_assoc]; rfl)
          (hosted.move builds ready) awaitsRest (builds.apart apart) standsNext
      have goesOn : Drain.Course (Cache.startRender limits)
          (Cache.invoker limits current index (Cache.nested limits current depth)) index turn.after
          (progress.complete call.token (ensemble.replacement call)) turns (.ok final)
          (world.withState closed) := by
        rw [ends]
        exact continues
      exact ⟨turn :: turns, final, closed, congrArg (· + 1) length, .further takes serves goesOn,
        shows, readyThen, builds.trans (further.mono (Nat.le_refl _) (Nat.le_succ _))⟩

end Turns

/-! ### One rendering -/

/-- What was recorded in a waitlist that was just opened waits there. -/
theorem CacheState.Gathers.awaits {calls : List Invocation} {before after : CacheState}
    (gathers : Gathers before.waitlists.length calls before.opened after)
    (ready : before.ready = []) (writes : ∀ event, before.Writes event) :
    Awaits before.waitlists.length before.invocations.length calls after where
  queue := by
    rw [gathers.queue, queue_opened, queue_eq_nil (Nat.le_refl _)]
    rfl
  found := fun offset call at_ => by
    have older : before.opened.invocations = before.invocations := rfl
    rw [gathers.invocations, older, List.getElem?_append_right (Nat.le_add_right _ _),
      Nat.add_sub_cancel_left]
    exact at_
  ready := gathers.ready.trans ready
  writes := fun event settings logs => writes event settings (gathers.log ▸ logs)

section Renderings

variable {ensemble : Ensemble} {limits : Limits} {current : Option Nat} {depth index number : Nat}
  {world : World} {name : String} {inner : Partial}

/-- The evaluation of a template records its calls in a waitlist of their own. -/
theorem Ensemble.Hosted.evaluates (hosted : ensemble.Hosted world)
    (isNesting : ensemble.duty name = some (.nesting inner))
    (apart : Supply.Apart world.state.shape (ensemble.calls name) world.state.supply) :
    ∃ rendered calls passed,
      Cache.renderPass limits world.state.waitlists.length (.text inner.template) inner.data
        world.state.opened = (.ok rendered, passed) ∧
      ensemble.Carries inner.passages calls rendered.text ∧
      (calls.map Invocation.token).Nodup ∧
      ensemble.calls name = calls.length + (calls.map ensemble.price).sum ∧
      Awaits world.state.waitlists.length world.state.invocations.length calls passed ∧
      Builds world.state.waitlists.length world.state.invocations.length calls.length world.state
        passed := by
  have inside : world.state.waitlists.length < world.state.opened.waitlists.length := by
    simp [opened]
  obtain ⟨rendered, calls, passed, passes, gathers, carries⟩ :=
    @Ensemble.carries_segments ensemble inner.passages limits world.state.waitlists.length
      world.state.registry (templateData inner.data) (Cache.engine world.state.opened) _ hosted.fits
      (ensemble.made name inner isNesting) (ensemble.known name inner isNesting) world.state.opened
      hosted.standard inside
  have price : ensemble.calls name = calls.length + (calls.map ensemble.price).sum := by
    rw [calls_eq isNesting, carries.tally]
  have tokens : calls.map Invocation.token =
      (Supply.tokens world.state.shape calls.length world.state.supply).1 :=
    congrArg Prod.fst gathers.drawn
  rw [price] at apart
  refine ⟨rendered, calls, passed, passes, carries, ?_, price,
    gathers.awaits hosted.ready hosted.writes, gathers.builds rfl⟩
  rw [tokens]
  exact apart.split.1

/-- A template is rendered to the text that it comes to, if its calls are answered. -/
theorem Ensemble.Hosted.renders (hosted : ensemble.Hosted world)
    (isNesting : ensemble.duty name = some (.nesting inner))
    (answers : ∀ call : Invocation, call.passage ∈ inner.passages →
      (ensemble.duty call.name).bind Duty.target? = some call.target →
        Cache.Answers ensemble limits current depth call)
    (enough : ensemble.calls name < limits.steps)
    (apart : Supply.Apart world.state.shape (ensemble.calls name) world.state.supply) :
    World.Brings limits world
      (Cache.renderWithin limits current (depth + 1) none (.text inner.template) inner.data)
      (some (ensemble.text name)) (ensemble.calls name) := by
  let own := world.state.waitlists.length
  let first := world.state.invocations.length
  obtain ⟨rendered, calls, passed, passes, carries, distinct, price, awaits, builds⟩ :=
    @hosted.evaluates _ limits _ _ _ isNesting apart
  rw [price] at enough apart ⊢
  have free : ∀ call ∈ calls, ∀ content ∈ call.arguments.contents, FreeOfTokens content := by
    intro call member
    obtain ⟨segment, -, reads⟩ :=
      mem_left_of_forall₂ (ensemble.made name inner isNesting) (carries.deferred member).1
    exact reads.free
  have answersAll : ∀ call ∈ calls, Cache.Answers ensemble limits current depth call :=
    fun call member => answers call (carries.deferred member).1 (carries.targets call member)
  -- The two lines in front of the first turn.
  obtain ⟨lines, tells⟩ := World.tells_writes (world.withState passed)
    (awaits.writes (.renderCompleted (.text (passed.cycleId own))
      (.int rendered.expressions.length) (.int (passed.waitlist own).pending.length)))
  let told := passed.withLines lines
  obtain ⟨more, begins⟩ := World.tells_writes (world.withState told)
    (show told.Writes (.started (.text (told.cycleId own)) (.int (told.queue own).length))
      from awaits.writes _)
  let begun := told.withLines more
  have toBegun : Builds own first calls.length world.state begun :=
    (builds.trans (builds_withLines passed lines)).trans (builds_withLines told more)
  have waits : Awaits own first calls begun :=
    awaits.of_kept rfl (fun _ _ _ => rfl) awaits.ready rfl
  have hostedThen : ensemble.Hosted (world.withState begun) := hosted.move toBegun waits.ready
  obtain ⟨turns, final, closed, length, course, shows, ready, further⟩ :=
    @Ensemble.Carries.course ensemble limits current depth own first (world.withState begun) calls
      calls inner.passages rendered.text (.start rendered.text) carries distinct answersAll free []
      rfl hostedThen waits (toBegun.apart apart) (Progress.stands_start rendered.text)
  -- The line behind the last turn.
  have whole : Builds own first (calls.length + (calls.map ensemble.price).sum) world.state closed :=
    toBegun.trans further
  obtain ⟨last, ends⟩ := World.tells_writes (world.withState closed)
    ((hosted.move whole ready).writes (.finished (.text (told.cycleId own))
      (.int final.resolved) (.int final.skipped)
      (.int (CacheState.elapsed told.clock closed.clock))))
  have comes : final.text = ensemble.text name := by
    rw [shows, carries.spliced distinct, text_eq isNesting]
  have few : turns.length < limits.steps := by omega
  refine ⟨closed.withLines last, ?_, ready, whole.trans (builds_withLines closed last)⟩
  rw [← comes]
  exact Cache.renderWithin_runs passes tells (.finished begins course ends) few

end Renderings

/-! ### Answers -/

namespace Cache

variable {ensemble : Ensemble} {limits : Limits} {current : Option Nat} {depth : Nat}
  {call : Invocation} {inner : Partial}

/-- Wherever the ensemble is hosted, the rendering of a template comes to its text. -/
def Yields
    (ensemble : Ensemble)
    (limits : Limits)
    (current : Option Nat)
    (depth : Nat)
    (name : String)
    (inner : Partial) : Prop :=
  ∀ world, ensemble.Hosted world →
    Supply.Apart world.state.shape (ensemble.calls name) world.state.supply →
    World.Brings limits world
      (renderWithin limits current depth none (.text inner.template) inner.data)
      (some (ensemble.text name)) (ensemble.calls name)

section Partials

variable (isNesting : ensemble.duty call.name = some (.nesting inner))
  (target : call.target = inner.target)

include isNesting

include target

end Partials

end Cache

/-! ### Sessions -/

namespace Session

variable {session : Session} {template data : Value} {text : String} {drawn : Nat}

/-- A rendering returns a text. Calls are recorded in the same waitlist as before, and that one,
the default one and those of all open cycles are as they were. -/
structure Renders
    (session : Session)
    (template data : Value)
    (text : String)
    (after : World) : Prop where
  returns : ∃ fuel, ∀ more, fuel ≤ more →
    session.world.run (Cache.startRender session.limits) more
      (Cache.render session.limits session.current none template data) = (.ok (some text), after)
  recording : Session.recording { session with world := after } = session.recording
  fallback : after.state.defaultWaitlist = session.state.defaultWaitlist
  waitlists : ∀ index ∈ session.recording :: session.state.defaultWaitlist :: session.cycles,
    after.state.waitlists[index]? = session.state.waitlists[index]?

end Session

namespace Sample

/-- A rendering that is started. -/
def body : Partial where
  label := "body"
  shape := .function
  waits := false
  template := "<\x7b\x7bfoot()\x7d\x7d>"
  data := .none
  passages := [.letter '<', .call "foot" (.passing [] []), .letter '>']

/-- A coroutine that has a template without calls rendered. -/
def greetings : Registry :=
  let greeting : Callable := .helper ⟨"p", .function, .coroutine fun _ =>
    .render (.text "hi") .none fun outcome => .ofOutcome outcome .finish⟩
  .ofEntries [⟨"p", .deferred "p" greeting, true, some greeting⟩]

/-- What a rendering returns in a cache with the helper. -/
def composed
    (log : Option LogSettings)
    (template : String) : Option String :=
  let world := World.ofState (unused .standard false false log greetings)
  match (world.run (Cache.startRender ⟨3, 10⟩) 10
    (Cache.render ⟨3, 10⟩ none none (.text template) .none)).1 with
  | .ok text => text
  | .error _ => none

end Sample

end DeferredText
