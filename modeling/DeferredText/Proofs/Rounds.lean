import DeferredText.Proofs.Finished
import DeferredText.Proofs.Growth

/-!
Contract: calls recorded during a drain are resolved too, and leave no token.

The queue holds two rounds: the older calls, which were queued when the round began, and the
younger ones, which the calls of this round have recorded. What an older call is handed may
hold tokens of younger calls and of older calls before it, and what a younger call is handed
may hold tokens of younger calls before it. So whenever a call is skipped, no call that is
left can bring its token back.

Owns: replacing a token by a written text, the arrangement of the two rounds, and the text of
a resolution whose waitlist grows.

Does not own: which calls are recorded in a turn (`Proofs.Growth`).
-/

namespace DeferredText

open CacheState Fragment

/-! ### Replacing a token by a written text -/

namespace Fragment

variable {token other : String} {fragments parts : List Fragment}

/-- The fragments that stand in the place of one when a token is replaced. -/
def spliced
    (token : String)
    (parts : List Fragment) : Fragment → List Fragment
  | .literal content => [.literal content]
  | .placeholder other => if other = token then parts else [.placeholder other]

theorem mem_spliced :
    .placeholder other ∈ fragments.flatMap (spliced token parts) ↔
      (other ≠ token ∧ .placeholder other ∈ fragments) ∨
        (.placeholder token ∈ fragments ∧ .placeholder other ∈ parts) := by
  rw [List.mem_flatMap]
  constructor
  · rintro ⟨fragment, member, inside⟩
    cases fragment with
    | literal content => cases List.mem_singleton.mp inside
    | placeholder found =>
        rw [spliced] at inside
        split at inside
        · rename_i same
          exact .inr ⟨same ▸ member, inside⟩
        · rename_i different
          cases List.mem_singleton.mp inside
          exact .inl ⟨different, member⟩
  · rintro (⟨different, member⟩ | ⟨member, inside⟩)
    · exact ⟨.placeholder other, member, by simp [spliced, different]⟩
    · exact ⟨.placeholder token, member, by simpa [spliced] using inside⟩

theorem arePlain_spliced (plain : ArePlain fragments) (plainParts : ArePlain parts) :
    ArePlain (fragments.flatMap (spliced token parts)) := by
  constructor
  · intro content member
    obtain ⟨fragment, inside, spliced_⟩ := List.mem_flatMap.mp member
    cases fragment with
    | literal found =>
        cases List.mem_singleton.mp spliced_
        exact plain.1 content inside
    | placeholder found =>
        rw [spliced] at spliced_
        split at spliced_
        · exact plainParts.1 content spliced_
        · cases List.mem_singleton.mp spliced_
  · intro found member
    rcases mem_spliced.mp member with ⟨-, inside⟩ | ⟨-, inside⟩
    · exact plain.2 found inside
    · exact plainParts.2 found inside

theorem replaceText_spliced (plain : ArePlain fragments) (isToken : IsToken token) :
    replaceText token (join id parts) (join id fragments) =
      join id (fragments.flatMap (spliced token parts)) := by
  have replaced := replaceText_join (join id parts) (plain.onlyAsFragment settles_id isToken)
    isToken.nonempty rfl
  rw [replaced]
  clear replaced plain
  induction fragments with
  | nil => rfl
  | cons fragment rest inductionHypothesis =>
      rw [join_cons, List.flatMap_cons, join_append, inductionHypothesis]
      congr 1
      cases fragment with
      | literal content => exact String.append_empty.symm
      | placeholder found =>
          rw [spliced, written]
          split
          · rename_i same
            rw [same, Function.update_self]
          · rename_i different
            rw [Function.update_of_ne different]
            exact String.append_empty.symm

end Fragment

section Written

variable {token other text answer : String} {tokens others more : List String} {results : Results}

theorem Written.replaceText (written : Written tokens text) (result : Written others answer)
    (isToken : IsToken token) (old : ∀ kept ∈ tokens, kept ≠ token → kept ∈ more)
    (new : ∀ kept ∈ others, kept ∈ more) :
    Written more (DeferredText.replaceText token answer text) := by
  obtain ⟨fragments, plain, known, rfl⟩ := written
  obtain ⟨parts, plainParts, knownParts, rfl⟩ := result
  refine ⟨_, arePlain_spliced plain plainParts, ?_, (replaceText_spliced plain isToken).symm⟩
  intro found member
  rcases mem_spliced.mp member with ⟨different, inside⟩ | ⟨-, inside⟩
  · exact old found (known found inside) different
  · exact new found (knownParts found inside)

/-- A token in a text that was replaced into stood there before, or is in the answer. -/
theorem containsText_replaceText (written : Written tokens text) (result : Written others answer)
    (isToken : IsToken token) (isOther : IsToken other)
    (found : containsText other (replaceText token answer text) = true) :
    containsText other text = true ∨ containsText other answer = true := by
  obtain ⟨fragments, plain, -, rfl⟩ := written
  obtain ⟨parts, plainParts, -, rfl⟩ := result
  rw [replaceText_spliced plain isToken,
    containsText_written (arePlain_spliced plain plainParts) isOther, mem_spliced] at found
  rw [containsText_written plain isOther, containsText_written plainParts isOther]
  exact found.imp And.right And.right

theorem Written.absent (written : Written tokens text) (isToken : IsToken token)
    (unknown : token ∉ tokens) : containsText token text = false := by
  obtain ⟨fragments, plain, known, rfl⟩ := written
  rw [← Bool.not_eq_true, containsText_written plain isToken]
  exact fun member => unknown (known token member)

/-- Results of tokens that are not in a text change nothing. -/
theorem Written.applyTo (written : Written tokens text)
    (unset : ∀ pair ∈ results, IsToken pair.1 ∧ pair.1 ∉ tokens) : results.applyTo text = text := by
  induction results with
  | nil => rfl
  | cons pair rest inductionHypothesis =>
      obtain ⟨isToken, unknown⟩ := unset pair List.mem_cons_self
      rw [Results.applyTo_cons, replaceText_absent pair.2 (written.absent isToken unknown)]
      exact inductionHypothesis fun other member => unset other (List.mem_cons_of_mem pair member)

end Written

/-! ### Two rounds in a queue -/

/-- The text is put together from plain parts and tokens of the queued calls, and their
arguments from plain parts and tokens of earlier ones. -/
structure Woven
    (text : String)
    (queued : List Invocation) : Prop where
  text : Written (queued.map Invocation.token) text
  arguments : ∀ earlier call later, queued = earlier ++ call :: later →
    ∀ content ∈ call.arguments.contents, Written (earlier.map Invocation.token) content

/-- The tokens that are left, in the text and in the arguments as they would be handed over,
when the older calls of the queue come before the younger ones. -/
structure Arranged
    (progress : Progress)
    (older younger : List Invocation) : Prop where
  tokens : ∀ call ∈ older ++ younger, IsToken call.token
  keys : ∀ pair ∈ progress.results, IsToken pair.1
  text : Written ((older ++ younger).map Invocation.token) progress.text
  /-- A token that a call is handed is of a call that comes before it, the younger first. -/
  arguments : ∀ earlier call later, younger ++ older = earlier ++ call :: later →
    ∀ content ∈ call.arguments.contents,
      Written (earlier.map Invocation.token) (progress.results.applyTo content)
  /-- A token that a call is handed and that is taken sooner was there from the beginning. -/
  visible : ∀ front call back, older ++ younger = front ++ call :: back →
    ∀ sooner ∈ front, ∀ content ∈ call.arguments.contents,
      containsText sooner.token (progress.results.applyTo content) = true →
        containsText sooner.token content = true

section Arranged

variable {progress : Progress} {older younger added : List Invocation} {call : Invocation}
  {registry : Registry} {answer text : String}

theorem Woven.arranged (woven : Woven text older) (tokens : ∀ call ∈ older, IsToken call.token) :
    Arranged (.start text) older [] where
  tokens := by simpa using tokens
  keys := fun _ member => absurd member List.not_mem_nil
  text := by
    rw [List.append_nil]
    exact woven.text
  arguments := woven.arguments
  visible := fun _ _ _ _ _ _ _ _ found => found

/-- When no older call is left, the next round begins. -/
theorem Arranged.rotate (arranged : Arranged progress [] younger) :
    Arranged progress younger [] where
  tokens := by simpa using arranged.tokens
  keys := arranged.keys
  text := by simpa using arranged.text
  arguments := by simpa using arranged.arguments
  visible := by simpa using arranged.visible

/-- The oldest call is one of the older ones, in this round or in the next one. -/
theorem Arranged.front {rest : List Invocation} (arranged : Arranged progress older younger)
    (queue : older ++ younger = call :: rest) :
    ∃ others recent, Arranged progress (call :: others) recent ∧ rest = others ++ recent := by
  cases older with
  | nil =>
      rw [List.nil_append] at queue
      subst queue
      exact ⟨rest, [], arranged.rotate, (List.append_nil _).symm⟩
  | cons first others =>
      obtain ⟨rfl, rfl⟩ := List.cons.inj queue
      exact ⟨others, younger, arranged, rfl⟩

/-- What the oldest call is handed holds tokens of younger calls only. -/
theorem Arranged.handed (arranged : Arranged progress (call :: older) younger) :
    ∀ content ∈ (Drain.handed progress.results call.arguments).contents,
      Written (younger.map Invocation.token) content := by
  intro content member
  rw [Drain.contents_handed] at member
  obtain ⟨recorded, isRecorded, rfl⟩ := List.mem_map.mp member
  exact arranged.arguments younger call older rfl recorded isRecorded

/-- A call that nobody waits for is left out. -/
theorem Arranged.skip (arranged : Arranged progress (call :: older) younger)
    (unneeded : Drain.isNeeded progress.text call.token (older ++ younger) = false) :
    Arranged progress.skip older younger := by
  have isToken := arranged.tokens call (by simp)
  rw [Drain.isNeeded, Bool.or_eq_false_iff, List.any_eq_false] at unneeded
  obtain ⟨notInText, notPassed⟩ := unneeded
  refine ⟨fun other member => arranged.tokens other (by simp_all), arranged.keys, ?_, ?_, ?_⟩
  · apply arranged.text.restrict
    intro token member _ found
    rw [List.cons_append, List.map_cons, List.mem_cons] at member
    refine member.resolve_left ?_
    rintro rfl
    rw [notInText] at found
    cases found
  · intro earlier other later split content member
    rcases append_split split with ⟨rest, rfl, rfl⟩ | ⟨inner, rfl, rfl⟩
    · exact arranged.arguments earlier other (rest ++ call :: older)
        (by rw [List.append_assoc, List.cons_append]) content member
    · have written := arranged.arguments (younger ++ call :: inner) other later
        (by rw [List.append_assoc, List.cons_append]) content member
      apply written.restrict
      intro token among _ found
      rw [List.map_append, List.map_cons, List.mem_append, List.mem_cons] at among
      rw [List.map_append, List.mem_append]
      refine among.imp_right fun inside => inside.resolve_left ?_
      rintro rfl
      -- The token would be in the arguments as they were recorded, and so it is needed.
      have shown := arranged.visible (call :: inner) other (later ++ younger)
        (by simp) call List.mem_cons_self content member found
      have mentions := other.arguments.mentions_iff.mpr ⟨content, member, shown⟩
      exact notPassed other (by simp) mentions
  · intro front other back split sooner member
    exact arranged.visible (call :: front) other back (by rw [List.cons_append, split]; rfl) sooner
      (List.mem_cons_of_mem call member)

/-! ### A call that was run -/

/-- The tokens that are replaced, those of older calls, and those of the next round differ. -/
structure TokensApart
    (progress : Progress)
    (call : Invocation)
    (older next : List Invocation) : Prop where
  unset : call.token ∉ progress.results.map Prod.fst
  fresh : call.token ∉ older.map Invocation.token ++ next.map Invocation.token
  replaced : ∀ token ∈ progress.results.map Prod.fst, token ∉ next.map Invocation.token
  separate : ∀ other ∈ older, other.token ∉ next.map Invocation.token

theorem tokensApart_of_nodup {next : List Invocation}
    (distinct : (progress.results.map Prod.fst ++ ((call :: older) ++ next).map
      Invocation.token).Nodup) : TokensApart progress call older next := by
  rw [List.cons_append, List.map_cons, List.map_append, List.nodup_append, List.nodup_cons,
    List.nodup_append] at distinct
  obtain ⟨-, ⟨fresh, -, -, separate⟩, apart⟩ := distinct
  refine ⟨fun member => apart _ member _ List.mem_cons_self rfl, fresh, ?_, ?_⟩
  · intro token isKey isNext
    exact apart token isKey token (List.mem_cons_of_mem _ (List.mem_append_right _ isNext)) rfl
  · exact fun other isOlder isNext => separate _ (List.mem_map_of_mem isOlder) _ isNext rfl

section Complete

variable (arranged : Arranged progress (call :: older) younger)
  (relayed : Relayed registry (Drain.handed progress.results call.arguments).contents added)
  (apart : TokensApart progress call older (younger ++ added))

include apart in
theorem TokensApart.results :
    (progress.complete call.token answer).results =
      progress.results ++ [(call.token, answer)] :=
  Results.set_of_notMem apart.unset

include apart in
theorem TokensApart.applyTo (content : String) :
    (progress.complete call.token answer).results.applyTo content =
      replaceText call.token answer (progress.results.applyTo content) := by
  rw [apart.results, Results.applyTo_append]

include arranged apart in
/-- Every result is of a token, which is of no call of the next round. -/
theorem Arranged.keys_complete :
    ∀ pair ∈ (progress.complete call.token answer).results,
      IsToken pair.1 ∧ pair.1 ∉ (younger ++ added).map Invocation.token := by
  intro pair isResult
  rw [apart.results] at isResult
  rcases List.mem_append.mp isResult with old | new
  · exact ⟨arranged.keys pair old, apart.replaced pair.1 (List.mem_map_of_mem old)⟩
  · rw [List.mem_singleton.mp new]
    exact ⟨arranged.tokens call (by simp), fun member =>
      apart.fresh (List.mem_append_right _ member)⟩

include arranged relayed in
/-- What is put together from what the call was handed and from tokens of calls it recorded. -/
theorem Arranged.composed {earlier : List Invocation} {content : String}
    (among : earlier ⊆ added)
    (composed : Composed ((Drain.handed progress.results call.arguments).contents ++
      earlier.map Invocation.token) content) :
    Written ((younger ++ earlier).map Invocation.token) content := by
  apply composed.written
  intro source isSource
  rw [List.map_append]
  rcases List.mem_append.mp isSource with isHanded | isNew
  · exact (arranged.handed source isHanded).mono fun _ => List.mem_append_left _
  · obtain ⟨other, isEarlier, rfl⟩ := List.mem_map.mp isNew
    exact written_token (relayed.tokens other (among isEarlier)) (List.mem_append_right _ isNew)

include arranged relayed in
theorem Arranged.recorded {earlier later : List Invocation} {other : Invocation}
    (split : added = earlier ++ other :: later) :
    ∀ content ∈ other.arguments.contents,
      Written ((younger ++ earlier).map Invocation.token) content := fun content member =>
  arranged.composed relayed (split ▸ List.subset_append_left _ _)
    (relayed.arguments earlier other later split content member)

include arranged apart in
/-- What a younger call is handed does not change. -/
theorem Arranged.kept_younger {earlier later : List Invocation} {other : Invocation}
    (split : younger = earlier ++ other :: later) :
    ∀ content ∈ other.arguments.contents,
      (progress.complete call.token answer).results.applyTo content =
        progress.results.applyTo content := by
  intro content member
  have written := arranged.arguments earlier other (later ++ call :: older) (by simp [split])
    content member
  rw [apart.applyTo]
  apply replaceText_absent
  apply written.absent (arranged.tokens call (by simp))
  intro inside
  apply apart.fresh
  rw [split]
  simp only [List.map_append, List.mem_append]
  exact .inr (.inl (.inl inside))

include arranged relayed apart in
/-- What a new call is handed is what it was recorded with. -/
theorem Arranged.kept_added {earlier later : List Invocation} {other : Invocation}
    (split : added = earlier ++ other :: later) :
    ∀ content ∈ other.arguments.contents,
      (progress.complete call.token answer).results.applyTo content = content := by
  intro content member
  apply (arranged.recorded relayed split content member).applyTo
  intro pair isResult
  obtain ⟨isToken, unknown⟩ := arranged.keys_complete apart pair isResult
  refine ⟨isToken, fun inside => unknown ?_⟩
  rw [split]
  simp only [List.map_append, List.mem_append] at inside ⊢
  exact inside.imp_right .inl

variable (answered : Written ((younger ++ added).map Invocation.token) answer)

include arranged apart answered in
/-- In what an older call is handed, the answer takes the place of the token. -/
theorem Arranged.replaced {earlier later : List Invocation} {other : Invocation}
    (split : older = earlier ++ other :: later) :
    ∀ content ∈ other.arguments.contents,
      Written ((younger ++ added ++ earlier).map Invocation.token)
        ((progress.complete call.token answer).results.applyTo content) := by
  intro content member
  have written := arranged.arguments (younger ++ call :: earlier) other later
    (by rw [split, List.append_assoc, List.cons_append]) content member
  rw [apart.applyTo]
  apply written.replaceText answered (arranged.tokens call (by simp))
  · intro kept among different
    simp only [List.map_cons, List.map_append, List.mem_cons, List.mem_append] at among ⊢
    tauto
  · intro kept among
    rw [List.map_append]
    exact List.mem_append_left _ among

include arranged apart answered in
/-- A token of an older call that another one is handed now was handed to it before. -/
theorem Arranged.still_visible {front later : List Invocation} {other sooner : Invocation}
    (split : older = front ++ other :: later) (member : sooner ∈ front) :
    ∀ content ∈ other.arguments.contents,
      containsText sooner.token
        ((progress.complete call.token answer).results.applyTo content) = true →
        containsText sooner.token content = true := by
  intro content inside found
  have isOlder : sooner ∈ older := split ▸ List.mem_append_left _ member
  have isSooner := arranged.tokens sooner (by simp [isOlder])
  have written := arranged.arguments (younger ++ call :: front) other later
    (by rw [split, List.append_assoc, List.cons_append]) content inside
  rw [apart.applyTo] at found
  rcases containsText_replaceText written answered (arranged.tokens call (by simp)) isSooner found
    with before | inAnswer
  · exact arranged.visible (call :: front) other (later ++ younger) (by rw [split]; simp) sooner
      (List.mem_cons_of_mem call member) content inside before
  · rw [answered.absent isSooner (apart.separate sooner isOlder)] at inAnswer
    cases inAnswer

include arranged relayed apart in
/-- A call that was run is replaced by its answer, and what it recorded becomes the youngest. -/
theorem Arranged.complete
    (composed : Composed ((Drain.handed progress.results call.arguments).contents ++
      added.map Invocation.token) answer) :
    Arranged (progress.complete call.token answer) older (younger ++ added) := by
  have answered := arranged.composed relayed (List.Subset.refl added) composed
  refine ⟨?_, fun pair isResult => (arranged.keys_complete apart pair isResult).1, ?_, ?_, ?_⟩
  · intro other member
    rcases List.mem_append.mp member with isOlder | isNext
    · exact arranged.tokens other (by simp [isOlder])
    · rcases List.mem_append.mp isNext with isYounger | isAdded
      · exact arranged.tokens other (by simp [isYounger])
      · exact relayed.tokens other isAdded
  · apply arranged.text.replaceText answered (arranged.tokens call (by simp))
    · intro kept member different
      simp only [List.cons_append, List.map_cons, List.map_append, List.mem_cons,
        List.mem_append] at member ⊢
      exact (member.resolve_left different).imp_right .inl
    · intro kept member
      rw [List.map_append]
      exact List.mem_append_right _ member
  · intro earlier other later split content member
    rcases append_split split with ⟨rest, within, -⟩ | ⟨inner, rfl, isOlder⟩
    · rcases append_split within with ⟨_, isYounger, -⟩ | ⟨inner, rfl, isAdded⟩
      · rw [arranged.kept_younger apart isYounger content member]
        exact arranged.arguments earlier other _ (by rw [isYounger, List.append_assoc]; rfl) content
          member
      · rw [arranged.kept_added relayed apart isAdded content member]
        exact arranged.recorded relayed isAdded content member
    · exact arranged.replaced apart answered isOlder content member
  · intro front other back split sooner member content inside found
    rcases append_split split with ⟨rest, isOlder, -⟩ | ⟨inner, rfl, within⟩
    · exact arranged.still_visible apart answered isOlder member content inside found
    · rcases append_split within with ⟨rest, isYounger, -⟩ | ⟨between, rfl, isAdded⟩
      · rw [arranged.kept_younger apart isYounger content inside] at found
        exact arranged.visible (call :: older ++ inner) other rest (by rw [isYounger]; simp) sooner
          (List.mem_cons_of_mem call member) content inside found
      · rwa [arranged.kept_added relayed apart isAdded content inside] at found

end Complete

end Arranged

/-! ### The text of a resolution -/

section Resolution

variable {start : Starter} {limits : Limits} {current : Option Nat} {index : Nat}
  {registry : Registry} {world after : World} {progress final : Progress} {turns : List Turn}
  {older younger : List Invocation}

/-- At the end of a course no token is left in the text. -/
theorem Drain.Course.settled
    (course : Course start (Cache.resolver limits current index) index world progress turns
      (.ok final) after)
    (targets : registry.Relays) (relaying : world.Relaying current index registry)
    (arranged : Arranged progress older younger)
    (queued : world.state.queued index = older ++ younger)
    (distinct : ∀ later, after.state.invocations.map Invocation.token =
        world.state.invocations.map Invocation.token ++ later →
      (progress.results.map Prod.fst ++ world.state.tokens index ++ later).Nodup) :
    IsPlain final.text := by
  generalize ends : Except.ok final = outcome at course
  induction course generalizing older younger with
  | @finished world progress empty =>
      cases ends
      have none : older ++ younger = [] := by
        rw [← queued, CacheState.queued]
        rw [CacheState.queue] at empty
        rw [empty]
        rfl
      have written := arranged.text
      rw [none] at written
      exact written.isPlain fun token member => absurd member List.not_mem_nil
  | @further world after progress next turn turns outcome takes serves continues
      inductionHypothesis =>
      subst ends
      obtain ⟨relayingAfter, added, grows⟩ := relaying.step targets takes serves
      obtain ⟨before, -, same, taken⟩ := relaying.take takes
      obtain ⟨later, tokens, -⟩ := continues.order targets relayingAfter
      have oldest := takes.queued serves.found
      have recorded := grows.appends.queued before.exist taken
      obtain ⟨others, recent, front, rest⟩ := arranged.front (queued.symm.trans oldest)
      rw [rest] at recorded
      have generated : turn.after.state.invocations.map Invocation.token =
          world.state.invocations.map Invocation.token ++ added.map Invocation.token := by
        rw [grows.appends.tokens, same]
      have unique := distinct (added.map Invocation.token ++ later) (by
        rw [tokens, generated, List.append_assoc])
      rw [CacheState.tokens, oldest, rest] at unique
      have left : ∀ further, after.state.invocations.map Invocation.token =
          turn.after.state.invocations.map Invocation.token ++ further → further = later :=
        fun further split => List.append_cancel_left (split.symm.trans tokens)
      cases serves with
      | @skipped number invocation _ told found unneeded tells =>
          obtain rfl := grows.idle rfl
          rw [List.append_nil] at recorded
          have unneeded : Drain.isNeeded progress.text invocation.token (others ++ recent) = false :=
            rest ▸ unneeded
          refine inductionHypothesis relayingAfter (front.skip unneeded) recorded ?_ rfl
          intro further split
          rw [left further split, CacheState.tokens, recorded]
          refine unique.sublist ?_
          exact (List.Sublist.append (List.Sublist.append (List.Sublist.refl _)
            (List.sublist_cons_self _ _)) (List.Sublist.refl _))
      | @returned number invocation _ asked answered told value text calls runs readable tells =>
          have apart : TokensApart progress invocation others (recent ++ added) :=
            tokensApart_of_nodup (unique.sublist (by
              simp only [List.map_append, List.map_cons, List.append_assoc, List.cons_append]
              simp))
          refine inductionHypothesis relayingAfter
            (front.complete grows.relayed apart (grows.answer value text rfl))
            (recorded.trans (List.append_assoc _ _ _)) ?_ rfl
          intro further split
          rw [left further split, CacheState.tokens, recorded, apart.results]
          simpa using unique
  | failed => cases ends

/-- Whenever resolving a text in the waitlist of the current cycle returns, with helpers that
relay what they receive, every call that was queued and every call that was recorded meanwhile
was taken, in the order in which they were recorded and each once; the waitlist is empty, and
no token is in the returned text. -/
theorem resolve_growing {given : Option Nat} {fuel : Nat} {text result : String}
    (relaying : world.Relaying current index registry) (targets : registry.Relays)
    (drains : given = some index ∨ given = none ∧ current = some index)
    (woven : Woven text (world.state.queued index))
    (runs : world.run (Cache.startRender limits) fuel
      (Cache.resolve limits current none given text) = (.ok (some result), after))
    (distinct : (world.state.tokens index ++
      (after.state.invocations.drop world.state.invocations.length).map Invocation.token).Nodup) :
    ∃ turns,
      Drain.Resolution (Cache.startRender limits) (Cache.resolver limits current index) index text
        world turns (.ok result) after ∧
      turns.map Turn.number = world.state.queue index ++
        List.range' world.state.invocations.length
          (after.state.invocations.length - world.state.invocations.length) ∧
      (turns.map Turn.number).Pairwise (· < ·) ∧
      after.state.queue index = [] ∧
      ∀ token, IsToken token → containsText token result = false := by
  have takes : Cache.takeWaitlist given current world.state = (.ok index, world.state) := by
    rcases drains with rfl | ⟨rfl, rfl⟩ <;> rfl
  obtain ⟨turns, returned, same, resolution⟩ :=
    relaying.resolution targets takes (Ends.of_runToEnd fuel runs nofun)
  cases same
  refine ⟨turns, resolution, ?_⟩
  cases resolution with
  | @finished begun middle _ progress begins course ends =>
      have relayingBegun := relaying.tells begins
      obtain ⟨lines, rfl⟩ := begins.eq
      obtain ⟨more, rfl⟩ := ends.eq
      obtain ⟨later, tokens, numbers, empty⟩ := course.order targets relayingBegun
      change middle.state.invocations.map Invocation.token =
        world.state.invocations.map Invocation.token ++ later at tokens
      change turns.map Turn.number = world.state.queue index ++
        List.range' world.state.invocations.length later.length at numbers
      have drawn : (middle.state.invocations.drop world.state.invocations.length).map
          Invocation.token = later := by
        rw [List.map_drop, tokens, List.drop_left' (List.length_map _)]
      have count : middle.state.invocations.length - world.state.invocations.length =
          later.length := by
        rw [← drawn, List.length_map, List.length_drop]
      have isToken : ∀ call ∈ world.state.queued index, IsToken call.token := by
        intro call member
        obtain ⟨number, isQueued, found⟩ := List.mem_filterMap.mp member
        obtain ⟨other, isOther, isToken, -⟩ := relaying.recorded number isQueued
        rw [isOther] at found
        cases found
        exact isToken
      change (world.state.tokens index ++
        (middle.state.invocations.drop world.state.invocations.length).map
          Invocation.token).Nodup at distinct
      have plain := course.settled targets relayingBegun (woven.arranged isToken)
        (List.append_nil _).symm (by
          intro further split
          obtain rfl : further = later := List.append_cancel_left (split.symm.trans tokens)
          rw [drawn] at distinct
          exact distinct)
      refine ⟨numbers.trans (by rw [← count]; rfl), ?_, empty,
        fun token isToken => isToken.notIn_plain plain⟩
      rw [numbers, List.pairwise_append]
      refine ⟨relaying.ordered, List.pairwise_lt_range', ?_⟩
      intro old isOld new isNew
      exact (relaying.exist old isOld).trans_le (List.mem_range'_1.mp isNew).1

end Resolution

/-! ### A helper that calls another one with what it received -/

namespace Sample

/-- A deferred helper without arguments. -/
def naming : Callable :=
  .helper ⟨"f", .function, .coroutine fun _ => .finish (.text "F")⟩

/-- A deferred helper that puts its argument in brackets. -/
def wrapping : Callable :=
  .helper ⟨"s", .function, .coroutine fun arguments =>
    match arguments.positional with
    | [.text content] => .finish (.text ("(" ++ content ++ ")"))
    | _ => .finish .none⟩

/-- A callback helper that calls another one with its argument and returns both. -/
def doubling : Callable :=
  .helper ⟨"r", .function, .callback fun arguments =>
    match arguments.positional with
    | [.text content] =>
        .compute (.call "s" (.ofPositional [.text content]) fun outcome => .ofOutcome outcome .finish)
          fun outcome =>
            match outcome with
            | .ok (.text token) => .complete (.result (.text (content ++ " " ++ token))) .finish
            | _ => .finish
    | _ => .finish⟩

def relays : Registry :=
  .ofEntries [⟨"f", .deferred "f" naming, true, some naming⟩,
    ⟨"s", .deferred "s" wrapping, true, some wrapping⟩,
    ⟨"r", .deferred "r" doubling, true, some doubling⟩]

theorem naming_relays : naming.Relays relays := by
  intro arguments text readable
  cases readable
  exact .fixed (by decide)

theorem wrapping_relays : wrapping.Relays relays := by
  intro arguments
  dsimp only
  split
  · rename_i content positional
    intro text readable
    cases readable
    have received : content ∈ arguments.contents := by
      rw [Arguments.contents, positional]
      exact List.mem_append_left _ List.mem_cons_self
    exact .append (.append (.fixed (by decide)) (.source received)) (.fixed (by decide))
  · intro text readable
    cases readable
    exact .fixed (by decide)

theorem doubling_relays : doubling.Relays relays := by
  intro arguments
  dsimp only
  split
  · rename_i content positional
    have received : content ∈ arguments.contents := by
      rw [Arguments.contents, positional]
      exact List.mem_append_left _ List.mem_cons_self
    refine ⟨⟨"s", wrapping, rfl⟩, ?_, ?_⟩
    · intro passed member
      obtain rfl := List.mem_singleton.mp member
      exact .source received
    · intro token isToken
      refine ⟨?_, trivial⟩
      intro value isResult text readable
      cases isResult
      cases readable
      exact .append (.append (.source (List.mem_append_left _ received)) (.fixed (by decide)))
        (.source (List.mem_append_right _ List.mem_cons_self))
  · trivial

theorem relays_relay : relays.Relays := by
  apply Registry.relays_of_callables
  intro row member label target deferred
  have rows : relays.callables = [("f", .deferred "f" naming), ("s", .deferred "s" wrapping),
    ("r", .deferred "r" doubling)] := rfl
  simp only [rows, List.mem_cons, List.not_mem_nil, or_false] at member
  rcases member with rfl | rfl | rfl <;> cases deferred
  · exact naming_relays
  · exact wrapping_relays
  · exact doubling_relays

def firstDrawn : String × Supply :=
  Supply.token .standard .initial

def secondDrawn : String × Supply :=
  Supply.token .standard firstDrawn.2

def named : Invocation :=
  { token := firstDrawn.1
    name := "f"
    arguments := .none
    target := naming
    style := .coroutine
    status := .pending }

def doubled : Invocation :=
  { token := secondDrawn.1
    name := "r"
    arguments := .ofPositional [.text firstDrawn.1]
    target := doubling
    style := .callback
    status := .pending }

/-- A cycle in which `r(f())` was called. -/
def growing : World :=
  .ofState (((unusedWorld relays).state.opened.recordedIn 1 named firstDrawn.2).recordedIn 1 doubled
    secondDrawn.2)

/-- Resolving in the open cycle a text with the token of the call of `r`. -/
def grown : Except Stop (Option String) × World :=
  growing.run (Cache.startRender limits) 9
    (Cache.resolve limits (some 1) none none ("<" ++ secondDrawn.1 ++ ">"))

theorem isToken_first : IsToken firstDrawn.1 :=
  Supply.isToken_token PlaceholderShape.isStandard_standard _

theorem isToken_second : IsToken secondDrawn.1 :=
  Supply.isToken_token PlaceholderShape.isStandard_standard _

theorem growing_relaying : growing.Relaying (some 1) 1 relays := by
  have recorded : ∀ number ∈ growing.state.queue 1, ∃ call,
      growing.state.invocations[number]? = some call ∧ IsToken call.token ∧
        call.target.Relays relays := by
    intro number member
    have queue : growing.state.queue 1 = [0, 1] := rfl
    rw [queue] at member
    simp only [List.mem_cons, List.not_mem_nil, or_false] at member
    rcases member with rfl | rfl
    · exact ⟨named, rfl, isToken_first, naming_relays⟩
    · exact ⟨doubled, rfl, isToken_second, doubling_relays⟩
  have calm : growing.Calm :=
    ⟨fun _ member => absurd member List.not_mem_nil, fun _ member => absurd member List.not_mem_nil⟩
  refine ⟨calm, ⟨rfl, (by decide : 1 < 2), PlaceholderShape.isStandard_standard, rfl⟩,
    recorded, (by decide : [0, 1].Pairwise (· < ·))⟩

theorem growing_woven : Woven ("<" ++ secondDrawn.1 ++ ">") (growing.state.queued 1) := by
  change Woven _ [named, doubled]
  constructor
  · have inside : secondDrawn.1 ∈ [firstDrawn.1, secondDrawn.1] := by simp
    exact ((written_plain _ (by decide)).append (written_token isToken_second inside)).append
      (written_plain _ (by decide))
  · intro earlier call later split content member
    rcases earlier with _ | ⟨first, _ | ⟨second, rest⟩⟩
    · obtain ⟨rfl, -⟩ := List.cons.inj split
      cases member
    · simp only [List.cons_append, List.nil_append, List.cons.injEq] at split
      obtain ⟨rfl, rfl, -⟩ := split
      obtain rfl := List.mem_singleton.mp member
      exact written_token isToken_first List.mem_cons_self
    · simp at split

/-- What is returned, how many calls there are in the end, and that their tokens differ. -/
theorem grown_returns :
    grown.1.toOption = some (some "<F (F)>") ∧ grown.2.state.invocations.length = 3 ∧
      (growing.state.tokens 1 ++ (grown.2.state.invocations.drop 2).map Invocation.token).Nodup := by
  decide +kernel

/-- The helper `s` is called while `r` runs, and is taken last. -/
theorem resolve_doubled :
    ∃ turns,
      Drain.Resolution (Cache.startRender limits) (Cache.resolver limits (some 1) 1) 1
        ("<" ++ secondDrawn.1 ++ ">") growing turns (.ok "<F (F)>") grown.2 ∧
      turns.map Turn.number = [0, 1, 2] ∧ (turns.map Turn.number).Pairwise (· < ·) ∧
      grown.2.state.queue 1 = [] ∧
      ∀ token, IsToken token → containsText token "<F (F)>" = false := by
  obtain ⟨returned, count, distinct⟩ := grown_returns
  have runs : grown = (.ok (some "<F (F)>"), grown.2) := by
    rcases result : grown.1 with stop | text
    · rw [result] at returned
      cases returned
    · rw [result] at returned
      cases returned
      exact (Prod.eta grown).symm.trans (congrArg (fun ended => (ended, grown.2)) result)
  have queue : growing.state.queue 1 = [0, 1] := rfl
  have before : growing.state.invocations.length = 2 := rfl
  rw [← before] at distinct
  obtain ⟨turns, resolution, numbers, ordered, empty, absent⟩ :=
    resolve_growing growing_relaying relays_relay (.inr ⟨rfl, rfl⟩) growing_woven runs distinct
  rw [queue, before, count] at numbers
  exact ⟨turns, resolution, numbers, ordered, empty, absent⟩

end Sample

end DeferredText
