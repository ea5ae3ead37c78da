import DeferredText.Proofs.Thread

/-!
Contract: one template in two caches, in lockstep.

Where the direct cache has the answer of a call, the deferred one has its token, and has
recorded the call in the same place of the order. What the direct cache has is what the
deferred one has with the tokens replaced.

Owns: the evaluation of plain templates in a deferred and in a direct cache.

Does not own: the resolution of what was recorded (`Proofs.Replay`).
-/

namespace DeferredText

open CacheState

variable {α : Type} {library : Library} {index : Nat}

/-! ### Glued texts -/

namespace Portion

variable {texts tokens : List String} {pieces : List Portion} {token text : String}

theorem written_assemble (fixed : ∀ content, .fixed content ∈ pieces → IsPlain content)
    (each : ∀ text ∈ texts, Written tokens text) : Written tokens (assemble texts pieces) := by
  induction pieces with
  | nil => exact written_plain tokens isPlain_empty
  | cons piece rest inductionHypothesis =>
      have others := inductionHypothesis fun content member =>
        fixed content (List.mem_cons_of_mem piece member)
      refine Written.append ?_ others
      cases piece with
      | fixed content => exact written_plain tokens (fixed content List.mem_cons_self)
      | argument position =>
          rw [written, List.getD_eq_getElem?_getD]
          cases found : texts[position]? with
          | none => exact written_plain tokens isPlain_empty
          | some text => exact each text (List.mem_of_getElem? found)

theorem containsText_assemble {position : Nat} (used : .argument position ∈ pieces)
    (found : texts[position]? = some text) (inside : containsText token text = true) :
    containsText token (assemble texts pieces) = true := by
  induction pieces with
  | nil => cases used
  | cons piece rest inductionHypothesis =>
      rw [assemble]
      rcases List.mem_cons.mp used with rfl | later
      · apply containsText_append
        left
        rwa [written, List.getD_eq_getElem?_getD, found]
      · exact containsText_append (.inr (inductionHypothesis later))

/-- Replacing tokens in a glued text is gluing the texts in which they are replaced. -/
theorem applyTo_assemble {results : Results} (clean : results.Clean)
    (fixed : ∀ content, .fixed content ∈ pieces → IsPlain content)
    (each : ∀ text ∈ texts, Written tokens text) :
    results.applyTo (assemble texts pieces) = assemble (texts.map results.applyTo) pieces := by
  induction pieces with
  | nil => exact clean.applyTo_plain isPlain_empty
  | cons piece rest inductionHypothesis =>
      have fixedRest : ∀ content, .fixed content ∈ rest → IsPlain content :=
        fun content member => fixed content (List.mem_cons_of_mem piece member)
      have head : Written tokens (piece.written texts) ∧
          results.applyTo (piece.written texts) = piece.written (texts.map results.applyTo) := by
        cases piece with
        | fixed content =>
            have plain := fixed content List.mem_cons_self
            exact ⟨written_plain tokens plain, clean.applyTo_plain plain⟩
        | argument position =>
            rw [written, written, List.getD_eq_getElem?_getD, List.getD_eq_getElem?_getD,
              List.getElem?_map]
            cases found : texts[position]? with
            | none => exact ⟨written_plain tokens isPlain_empty, clean.applyTo_plain isPlain_empty⟩
            | some text => exact ⟨each text (List.mem_of_getElem? found), rfl⟩
      rw [assemble, assemble, clean.applyTo_append_written head.1 (written_assemble fixedRest each),
        head.2, inductionHypothesis fixedRest]

end Portion

namespace Arguments

variable {count : Nat} {names : List String} {values : List Value}

theorem contents_pack (length : values.length = count + names.length) :
    (pack count names values).contents = Value.itemsContents values := by
  have named : ((names.zip (values.drop count)).flatMap fun pair => pair.2.contents) =
      (values.drop count).flatMap Value.contents := by
    have second : (names.zip (values.drop count)).map Prod.snd = values.drop count :=
      List.map_snd_zip (by rw [List.length_drop]; omega)
    conv_rhs => rw [← second, List.flatMap_map]
  rw [contents, pack, named, Value.itemsContents_eq, Value.itemsContents_eq, ← List.flatMap_append,
    List.take_append_drop]

theorem substitute_pack (results : Results) :
    (pack count names values).substitute results =
      pack count names (Value.substituteItems results values) := by
  rw [substitute, pack, pack, Value.substituteItems_eq, Value.substituteItems_eq, List.map_take,
    ← List.map_drop, List.zip_map_right]
  rfl

end Arguments

/-! ### Steps in two caches -/

/-- How values hold texts: their texts, these rewritten, and being a text or all texts. -/
structure Reading (α : Type) where
  contents : α → List String
  rewrite : Results → α → α
  IsText : α → Prop

namespace Reading

def value : Reading Value :=
  ⟨Value.contents, Value.substitute, fun value => ∃ content, value = .text content⟩

def items : Reading (List Value) :=
  ⟨Value.itemsContents, Value.substituteItems, fun values => ∃ texts : List String,
    values = texts.map .text⟩

def rendered : Reading Rendered :=
  ⟨fun rendered => [rendered.text],
    fun results rendered => { rendered with text := results.applyTo rendered.text },
    fun _ => True⟩

end Reading

/-- The deferred action records calls, and the direct one makes them. What the direct one
yields is what the deferred one yields with the tokens of the calls replaced. -/
def Lockstep
    (library : Library)
    (index : Nat)
    (reading : Reading α)
    (isText : Bool)
    (deferred direct : CacheAction α) : Prop :=
  ∀ (known : List String) (before : CacheState), before.shape.IsStandard →
    index < before.waitlists.length →
    ∃ value calls after, deferred before = (.ok value, after) ∧
      Records library index calls before after ∧
      Thread library known calls (reading.contents value) ∧
      (isText = true → reading.IsText value) ∧
      ∀ results : Results, results.Clean → library.Solves results calls →
        ∀ state : CacheState, ∃ noted,
          direct state =
            (.ok (reading.rewrite results value), { state with calls := state.calls ++ noted }) ∧
          library.ofNotes noted = calls.map (library.note results)

/-- A plain text is the same in both caches. -/
theorem lockstep_text {isText : Bool} {content : String} {deferred direct : CacheAction Value}
    (plain : IsPlain content) (yields : ∀ state, deferred state = (.ok (.text content), state))
    (same : ∀ state, direct state = (.ok (.text content), state)) :
    Lockstep library index .value isText deferred direct := by
  intro known before _ _
  refine ⟨.text content, [], before, yields before, .refl library index before, ?_, ?_, ?_⟩
  · apply thread_nil
    intro text member
    rw [List.mem_singleton.mp member]
    exact written_plain known plain
  · exact fun _ => ⟨content, rfl⟩
  · intro results clean _ state
    refine ⟨[], ?_, rfl⟩
    rw [same state]
    simp [Reading.value, Value.substitute, clean.applyTo_plain plain]

section Evaluate

variable {engine engine' : Engine CacheState} {scope scope' : Scope CacheState} {source : String}
  {isText : Bool}

open Evaluate

/-- Expressions that are in lockstep one by one are so one after the other. -/
theorem lockstep_items {expressions : List Expr}
    (each : ∀ expression ∈ expressions, Lockstep library index .value isText
      (value engine scope source expression) (value engine' scope' source expression)) :
    Lockstep library index .items isText (items engine scope source expressions)
      (items engine' scope' source expressions) := by
  induction expressions with
  | nil =>
      intro known before _ _
      refine ⟨[], [], before, rfl, .refl library index before, thread_nil (by simp [Reading.items,
        Value.itemsContents]), fun _ => ⟨[], rfl⟩, ?_⟩
      intro results _ _ state
      exact ⟨[], by rw [List.append_nil]; rfl, rfl⟩
  | cons expression rest inductionHypothesis =>
      intro known before shape inside
      obtain ⟨head, first, middle, evaluates, records, thread, text, directs⟩ :=
        each expression List.mem_cons_self known before shape inside
      obtain ⟨others, second, after, evaluatesRest, recordsRest, threadRest, textRest, directsRest⟩ :=
        inductionHypothesis (fun other member => each other (List.mem_cons_of_mem expression member))
          (known ++ first.map Invocation.token) middle (records.shape.symm ▸ shape)
          (records.waitlists ▸ inside)
      refine ⟨head :: others, first ++ second, after, ?_, records.trans recordsRest,
        thread.append threadRest, ?_, ?_⟩
      · rw [items]
        exact Action.bind_ok evaluates (Action.bind_ok evaluatesRest rfl)
      · intro wanted
        obtain ⟨content, rfl⟩ := text wanted
        obtain ⟨contents, rfl⟩ := textRest wanted
        exact ⟨content :: contents, rfl⟩
      · intro results clean solves state
        obtain ⟨noted, acts, notes⟩ := directs results clean
          (fun call member => solves call (List.mem_append_left _ member)) state
        obtain ⟨more, actsRest, notesRest⟩ := directsRest results clean
          (fun call member => solves call (List.mem_append_right _ member)) _
        refine ⟨noted ++ more, ?_, ?_⟩
        · rw [items]
          apply Action.bind_ok acts
          apply Action.bind_ok actsRest
          rw [← List.append_assoc]
          rfl
        · rw [Library.ofNotes, List.filter_append, List.map_append]
          exact congrArg₂ _ notes notesRest

/-- A container of values that are in lockstep. -/
theorem Lockstep.wrap {expressions : List Expr} (wrap : List Value → Value)
    {deferred direct : CacheAction Value}
    (each : Lockstep library index .items false (items engine scope source expressions)
      (items engine' scope' source expressions))
    (defers : ∀ {before after values}, items engine scope source expressions before =
      (.ok values, after) → deferred before = (.ok (wrap values), after))
    (directs : ∀ {before after values}, items engine' scope' source expressions before =
      (.ok values, after) → direct before = (.ok (wrap values), after))
    (contents : ∀ values, values.length = expressions.length →
      (wrap values).contents = Value.itemsContents values)
    (rewrites : ∀ results values,
      (wrap values).substitute results = wrap (Value.substituteItems results values)) :
    Lockstep library index .value false deferred direct := by
  intro known before shape inside
  obtain ⟨values, calls, after, evaluates, records, thread, -, acts⟩ :=
    each known before shape inside
  have wrapped : Thread library known calls (wrap values).contents := by
    rw [contents values (items_length evaluates)]
    exact thread
  refine ⟨wrap values, calls, after, defers evaluates, records, wrapped, nofun, ?_⟩
  · intro results clean solves state
    obtain ⟨noted, acted, notes⟩ := acts results clean solves state
    refine ⟨noted, ?_, notes⟩
    rw [directs acted]
    exact congrArg (fun value => (Except.ok value, _)) (rewrites results values).symm

section Calls

variable {limits limits' : Limits} {callee : Expr} {arguments : List Expr}
  {keywords : List (Option String × Expr)} {name : String} {names : List String}
  {passesText : Bool} {current current' : Option Nat}

/-- Calling a deferred helper records the call in the current waitlist and returns a token. -/
theorem call_deferred (name : String) (target : Callable) (arguments : Arguments)
    (state : CacheState) :
    Callable.call (runRoutine limits (some index)) (some index) (.deferred name target) arguments
        state =
      (.ok (.text (Supply.token state.shape state.supply).1), state.recordedIn index
        { token := (Supply.token state.shape state.supply).1
          name := name
          arguments := arguments
          target := target
          style := target.style
          status := .pending } (Supply.token state.shape state.supply).2) := by
  rw [Callable.call.eq_def]
  rfl

/-- A helper that finishes at once is noted with its arguments. -/
theorem call_plain {label : String} {shape : Shape} {run : Arguments → Routine}
    {passed : Arguments} {answer : Value} (finishes : run passed = .finish answer)
    (state : CacheState) :
    Callable.call (runRoutine limits current) current (.helper ⟨label, shape, .plain run⟩) passed
        state = (.ok answer, { state with calls := state.calls ++ [⟨label, passed⟩] }) := by
  rw [Callable.call.eq_def]
  dsimp only [Helper.call]
  have notes : noteCall label passed state =
      (.ok (), { state with calls := state.calls ++ [⟨label, passed⟩] }) := rfl
  apply Action.bind_ok notes
  rw [finishes]
  rfl

/-- A call of a helper of the family: one cache records it, and the other one answers. -/
theorem Lockstep.family {member : Member} (called : callee.dottedName? = some name)
    (isMember : library.family name = some member)
    (defers : scope.helpers name = some fun passed =>
      Callable.call (runRoutine limits (some index)) (some index)
        (.deferred name member.deferred) passed)
    (directs : scope'.helpers name = some fun passed =>
      Callable.call (runRoutine limits' current') current' member.direct passed)
    (named : keywords.map Prod.fst = names.map some) (distinct : names.Nodup)
    (each : Lockstep library index .items passesText
      (items engine scope source (arguments ++ keywords.map Prod.snd))
      (items engine' scope' source (arguments ++ keywords.map Prod.snd))) :
    Lockstep library index .value isText (value engine scope source (.call callee arguments keywords))
      (value engine' scope' source (.call callee arguments keywords)) := by
  intro known before shape inside
  obtain ⟨values, calls, after, evaluates, records, thread, -, acts⟩ :=
    each known before shape inside
  have length : values.length = arguments.length + names.length := by
    have count := congrArg List.length named
    rw [List.length_map, List.length_map] at count
    rw [items_length evaluates, List.length_append, List.length_map, count]
  let drawn := Supply.token after.shape after.supply
  let call : Invocation :=
    { token := drawn.1
      name := name
      arguments := .pack arguments.length names values
      target := member.deferred
      style := member.deferred.style
      status := .pending }
  have standard : after.shape.IsStandard := records.shape.symm ▸ shape
  have isToken : IsToken call.token := Supply.isToken_token standard after.supply
  have recorded : Callable.call (runRoutine limits (some index)) (some index)
      (.deferred name member.deferred) call.arguments after =
        (.ok (.text call.token), after.recordedIn index call drawn.2) :=
    call_deferred name member.deferred call.arguments after
  refine ⟨.text call.token, calls ++ [call], after.recordedIn index call drawn.2, ?_, ?_, ?_,
    fun _ => ⟨call.token, rfl⟩, ?_⟩
  · rw [value_call called defers named distinct evaluates]
    exact recorded
  · refine records.trans ⟨rfl, ?_, rfl, ?_, rfl, rfl, rfl⟩
    · rw [queue_recordedIn, if_pos ⟨rfl, records.waitlists ▸ inside⟩]
      rfl
    · simp [recordedIn]
  · exact thread.record ⟨member, isMember, rfl⟩ isToken (Arguments.contents_pack length)
  · intro results clean solves state
    obtain ⟨noted, acted, notes⟩ := acts results clean
      (fun other among => solves other (List.mem_append_left _ among)) state
    have solved := solves call (by simp) member isMember
    have passed : Arguments.pack arguments.length names (Value.substituteItems results values) =
        call.arguments.substitute results := (Arguments.substitute_pack results).symm
    refine ⟨noted ++ [⟨member.label, call.arguments.substitute results⟩], ?_, ?_⟩
    · rw [value_call called directs named distinct acted]
      dsimp only [Reading.items]
      rw [passed, Member.direct, call_plain rfl, List.append_assoc]
      exact congrArg (fun text => (Except.ok (Value.text text), _))
        (clean.applyTo_token solved).symm
    · rw [Library.ofNotes, List.filter_append, List.map_append]
      refine congrArg₂ _ notes ?_
      have ours : library.isFamily member.label = true := library.ofFamily name member isMember
      simp [ours, Library.note, isMember, call]

/-- A call of a helper that glues texts together, which both caches run. -/
theorem Lockstep.glue {glued : Glue} {pieces : List Portion} (called : callee.dottedName? = some name)
    (isGlue : library.glue name = some glued)
    (defers : scope.helpers name = some fun passed =>
      Callable.call (runRoutine limits current) current glued.callable passed)
    (directs : scope'.helpers name = some fun passed =>
      Callable.call (runRoutine limits' current') current' glued.callable passed)
    (named : keywords.map Prod.fst = names.map some) (distinct : names.Nodup)
    (joins : glued.Joins arguments.length names pieces)
    (each : Lockstep library index .items true
      (items engine scope source (arguments ++ keywords.map Prod.snd))
      (items engine' scope' source (arguments ++ keywords.map Prod.snd))) :
    Lockstep library index .value isText (value engine scope source (.call callee arguments keywords))
      (value engine' scope' source (.call callee arguments keywords)) := by
  intro known before shape inside
  obtain ⟨values, calls, after, evaluates, records, thread, text, acts⟩ :=
    each known before shape inside
  obtain ⟨texts, rfl⟩ := text rfl
  have length : texts.length = arguments.length + names.length := by
    have count := congrArg List.length named
    rw [List.length_map, List.length_map] at count
    rw [← List.length_map Value.text, items_length evaluates, List.length_append, List.length_map,
      count]
  have contents : Value.itemsContents (texts.map .text) = texts := by
    rw [Value.itemsContents_eq, List.flatMap_map]
    exact List.flatMap_singleton' texts
  have thread : Thread library known calls texts := contents ▸ thread
  have foreign : library.isFamily glued.label = false := library.ofGlue name glued isGlue
  refine ⟨.text (Portion.assemble texts pieces), calls,
    { after with calls := after.calls ++ [⟨glued.label, .pack arguments.length names
      (texts.map .text)⟩] }, ?_, ?_, ?_, fun _ => ⟨_, rfl⟩, ?_⟩
  · rw [value_call called defers named distinct evaluates]
    exact call_plain (joins.run texts length) after
  · refine ⟨records.invocations, records.queue, ?_, records.waitlists, records.shape,
      records.log, records.ready⟩
    rw [← records.notes, Library.ofNotes, List.filter_append]
    simp [foreign, Library.ofNotes]
  · apply thread.carry
    · intro text member
      rw [List.mem_singleton.mp member]
      exact Portion.written_assemble joins.fixed thread.written
    · intro token isToken text member found
      obtain ⟨position, below, at_⟩ := List.getElem_of_mem member
      refine ⟨_, List.mem_cons_self, ?_⟩
      apply Portion.containsText_assemble (joins.used position (length ▸ below)) _ found
      rw [List.getElem?_eq_getElem below, at_]
  · intro results clean solves state
    obtain ⟨noted, acted, notes⟩ := acts results clean solves state
    have rewritten : Value.substituteItems results (texts.map .text) =
        (texts.map results.applyTo).map .text := by
      rw [Value.substituteItems_eq, List.map_map, List.map_map]
      rfl
    refine ⟨noted ++ [⟨glued.label, .pack arguments.length names
      ((texts.map results.applyTo).map .text)⟩], ?_, ?_⟩
    · rw [value_call called directs named distinct acted]
      dsimp only [Reading.items]
      rw [rewritten, Glue.callable, call_plain (joins.run _ (by rw [List.length_map, length])),
        List.append_assoc]
      exact congrArg (fun text => (Except.ok (Value.text text), _))
        (Portion.applyTo_assemble clean joins.fixed thread.written).symm
    · rw [Library.ofNotes, List.filter_append]
      simpa [foreign, Library.ofNotes] using notes

end Calls

/-! ### Plain templates -/

section Plain

variable {limits limits' : Limits} {current' : Option Nat} {deferred direct : Registry}
  {data : Value}

theorem entriesContents_zip {keys values : List Value} (length : values.length = keys.length) :
    Value.entriesContents (keys.zip values) = Value.itemsContents values := by
  induction keys generalizing values with
  | nil =>
      rw [List.length_eq_zero_iff.mp length]
      rfl
  | cons key others inductionHypothesis =>
      cases values with
      | nil => cases length
      | cons value rest =>
          rw [List.zip_cons_cons, Value.entriesContents, Value.itemsContents,
            inductionHypothesis (Nat.succ.inj length)]

theorem substituteEntries_zip (results : Results) (keys values : List Value) :
    Value.substituteEntries results (keys.zip values) =
      keys.zip (Value.substituteItems results values) := by
  induction keys generalizing values with
  | nil => rfl
  | cons key others inductionHypothesis =>
      cases values with
      | nil => rfl
      | cons value rest =>
          rw [List.zip_cons_cons, Value.substituteEntries, inductionHypothesis]
          rfl

theorem evaluate_eq {engine : Engine CacheState} {scope : Scope CacheState} {expression : String}
    {tree : Expr} {before after : CacheState} {found : Value}
    (reads : Template.readExpression expression = .ok tree)
    (evaluates : value engine scope expression tree before = (.ok found, after)) :
    engine.evaluate scope expression before = (.ok found, after) := by
  rw [Engine.evaluate, reads]
  apply Action.bind_ok rfl
  rw [Action.mapFailure, evaluates]

theorem templateHelpers_eq {registry : Registry} {current : Option Nat} {name : String}
    {callable : Callable} (registered : registry.callable? name = some callable) :
    templateHelpers limits current registry name = some fun passed =>
      Callable.call (runRoutine limits current) current callable passed := by
  rw [templateHelpers, registered]
  rfl

/-- Plain expressions are in lockstep. -/
theorem Plain.lockstep (fits : library.Fits deferred direct) {expression : Expr}
    (plain : Plain library data isText expression) :
    Lockstep library index .value isText
      (value engine ⟨data, templateHelpers limits (some index) deferred⟩ source expression)
      (value engine' ⟨data, templateHelpers limits' current' direct⟩ source expression) := by
  induction plain with
  | constant plain =>
      refine lockstep_text plain (fun state => ?_) (fun state => ?_) <;> rw [value] <;> rfl
  | name binds bound plain =>
      have bind : ∀ {engine : Engine CacheState} {identifier content : String},
          data.bindsName identifier = .ok true →
          data.boundTo identifier = .ok (.text content) →
          Evaluate.name engine data source identifier = .ok (.text content) := by
        intro engine identifier content binds bound
        rw [Evaluate.name, binds]
        exact bound
      refine lockstep_text plain (fun state => ?_) (fun state => ?_) <;>
        rw [value, bind binds bound] <;> rfl
  | family called isMember named distinct _ each =>
      exact .family called isMember (templateHelpers_eq (fits.defers _ _ isMember))
        (templateHelpers_eq (fits.answers _ _ isMember)) named distinct (lockstep_items each)
  | glue called isGlue named distinct joins _ each =>
      exact .glue called isGlue (templateHelpers_eq (fits.gluesDeferred _ _ isGlue))
        (templateHelpers_eq (fits.gluesDirect _ _ isGlue)) named distinct joins
        (lockstep_items each)
  | list _ each =>
      refine (lockstep_items each).wrap .list ?_ ?_ (fun _ _ => rfl) (fun _ _ => rfl) <;>
      · intro before after values evaluates
        rw [value]
        exact Action.bind_ok evaluates rfl
  | tuple _ each =>
      refine (lockstep_items each).wrap .tuple ?_ ?_ (fun _ _ => rfl) (fun _ _ => rfl) <;>
      · intro before after values evaluates
        rw [value]
        exact Action.bind_ok evaluates rfl
  | @dict pairs keys keyed hashable distinct _ each =>
      have count : keys.length = (pairs.map Prod.snd).length := by
        have same := congrArg List.length keyed
        rw [List.length_map, List.length_map] at same
        rw [List.length_map, same]
      refine (lockstep_items each).wrap (fun values => .dict (keys.zip values)) ?_ ?_ ?_ ?_
      · intro before after values evaluates
        rw [value]
        exact Action.bind_ok (@entries_eq _ _ _ _ _ _ _ _ _ [] keyed hashable distinct evaluates) rfl
      · intro before after values evaluates
        rw [value]
        exact Action.bind_ok (@entries_eq _ _ _ _ _ _ _ _ _ [] keyed hashable distinct evaluates) rfl
      · intro values length
        exact entriesContents_zip (by rw [count, length])
      · intro results values
        exact congrArg Value.dict (substituteEntries_zip results keys values)

section Segments

variable {segments : List Segment}

/-- A letter in front changes no call. -/
theorem Lockstep.literal {character : Char} (own : character ≠ '_')
    (others : Lockstep library index .rendered false
      (engine.renderSegments scope segments)
      (engine'.renderSegments scope' segments)) :
    Lockstep library index .rendered false
      (engine.renderSegments scope (.literal character :: segments))
      (engine'.renderSegments scope' (.literal character :: segments)) := by
  intro known before shape inside
  obtain ⟨rendered, calls, after, renders, records, thread, -, acts⟩ :=
    others known before shape inside
  have single : IsPlain (String.singleton character) := by
    apply isPlain_of_notMem
    rw [String.toList_singleton, List.mem_singleton]
    exact Ne.symm own
  have isWritten := written_plain (known ++ calls.map Invocation.token) single
  have rest := thread.written rendered.text List.mem_cons_self
  refine ⟨{ rendered with text := String.singleton character ++ rendered.text }, calls, after,
    ?_, records, ?_, nofun, ?_⟩
  · rw [Engine.renderSegments]
    exact Action.bind_ok renders rfl
  · apply thread.carry
    · intro text member
      rw [List.mem_singleton.mp member]
      exact isWritten.append rest
    · intro token _ text member found
      rw [List.mem_singleton.mp member] at found
      exact ⟨_, List.mem_cons_self, containsText_append (.inr found)⟩
  · intro results clean solves state
    obtain ⟨noted, acted, notes⟩ := acts results clean solves state
    refine ⟨noted, ?_, notes⟩
    rw [Engine.renderSegments]
    apply Action.bind_ok acted
    rw [Reading.rendered]
    dsimp only
    rw [clean.applyTo_append_written isWritten rest, clean.applyTo_plain single]
    rfl

/-- The calls of an expression come before those of what is behind it. -/
theorem Lockstep.expression {body : List Char} {tree : Expr}
    (fits : library.Fits deferred direct)
    (reads : Template.readExpression (String.ofList (trimBlank body)) = .ok tree)
    (isPlain : Plain library data true tree)
    (others : Lockstep library index .rendered false
      (engine.renderSegments ⟨data, templateHelpers limits (some index) deferred⟩ segments)
      (engine'.renderSegments ⟨data, templateHelpers limits' current' direct⟩ segments)) :
    Lockstep library index .rendered false
      (engine.renderSegments ⟨data, templateHelpers limits (some index) deferred⟩
        (.expression body :: segments))
      (engine'.renderSegments ⟨data, templateHelpers limits' current' direct⟩
        (.expression body :: segments)) := by
  intro known before shape inside
  obtain ⟨found, first, middle, evaluates, records, thread, text, acts⟩ :=
    isPlain.lockstep fits known before shape inside
  obtain ⟨content, rfl⟩ := text rfl
  obtain ⟨rendered, second, after, renders, recordsRest, threadRest, -, actsRest⟩ :=
    others (known ++ first.map Invocation.token) middle (records.shape.symm ▸ shape)
      (records.waitlists ▸ inside)
  have whole : Thread library known (first ++ second) [content, rendered.text] :=
    thread.append threadRest
  have head := whole.written content List.mem_cons_self
  have tail := whole.written rendered.text (List.mem_cons_of_mem _ List.mem_cons_self)
  refine ⟨⟨content ++ rendered.text, String.ofList (trimBlank body) :: rendered.expressions⟩,
    first ++ second, after, ?_, records.trans recordsRest, ?_, nofun, ?_⟩
  · rw [Engine.renderSegments]
    apply Action.bind_ok (evaluate_eq reads evaluates)
    exact Action.bind_ok rfl (Action.bind_ok renders rfl)
  · apply whole.carry
    · intro text member
      rw [List.mem_singleton.mp member]
      exact head.append tail
    · intro token _ text member found
      refine ⟨_, List.mem_cons_self, containsText_append ?_⟩
      rcases List.mem_cons.mp member with rfl | last
      · exact .inl found
      · rw [List.mem_singleton.mp last] at found
        exact .inr found
  · intro results clean solves state
    obtain ⟨noted, acted, notes⟩ := acts results clean
      (fun call member => solves call (List.mem_append_left _ member)) state
    obtain ⟨more, actedRest, notesRest⟩ := actsRest results clean
      (fun call member => solves call (List.mem_append_right _ member)) _
    refine ⟨noted ++ more, ?_, ?_⟩
    · rw [Engine.renderSegments]
      apply Action.bind_ok (evaluate_eq reads acted)
      apply Action.bind_ok rfl
      apply Action.bind_ok actedRest
      rw [Reading.rendered, ← List.append_assoc]
      dsimp only
      rw [clean.applyTo_append_written head tail]
      rfl
    · rw [Library.ofNotes, List.filter_append, List.map_append]
      exact congrArg₂ _ notes notesRest

end Segments

end Plain

end Evaluate

end DeferredText
