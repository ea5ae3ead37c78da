import DeferredText.Proofs.Ledger
import Mathlib

/-!
Contract: batches as sequences of single requests.

A batch is a tree of collections, factories and helpers. Written out from left to right it is a
list of visits: a helper is registered under the path that leads to it, a factory is called, or
something malformed is refused. The request does nothing but make these visits one after the
other, until one of them fails, so that what a batch does can be read off the list.

Owns: the visits of a source, what a visit does, and that requests make the visits of their
sources.

Does not own: the effect of single registrations (`Proofs.Registrations`).
-/

namespace DeferredText

open DeferredText.Action

/-- What is wrong with a part of a source. -/
inductive Malformed where
  /-- The key of an entry is no text. -/
  | key (key : Value)
  /-- The value of an entry is neither callable nor a mapping. -/
  | member (name typeName : String)
  /-- What a factory made is no collection. -/
  | product (factory : Option String) (typeName : String)
  /-- Outside of mappings, the source is neither a collection nor callable. -/
  | source (value : Value)

/-- One thing that is done about a source. -/
inductive Visit where
  | register (name : String) (callable : Callable)
  /-- A factory is called; the visits of its product follow. -/
  | call (factory : String)
  /-- A helper is called in the place of a factory; what it makes is not known before. -/
  | produce (group : Option String) (callable : Callable)
  | refuse (malformed : Malformed)

namespace Source

mutual

/-- What is done about a source, depth first and from left to right. -/
def visits (group : Option String) : Source → List Visit
  | .mapping entries => visitsOfEntries group entries
  | .list items => visitsOfItems group items
  | .tuple items => visitsOfItems group items
  | .callable (.factory name (.mapping entries)) => .call name :: visitsOfEntries group entries
  | .callable (.factory name (.list items)) => .call name :: visitsOfItems group items
  | .callable (.factory name (.tuple items)) => .call name :: visitsOfItems group items
  | .callable (.factory name product) =>
      [.call name, .refuse (.product (some name) product.typeName)]
  | .callable helper => [.produce group helper]
  | .plain value => [.refuse (.source value)]

def visitsOfItems (group : Option String) : List Source → List Visit
  | [] => []
  | item :: rest => visits group item ++ visitsOfItems group rest

def visitsOfEntries (group : Option String) : List (Value × Source) → List Visit
  | [] => []
  | (.text key, .mapping entries) :: rest =>
      visitsOfEntries (some (Cache.memberName group key)) entries ++ visitsOfEntries group rest
  | (.text key, .callable helper) :: rest =>
      .register (Cache.memberName group key) helper :: visitsOfEntries group rest
  | (.text key, other) :: rest =>
      .refuse (.member (Cache.memberName group key) other.typeName) :: visitsOfEntries group rest
  | (key, _) :: rest => .refuse (.key key) :: visitsOfEntries group rest

end

end Source

namespace Visit

/-- The helper that a visit registers, with its name. -/
def leaf? : Visit → Option (String × Callable)
  | .register name callable => some (name, callable)
  | _ => none

/-- The helpers that visits register, in the order of their registration. -/
def leaves (visits : List Visit) : List (String × Callable) :=
  visits.filterMap leaf?

theorem leaves_append (first second : List Visit) :
    leaves (first ++ second) = leaves first ++ leaves second :=
  List.filterMap_append

/-- The call of a factory. -/
def note? : Visit → Option CallNote
  | .call factory => some ⟨factory, .none⟩
  | _ => none

/-- Whether the visit registers under a valid name, or calls something. -/
def isProper : Visit → Bool
  | .register name _ => isHelperName name
  | .refuse _ => false
  | _ => true

/-- Whether all that the visit does is known before. -/
def isKnown : Visit → Bool
  | .produce _ _ => false
  | _ => true

/-- What is refused can be shown in the report. -/
def IsShown : Visit → Prop
  | .refuse (.key key) => ∃ shown, key.quoted = .ok shown
  | _ => True

/-- Only refusals are made. -/
def AreRefusals (visits : List Visit) : Prop :=
  ∀ visit ∈ visits, ∃ malformed, visit = .refuse malformed

end Visit

namespace Source

open Visit

theorem areRefusals_append {first second : List Visit} (here : AreRefusals first)
    (there : AreRefusals second) : AreRefusals (first ++ second) :=
  List.forall_mem_append.mpr ⟨here, there⟩

theorem areRefusals_cons (malformed : Malformed) {rest : List Visit} (others : AreRefusals rest) :
    AreRefusals (.refuse malformed :: rest) :=
  List.forall_mem_cons.mpr ⟨⟨malformed, rfl⟩, others⟩

mutual

/-- A value holds nothing that can be registered or called. -/
theorem visits_ofValue (group : Option String) :
    ∀ value : Value, AreRefusals ((ofValue value).visits group)
  | .list items => by
      rw [ofValue, visits]
      exact visitsOfItems_ofItems group items
  | .tuple items => by
      rw [ofValue, visits]
      exact visitsOfItems_ofItems group items
  | .dict entries => by
      rw [ofValue, visits]
      exact visitsOfEntries_ofEntries group entries
  | .none | .bool _ | .int _ | .float _ | .complex _ _ | .text _ | .bytes _ | .ellipsis
  | .object _ _ | .exception _ _ | .opaqueOf _ => by
      rw [ofValue, visits]
      · exact areRefusals_cons _ (List.forall_mem_nil _)
      all_goals nofun

theorem visitsOfItems_ofItems (group : Option String) :
    ∀ items : List Value, AreRefusals (visitsOfItems group (ofItems items))
  | [] => by
      rw [ofItems, visitsOfItems]
      exact List.forall_mem_nil _
  | item :: rest => by
      rw [ofItems, visitsOfItems]
      exact areRefusals_append (visits_ofValue group item) (visitsOfItems_ofItems group rest)

theorem visitsOfEntries_ofEntries (group : Option String) :
    ∀ entries : List (Value × Value), AreRefusals (visitsOfEntries group (ofEntries entries))
  | [] => by
      rw [ofEntries, visitsOfEntries]
      exact List.forall_mem_nil _
  | (key, value) :: rest => by
      have others := visitsOfEntries_ofEntries group rest
      rw [ofEntries]
      cases key with
      | text name =>
          cases value with
          | dict entries =>
              rw [ofValue, visitsOfEntries]
              exact areRefusals_append (visitsOfEntries_ofEntries _ entries) others
          | _ =>
              rw [ofValue, visitsOfEntries]
              · exact areRefusals_cons _ others
              all_goals nofun
      | _ =>
          rw [visitsOfEntries]
          · exact areRefusals_cons _ others
          all_goals nofun

end

end Source

namespace Cache

variable {α β : Type}

/-- The refusal of something malformed. -/
def refuseMalformed : Malformed → CacheAction α
  | .key key => do
      let shown ← Action.ofOutcome key.quoted
      refuse key ("helper name must be a string, got " ++ shown)
  | .member name typeName => refuseMember name typeName
  | .product factory typeName => refuseProduct factory typeName
  | .source value => refuseSource value

/-- Makes a visit and returns the names that were registered; `produce` registers what a helper
makes. -/
def visit
    (produce : Option String → Callable → CacheAction (List String))
    (isAsync : Bool) : Visit → CacheAction (List String)
  | .register name callable => do
      let entry ← register isAsync (.text name) (.callable callable)
      return [entry.name]
  | .call factory => do
      CacheState.noteCall factory .none
      return []
  | .produce group callable => produce group callable
  | .refuse malformed => refuseMalformed malformed

/-- Makes visits one after the other. -/
def visitAll
    (produce : Option String → Callable → CacheAction (List String))
    (isAsync : Bool) : List Visit → CacheAction (List String)
  | [] => return []
  | first :: rest => do
      let names ← visit produce isAsync first
      let further ← visitAll produce isAsync rest
      return names ++ further

/-- What a helper makes, in the place of a factory, has to be a collection as well. It holds plain
values, so nothing in it can be called. -/
def visitProduct
    (limits : Limits)
    (current : Option Nat)
    (isAsync : Bool)
    (group : Option String)
    (callable : Callable) : CacheAction (List String) := do
  let produced ← callBare limits current callable
  match produced with
  | .dict _ | .list _ | .tuple _ =>
      visitAll (fun _ _ => return []) isAsync ((Source.ofValue produced).visits group)
  | other => refuseProduct callable.ownName? other.typeName

/-! ### Requests make visits -/

section Visits

variable {produce : Option String → Callable → CacheAction (List String)} {isAsync : Bool}

theorem visitAll_append (front behind : List Visit) :
    visitAll produce isAsync (front ++ behind) = (do
      let names ← visitAll produce isAsync front
      let further ← visitAll produce isAsync behind
      return names ++ further) := by
  induction front with
  | nil => simp [visitAll]
  | cons first rest inductionHypothesis =>
      rw [List.cons_append, visitAll, inductionHypothesis, visitAll]
      simp only [bind_assoc, pure_bind, List.append_assoc]

theorem visitAll_single (single : Visit) :
    visitAll produce isAsync [single] = visit produce isAsync single := by
  simp [visitAll]

theorem visitAll_call (factory : String) (rest : List Visit) :
    visitAll produce isAsync (.call factory :: rest) = (do
      CacheState.noteCall factory .none
      visitAll produce isAsync rest) := by
  rw [visitAll, visit]
  simp only [bind_assoc, pure_bind, List.nil_append, bind_pure]

/-- Nothing happens after a refusal. -/
theorem refuse_bind (name : Value) (reason : String) (next : α → CacheAction β) :
    (refuse name reason : CacheAction α) >>= next = refuse name reason := by
  rw [refuse, bind_assoc]
  rfl

theorem refuseMalformed_bind (malformed : Malformed) (next : α → CacheAction β) :
    (refuseMalformed malformed : CacheAction α) >>= next = refuseMalformed malformed := by
  cases malformed with
  | key key =>
      rw [refuseMalformed, bind_assoc]
      simp only [refuse_bind]
      rfl
  | member name typeName => exact refuse_bind _ _ _
  | product factory typeName => exact refuse_bind _ _ _
  | source value =>
      cases value with
      | text content => exact (bind_assoc _ _ _).trans (by simp only [refuse_bind]; rfl)
      | _ => exact refuse_bind _ _ _

theorem memberKey_bind {key : Value} (noText : ∀ content, key ≠ .text content)
    (next : String → CacheAction α) :
    memberKey key >>= next = refuseMalformed (.key key) := by
  cases key with
  | text content => exact absurd rfl (noText content)
  | _ =>
      rw [memberKey, bind_assoc]
      simp only [refuse_bind]
      rfl
      all_goals nofun

/-- What becomes of a helper that is called in the place of a factory. -/
def produced
    (expand : Option String → Value → CacheAction (List String))
    (callHelper : Callable → CacheAction Value)
    (group : Option String)
    (callable : Callable) : CacheAction (List String) := do
  let made ← callHelper callable
  match made with
  | .dict _ | .list _ | .tuple _ => expand group made
  | other => refuseProduct callable.ownName? other.typeName

variable {expand : Option String → Value → CacheAction (List String)}
  {callHelper : Callable → CacheAction Value}

mutual

theorem walk_eq (group : Option String) : ∀ source : Source,
    walk expand callHelper isAsync group source =
      visitAll (produced expand callHelper) isAsync (source.visits group)
  | .mapping entries => by
      rw [walk, Source.visits]
      exact walkEntries_eq group entries
  | .list items => by
      rw [walk, Source.visits]
      exact walkItems_eq group items
  | .tuple items => by
      rw [walk, Source.visits]
      exact walkItems_eq group items
  | .callable (.factory name (.mapping entries)) => by
      rw [walk, Source.visits, visitAll_call, walkEntries_eq group entries]
  | .callable (.factory name (.list items)) => by
      rw [walk, Source.visits, visitAll_call, walkItems_eq group items]
  | .callable (.factory name (.tuple items)) => by
      rw [walk, Source.visits, visitAll_call, walkItems_eq group items]
  | .callable (.factory name (.callable _)) | .callable (.factory name (.plain _)) => by
      rw [walk, Source.visits, visitAll_call, visitAll_single]
      rfl
      all_goals nofun
  | .callable (.helper helper) => by
      rw [walk, Source.visits, visitAll_single]
      rfl
      all_goals nofun
  | .callable (.deferred name target) => by
      rw [walk, Source.visits, visitAll_single]
      rfl
      all_goals nofun
  | .plain value => by
      rw [walk, Source.visits, visitAll_single]
      rfl

theorem walkItems_eq (group : Option String) : ∀ items : List Source,
    walkItems expand callHelper isAsync group items =
      visitAll (produced expand callHelper) isAsync (Source.visitsOfItems group items)
  | [] => rfl
  | item :: rest => by
      rw [walkItems, Source.visitsOfItems, visitAll_append, walk_eq group item,
        walkItems_eq group rest]

theorem walkEntries_eq (group : Option String) : ∀ entries : List (Value × Source),
    walkEntries expand callHelper isAsync group entries =
      visitAll (produced expand callHelper) isAsync (Source.visitsOfEntries group entries)
  | [] => by
      rw [walkEntries, Source.visitsOfEntries]
      rfl
  | (key, member) :: rest => by
      have others := walkEntries_eq group rest
      rw [walkEntries]
      cases key with
      | text content =>
          rw [memberKey, pure_bind]
          cases member with
          | mapping entries =>
              rw [Source.visitsOfEntries, visitAll_append, ← walkEntries_eq _ entries, others]
          | callable helper =>
              rw [Source.visitsOfEntries, visitAll, visit, bind_assoc, others]
          | _ =>
              rw [Source.visitsOfEntries, visitAll, visit, others]
              · rfl
              all_goals nofun
      | _ =>
          rw [memberKey_bind fun _ => by nofun, Source.visitsOfEntries, visitAll, visit]
          · exact (refuseMalformed_bind _ _).symm
          all_goals nofun

end

/-- How helpers are called does not matter where none is called. -/
theorem visitAll_refusals {others : Option String → Callable → CacheAction (List String)}
    {visits : List Visit} (areRefusals : Visit.AreRefusals visits) :
    visitAll produce isAsync visits = visitAll others isAsync visits := by
  induction visits with
  | nil => rfl
  | cons first rest inductionHypothesis =>
      obtain ⟨⟨malformed, rfl⟩, others⟩ := List.forall_mem_cons.mp areRefusals
      rw [visitAll, visitAll, inductionHypothesis others]
      rfl

/-- A source is registered by making its visits. -/
theorem walkSource_eq (limits : Limits) (current : Option Nat) (group : Option String)
    (source : Source) : walkSource limits current isAsync group source =
      visitAll (visitProduct limits current isAsync) isAsync (source.visits group) := by
  have returned (group : Option String) (value : Value) : walkReturned isAsync group value =
      visitAll (fun _ _ => return []) isAsync ((Source.ofValue value).visits group) := by
    rw [walkReturned, walk_eq]
    exact visitAll_refusals (Source.visits_ofValue group value)
  have products : produced (walkReturned isAsync) (callBare limits current) =
      visitProduct limits current isAsync := by
    funext group callable
    unfold produced visitProduct
    simp only [returned]
  rw [walkSource, walk_eq, products]

end Visits

/-! ### Failed refusals -/

/-- The request is refused with a report. -/
def InvalidArgument (stop : Stop) : Prop :=
  ∃ report, stop = .failed (.reported report) ∧ report.code = "INVALID_ARGUMENT"

/-- A refusal is reported, unless the log refuses to note it. -/
theorem refuse_heard {name : Value} {reason : String} {before after : CacheState} {stop : Stop}
    (fails : (refuse name reason : CacheAction α) before = (.error stop, after))
    (heard : after.unwritten = before.unwritten) : InvalidArgument stop := by
  have unheard := (blind_refuse name reason before).2 ((congrArg (fun ended => ended.2.unwritten)
    fails).trans heard)
  have silent : (refuse name reason : CacheAction α) before.unlogged =
      (.error (.failed (.reported (.invalidArgument reason (nameOnly name)))), before.unlogged) :=
    rfl
  rw [fails, silent] at unheard
  exact ⟨_, (Except.error.inj (congrArg Prod.fst unheard)).symm, rfl⟩

/-- If nothing is missing from the log after two actions, nothing is missing from what the second
of them told. -/
theorem heard_behind {first : CacheAction α} {second : CacheAction β} {before middle after : CacheState}
    {ended : Except Stop α} {last : Except Stop β} (blind : Blind first) (blindBehind : Blind second)
    (acts : first before = (ended, middle)) (actsBehind : second middle = (last, after))
    (heard : after.unwritten = before.unwritten) : after.unwritten = middle.unwritten := by
  have early := (blind before).1
  have late := (blindBehind middle).1
  rw [acts] at early
  rw [actsBehind] at late
  exact (early.heard late heard).2

theorem refuseMalformed_heard {malformed : Malformed} {before after : CacheState} {stop : Stop}
    (fails : (refuseMalformed malformed : CacheAction α) before = (.error stop, after))
    (heard : after.unwritten = before.unwritten) (shown : (Visit.refuse malformed).IsShown) :
    InvalidArgument stop := by
  cases malformed with
  | key key =>
      obtain ⟨text, quotes⟩ := shown
      rw [refuseMalformed, quotes] at fails
      exact refuse_heard fails heard
  | member name typeName => exact refuse_heard fails heard
  | product factory typeName => exact refuse_heard fails heard
  | source value => cases value <;> exact refuse_heard fails heard

/-- What is not a helper name is refused like everything malformed. -/
theorem register_unnamed {name : String} (isAsync : Bool) (callable : Callable)
    (invalid : isHelperName name = false) :
    register isAsync (.text name) (.callable callable) =
      refuse (.text name) ("helper name must be identifier-like, got " ++ quotedText name) := by
  have unnamed : ¬ isHelperName name = true := Bool.eq_false_iff.mp invalid
  rw [register, validated, if_neg unnamed]
  exact refuse_bind _ _ _

theorem rejects_refuseMalformed (malformed : Malformed) :
    Rejects (refuseMalformed malformed : CacheAction α) := by
  cases malformed with
  | key key => exact rejects_ofOutcome _ fun _ => rejects_refuse _ _
  | member name typeName => exact rejects_refuse _ _
  | product factory typeName => exact rejects_refuse _ _
  | source value => exact rejects_refuseSource value

theorem blind_refuseMalformed (malformed : Malformed) :
    Blind (refuseMalformed malformed : CacheAction α) := by
  cases malformed with
  | key key => exact (blind_ofOutcome _).bind fun _ => blind_refuse _ _
  | member name typeName => exact blind_refuse _ _
  | product factory typeName => exact blind_refuse _ _
  | source value => exact blind_refuseSource value

/-! ### No other calls -/

/-- The action calls nothing. -/
def CallsNothing (action : CacheAction α) : Prop :=
  ∀ state, (action state).2.calls = state.calls

theorem CallsNothing.bind {action : CacheAction α} {next : α → CacheAction β}
    (first : CallsNothing action) (second : ∀ value, CallsNothing (next value)) :
    CallsNothing (action >>= next) := by
  intro state
  have same := first state
  rw [bind_eq]
  rcases acts : action state with ⟨stop | value, middle⟩ <;> rw [acts] at same
  · exact same
  · exact (second value middle).trans same

theorem callsNothing_tell (event : Event) : CallsNothing (CacheState.tell event) := by
  intro state
  obtain ⟨lines, unwritten, told⟩ := CacheState.tell_changes event state
  rw [told]
  rfl

theorem callsNothing_ofOutcome (outcome : Outcome α) :
    CallsNothing (ofOutcome outcome : CacheAction α) := by
  intro state
  cases outcome <;> rfl

theorem callsNothing_refuse (name : Value) (reason : String) :
    CallsNothing (refuse name reason : CacheAction α) :=
  (callsNothing_tell _).bind fun _ _ => rfl

theorem callsNothing_refuseMalformed (malformed : Malformed) :
    CallsNothing (refuseMalformed malformed : CacheAction α) := by
  cases malformed with
  | key key => exact (callsNothing_ofOutcome _).bind fun _ => callsNothing_refuse _ _
  | member name typeName => exact callsNothing_refuse _ _
  | product factory typeName => exact callsNothing_refuse _ _
  | source value =>
      cases value with
      | text content => exact (callsNothing_ofOutcome _).bind fun _ => callsNothing_refuse _ _
      | _ => exact callsNothing_refuse _ _

theorem callsNothing_store (entry : Entry) : CallsNothing (store entry) := by
  intro state
  have last : CallsNothing (do
      CacheState.tell (.registered (.text entry.name) (.text entry.kind.name))
      return entry) := (callsNothing_tell _).bind fun _ _ => rfl
  have notes : CallsNothing (noteStored entry state) := by
    rcases noteStored_cases entry state with same | ⟨replaced, same⟩
    · rw [same]
      exact last
    · rw [same]
      exact (callsNothing_tell _).bind fun _ => last
  rw [store_eq]
  exact notes { state with registry := state.registry.store entry }

theorem callsNothing_register (isAsync : Bool) (name : String) (callable : Callable) :
    CallsNothing (register isAsync (.text name) (.callable callable)) := by
  cases valid : isHelperName name with
  | false =>
      rw [register_unnamed isAsync callable valid]
      exact callsNothing_refuse _ _
  | true =>
      rw [(register_granted isAsync ((granted?_text name callable).trans (if_pos valid))).2]
      exact callsNothing_store _

/-! ### Runs of visits -/

/-- Between two states the visits were made: each is in order, the helpers are registered one
after the other, and unless it is not known before what a visit does, the factories were called,
each of them once. -/
structure Made
    (isAsync : Bool)
    (visits : List Visit)
    (before after : CacheState) : Prop where
  proper : ∀ visit ∈ visits, visit.isProper = true
  registry : after.registry =
    (entriesOf isAsync (Visit.leaves visits)).foldl Registry.store before.registry
  calls : (∀ visit ∈ visits, visit.isKnown = true) →
    after.calls = before.calls ++ visits.filterMap Visit.note?

section Runs

variable {produce : Option String → Callable → CacheAction (List String)} {isAsync : Bool}
  {visits front : List Visit} {single bad : Visit} {before middle after : CacheState}
  {names : List String} {stop : Stop}

theorem Made.nothing (state : CacheState) : Made isAsync [] state state where
  proper := List.forall_mem_nil _
  registry := rfl
  calls := fun _ => (List.append_nil _).symm

theorem Made.append {others : List Visit} (here : Made isAsync visits before middle)
    (there : Made isAsync others middle after) : Made isAsync (visits ++ others) before after where
  proper := List.forall_mem_append.mpr ⟨here.proper, there.proper⟩
  registry := by
    rw [there.registry, here.registry, Visit.leaves_append, entriesOf, entriesOf, entriesOf,
      List.map_append, List.foldl_append]
  calls := fun known => by
    rw [List.forall_mem_append] at known
    rw [there.calls known.2, here.calls known.1, List.filterMap_append, List.append_assoc]

/-- A visit that succeeds has registered its helper, and returns its name. -/
theorem visit_ok (products : ∀ group callable, Adds isAsync [] (produce group callable))
    (returns : visit produce isAsync single before = (.ok names, after)) :
    names = (Visit.leaves [single]).map Prod.fst ∧ Made isAsync [single] before after := by
  cases single with
  | register name callable =>
      obtain ⟨added, rest, split, valid, registry, all⟩ := adds_leaf name callable before
      rw [visit] at returns
      rw [returns] at registry all
      obtain ⟨rfl, rfl⟩ := all names rfl
      rw [List.append_nil] at split
      subst split
      refine ⟨rfl, ?_, registry, fun _ => ?_⟩
      · exact List.forall_mem_singleton.mpr (valid _ (List.mem_singleton_self _))
      · have same := (callsNothing_register isAsync name callable).bind
          (fun entry _ => rfl : ∀ entry, CallsNothing (pure [entry.name])) before
        rw [returns] at same
        exact same.trans (List.append_nil _).symm
  | call factory =>
      cases returns
      exact ⟨rfl, by simp [Visit.isProper], rfl, fun _ => rfl⟩
  | produce group callable =>
      obtain ⟨added, rest, split, -, registry, all⟩ := products group callable before
      rw [visit] at returns
      rw [returns] at registry all
      obtain ⟨rfl, rfl⟩ := all names rfl
      rw [List.append_nil] at split
      subst split
      refine ⟨rfl, by simp [Visit.isProper], registry, fun known => ?_⟩
      cases known _ (List.mem_singleton_self _)
  | refuse malformed =>
      obtain ⟨⟨failure, fails⟩, -⟩ := rejects_refuseMalformed malformed before
      rw [visit] at returns
      rw [returns] at fails
      cases fails

theorem visitAll_ok (products : ∀ group callable, Adds isAsync [] (produce group callable))
    (returns : visitAll produce isAsync visits before = (.ok names, after)) :
    names = (Visit.leaves visits).map Prod.fst ∧ Made isAsync visits before after := by
  induction visits generalizing before names with
  | nil =>
      cases returns
      exact ⟨rfl, .nothing _⟩
  | cons first rest inductionHypothesis =>
      rw [visitAll] at returns
      obtain ⟨here, middle, makes, further⟩ := bind_ok_cases returns
      obtain ⟨there, last, makesRest, ends⟩ := bind_ok_cases further
      cases ends
      obtain ⟨rfl, made⟩ := visit_ok products makes
      obtain ⟨rfl, madeRest⟩ := inductionHypothesis makesRest
      refine ⟨?_, made.append madeRest⟩
      rw [← List.map_append, ← Visit.leaves_append]
      rfl

/-- A visit that fails has registered nothing. It is refused with a report if it is not in order,
and a helper was called in the place of a factory otherwise. -/
theorem visit_error (products : ∀ group callable, Adds isAsync [] (produce group callable))
    (fails : visit produce isAsync single before = (.error stop, after))
    (heard : after.unwritten = before.unwritten) :
    after.registry = before.registry ∧
      (single.isProper = false →
        after.calls = before.calls ∧ (single.IsShown → InvalidArgument stop)) ∧
      (single.isProper = true → single.isKnown = false) := by
  cases single with
  | register name callable =>
      rw [visit] at fails
      cases valid : isHelperName name with
      | true =>
          have granted := (granted?_text name callable).trans (if_pos valid)
          rw [bind_eq] at fails
          rcases registers : register isAsync (.text name) (.callable callable) before with
            ⟨other | entry, reached⟩ <;> rw [registers] at fails <;> cases fails
          have succeeds := register_heard granted
            ((congrArg (fun ended => ended.2.unwritten) registers).trans heard)
          rw [registers] at succeeds
          cases succeeds
      | false =>
          rw [register_unnamed isAsync callable valid, refuse_bind] at fails
          generalize "helper name must be identifier-like, got " ++ quotedText name = reason at fails
          obtain ⟨-, same⟩ := @rejects_refuse (List String) (.text name) reason before
          have calls := @callsNothing_refuse (List String) (.text name) reason before
          rw [fails] at same calls
          exact ⟨same, fun _ => ⟨calls, fun _ => refuse_heard fails heard⟩, fun isValid =>
            absurd (valid.symm.trans isValid) Bool.false_ne_true⟩
  | call factory => cases fails
  | produce group callable =>
      obtain ⟨added, rest, split, -, registry, -⟩ := products group callable before
      rw [visit] at fails
      rw [fails] at registry
      obtain ⟨rfl, -⟩ := List.append_eq_nil_iff.mp split.symm
      exact ⟨registry, nofun, fun _ => rfl⟩
  | refuse malformed =>
      obtain ⟨-, same⟩ := rejects_refuseMalformed malformed before
      have calls := @callsNothing_refuseMalformed (List String) malformed before
      rw [visit] at fails
      rw [fails] at same calls
      exact ⟨same, fun _ => ⟨calls, refuseMalformed_heard fails heard⟩, nofun⟩

theorem blind_visit (products : ∀ group callable, Blind (produce group callable))
    (single : Visit) : Blind (visit produce isAsync single) := by
  cases single with
  | register name callable => exact (blind_register _ _ _).bind fun _ => blind_pure _
  | call factory => exact (CacheState.blind_noteCall _ _).bind fun _ => blind_pure _
  | produce group callable => exact products group callable
  | refuse malformed => exact blind_refuseMalformed malformed

theorem blind_visitAll (products : ∀ group callable, Blind (produce group callable))
    (visits : List Visit) : Blind (visitAll produce isAsync visits) := by
  induction visits with
  | nil => exact blind_pure _
  | cons first rest inductionHypothesis =>
      exact (blind_visit products first).bind fun _ => inductionHypothesis.bind fun _ => blind_pure _

/-- Visits that do not all succeed have been made up to the first that fails. -/
theorem visitAll_error (fails : visitAll produce isAsync visits before = (.error stop, after)) :
    ∃ front bad rest names middle, visits = front ++ bad :: rest ∧
      visitAll produce isAsync front before = (.ok names, middle) ∧
      visit produce isAsync bad middle = (.error stop, after) := by
  induction visits generalizing before with
  | nil => cases fails
  | cons first rest inductionHypothesis =>
      rw [visitAll, bind_eq] at fails
      rcases makes : visit produce isAsync first before with ⟨other | here, reached⟩ <;>
        rw [makes] at fails
      · cases fails
        exact ⟨[], first, rest, [], before, rfl, rfl, makes⟩
      · dsimp only at fails
        rw [bind_eq] at fails
        rcases makesRest : visitAll produce isAsync rest reached with ⟨other | there, last⟩ <;>
          rw [makesRest] at fails <;> cases fails
        obtain ⟨front, bad, behind, names, middle, rfl, madeFront, badFails⟩ :=
          inductionHypothesis makesRest
        refine ⟨first :: front, bad, behind, here ++ names, middle, rfl, ?_, badFails⟩
        rw [visitAll, bind_eq, makes]
        dsimp only
        rw [bind_eq, madeFront]
        rfl

/-- A visit that is not in order ends the visits. -/
theorem visitAll_bad {rest : List Visit}
    (madeFront : visitAll produce isAsync front before = (.ok names, middle))
    (improper : bad.isProper = false) :
    ∃ stop after, visitAll produce isAsync (front ++ bad :: rest) before = (.error stop, after) ∧
      visit produce isAsync bad middle = (.error stop, after) := by
  have fails : ∃ failure, (visit produce isAsync bad middle).1 = .error (.failed failure) := by
    cases bad with
    | register name callable =>
        rw [visit, register_unnamed isAsync callable improper, refuse_bind]
        exact (rejects_refuse _ _ middle).1
    | call factory => cases improper
    | produce group callable => cases improper
    | refuse malformed => exact (rejects_refuseMalformed malformed middle).1
  obtain ⟨failure, fails⟩ := fails
  rw [visitAll_append, bind_eq, madeFront]
  dsimp only
  rw [bind_eq, visitAll, bind_eq]
  rcases makes : visit produce isAsync bad middle with ⟨stop | here, after⟩ <;>
    rw [makes] at fails <;> cases fails
  exact ⟨_, after, rfl, rfl⟩

/-- What is left when visits stop, if the log notes everything. -/
theorem visitAll_stops (products : ∀ group callable, Adds isAsync [] (produce group callable))
    (blind : ∀ group callable, Blind (produce group callable))
    (fails : visitAll produce isAsync visits before = (.error stop, after))
    (heard : after.unwritten = before.unwritten) :
    ∃ front bad rest names middle, visits = front ++ bad :: rest ∧
      visitAll produce isAsync front before = (.ok names, middle) ∧
      visit produce isAsync bad middle = (.error stop, after) ∧
      after.unwritten = middle.unwritten ∧ after.registry = middle.registry ∧
      (bad.isProper = false →
        after.calls = middle.calls ∧ (bad.IsShown → InvalidArgument stop)) ∧
      (bad.isProper = true → bad.isKnown = false) := by
  obtain ⟨front, bad, rest, names, middle, split, madeFront, badFails⟩ := visitAll_error fails
  have quiet := heard_behind (blind_visitAll blind front) (blind_visit blind bad) madeFront badFails
    heard
  exact ⟨front, bad, rest, names, middle, split, madeFront, badFails, quiet,
    visit_error products badFails quiet⟩

end Runs

/-! ### Products of helpers -/

section Products

variable {isAsync : Bool} {visits : List Visit}

theorem adds_refusals {produce : Option String → Callable → CacheAction (List String)}
    (areRefusals : Visit.AreRefusals visits) :
    Adds isAsync [] (visitAll produce isAsync visits) := by
  cases visits with
  | nil => exact adds_nothing
  | cons first rest =>
      obtain ⟨⟨malformed, rfl⟩, -⟩ := List.forall_mem_cons.mp areRefusals
      exact ((rejects_refuseMalformed malformed).bind _).adds

theorem adds_visitProduct (limits : Limits) (current : Option Nat) (group : Option String)
    (callable : Callable) : Adds isAsync [] (visitProduct limits current isAsync group callable) := by
  refine .after (callable.quiet_call (quiet_runRoutine limits current) .none) fun made => ?_
  split
  · exact adds_refusals (Source.visits_ofValue group _)
  · exact adds_refusals (Source.visits_ofValue group _)
  · exact adds_refusals (Source.visits_ofValue group _)
  · exact (rejects_refuse _ _).adds

theorem blind_callBare (limits : Limits) (current : Option Nat) (callable : Callable) :
    Blind (callBare limits current callable) :=
  callable.composed_call (fun _ => Blind) (composed_runRoutine (fun _ => Blind) limits current) .none

theorem blind_visitProduct (limits : Limits) (current : Option Nat) (group : Option String)
    (callable : Callable) : Blind (visitProduct limits current isAsync group callable) := by
  refine (blind_callBare limits current callable).bind fun made => ?_
  split
  · exact blind_visitAll (fun _ _ => blind_pure _) _
  · exact blind_visitAll (fun _ _ => blind_pure _) _
  · exact blind_visitAll (fun _ _ => blind_pure _) _
  · exact blind_refuse _ _

/-- Why a helper in the place of a factory is of no use: it fails itself, or what it makes is
refused with a report. -/
def ProductFails
    (limits : Limits)
    (current : Option Nat)
    (group : Option String)
    (callable : Callable)
    (before : CacheState)
    (stop : Stop) : Prop :=
  (callBare limits current callable before).1 = .error stop ∨
    ∃ made, (callBare limits current callable before).1 = .ok made ∧
      ((∀ visit ∈ (Source.ofValue made).visits group, visit.IsShown) → InvalidArgument stop)

theorem visitProduct_error {limits : Limits} {current : Option Nat} {group : Option String}
    {callable : Callable} {before after : CacheState} {stop : Stop}
    (fails : visitProduct limits current isAsync group callable before = (.error stop, after))
    (heard : after.unwritten = before.unwritten) :
    ProductFails limits current group callable before stop := by
  rw [visitProduct, bind_eq] at fails
  rcases calls : callBare limits current callable before with ⟨other | made, middle⟩ <;>
    rw [calls] at fails
  · cases fails
    exact .inl (by rw [calls])
  · refine .inr ⟨made, by rw [calls], fun shown => ?_⟩
    have quiet {action : CacheAction (List String)} (blind : Blind action)
        (ends : action middle = (.error stop, after)) : after.unwritten = middle.unwritten :=
      heard_behind (blind_callBare limits current callable) blind calls ends heard
    have collected (visited : visitAll (fun _ _ => return []) isAsync
        ((Source.ofValue made).visits group) middle = (.error stop, after)) :
        InvalidArgument stop := by
      obtain ⟨front, bad, rest, names, between, split, -, -, -, -, improper, -⟩ :=
        visitAll_stops (fun _ _ => adds_nothing) (fun _ _ => blind_pure _) visited
          (quiet (blind_visitAll (fun _ _ => blind_pure _) _) visited)
      have member : bad ∈ (Source.ofValue made).visits group := by
        rw [split]
        exact List.mem_append_right _ List.mem_cons_self
      obtain ⟨malformed, rfl⟩ := Source.visits_ofValue group made bad member
      exact (improper rfl).2 (shown _ member)
    dsimp only at fails
    split at fails
    · exact collected fails
    · exact collected fails
    · exact collected fails
    · exact refuse_heard fails (quiet (blind_refuse _ _) fails)

end Products

/-! ### Requests -/

/-- A request to register a source below a prefix acts as the sequence of the visits of the
source. -/
structure Sequential
    (limits : Limits)
    (current : Option Nat)
    (isAsync : Bool)
    (group : Option String)
    (source : Source)
    (request : CacheAction (List String)) : Prop where
  /-- It makes the visits one after the other. -/
  walks : request = visitAll (visitProduct limits current isAsync) isAsync (source.visits group)
  /-- If it succeeds it returns the names of all helpers of the source, which are registered. -/
  returns : ∀ {before after : CacheState} {names : List String},
    request before = (.ok names, after) →
      names = (Visit.leaves (source.visits group)).map Prod.fst ∧
        Made isAsync (source.visits group) before after
  /-- It succeeds if nothing is malformed or misnamed, and no helper is called as a factory. -/
  succeeds : ∀ {before : CacheState},
    (∀ visit ∈ source.visits group, visit.isProper = true ∧ visit.isKnown = true) →
      (request before).2.unwritten = before.unwritten →
        ∃ names, (request before).1 = .ok names
  /-- It stops at the first thing that is malformed or misnamed, with a report and with the helpers
  in front of it registered, or else at a helper that makes nothing of use. -/
  stops : ∀ {before after : CacheState} {stop : Stop}, request before = (.error stop, after) →
    after.unwritten = before.unwritten → ∃ front bad rest names middle,
      source.visits group = front ++ bad :: rest ∧
      visitAll (visitProduct limits current isAsync) isAsync front before = (.ok names, middle) ∧
      Made isAsync front before middle ∧ after.registry = middle.registry ∧
      (bad.isProper = false ∧ after.calls = middle.calls ∧ (bad.IsShown → InvalidArgument stop) ∨
        ∃ below helper, bad = .produce below helper ∧
          ProductFails limits current below helper middle stop)
  /-- It does stop there. -/
  refuses : ∀ {before middle : CacheState} {front rest : List Visit} {bad : Visit}
    {names : List String}, source.visits group = front ++ bad :: rest →
      visitAll (visitProduct limits current isAsync) isAsync front before = (.ok names, middle) →
      bad.isProper = false → bad.IsShown → (request before).2.unwritten = before.unwritten →
        (∃ stop, (request before).1 = .error stop ∧ InvalidArgument stop) ∧
        (request before).2.calls = middle.calls ∧
        (request before).2.registry =
          (entriesOf isAsync (Visit.leaves front)).foldl Registry.store before.registry

theorem sequential_walkSource (limits : Limits) (current : Option Nat) (isAsync : Bool)
    (group : Option String) (source : Source) :
    Sequential limits current isAsync group source
      (walkSource limits current isAsync group source) where
  walks := walkSource_eq limits current group source
  returns := fun returned => by
    rw [walkSource_eq] at returned
    exact visitAll_ok (adds_visitProduct limits current) returned
  succeeds := fun {before} proper heard => by
    rw [walkSource_eq] at heard ⊢
    rcases ends : visitAll (visitProduct limits current isAsync) isAsync (source.visits group)
      before with ⟨stop | names, after⟩ <;> rw [ends] at heard
    · obtain ⟨front, bad, rest, names, middle, split, -, -, -, -, -, unknown⟩ :=
        visitAll_stops (adds_visitProduct limits current) (blind_visitProduct limits current) ends
          heard
      obtain ⟨isProper, isKnown⟩ := proper bad (by
        rw [split]
        exact List.mem_append_right _ List.mem_cons_self)
      rw [unknown isProper] at isKnown
      cases isKnown
    · exact ⟨names, rfl⟩
  stops := fun fails heard => by
    rw [walkSource_eq] at fails
    obtain ⟨front, bad, rest, names, middle, split, madeFront, badFails, quiet, registry, improper,
      unknown⟩ := visitAll_stops (adds_visitProduct limits current)
        (blind_visitProduct limits current) fails heard
    refine ⟨front, bad, rest, names, middle, split, madeFront,
      (visitAll_ok (adds_visitProduct limits current) madeFront).2, registry, ?_⟩
    cases isProper : bad.isProper with
    | false => exact .inl ⟨rfl, improper isProper⟩
    | true =>
        cases bad with
        | produce below helper =>
            exact .inr ⟨below, helper, rfl, visitProduct_error badFails quiet⟩
        | _ => cases unknown isProper
  refuses := fun {before middle front rest bad names} split madeFront improper shown heard => by
    rw [walkSource_eq, split] at heard ⊢
    have made := (visitAll_ok (adds_visitProduct limits current) madeFront).2
    obtain ⟨stop, after, ends, badFails⟩ := @visitAll_bad _ _ _ _ _ _ _ rest madeFront improper
    rw [ends] at heard ⊢
    obtain ⟨registry, refused, -⟩ := visit_error (adds_visitProduct limits current) badFails
      (heard_behind (blind_visitAll (blind_visitProduct limits current) front)
        (blind_visit (blind_visitProduct limits current) bad) madeFront badFails heard)
    obtain ⟨calls, invalid⟩ := refused improper
    exact ⟨⟨stop, rfl, invalid shown⟩, calls, registry.trans made.registry⟩

/-- A prefix that is no helper name is refused with a report. -/
theorem registerGroup_invalid {limits : Limits} {current : Option Nat} {isAsync : Bool}
    {group : Value} {source : Source} {before : CacheState} (invalid : isValidName group = false)
    (heard : (registerGroup limits current isAsync group source before).2.unwritten =
      before.unwritten) (shown : ∃ text, group.quoted = .ok text) :
    ∃ stop, (registerGroup limits current isAsync group source before).1 = .error stop ∧
      InvalidArgument stop := by
  have isRefused : registerGroup limits current isAsync group source =
      registerGroup.refuseGroup group := by
    unfold registerGroup
    cases group with
    | text start => exact if_neg (Bool.eq_false_iff.mp invalid)
    | _ => rfl
  obtain ⟨⟨failure, fails⟩, -⟩ := registerGroup_refused limits current invalid source before
  refine ⟨_, fails, ?_⟩
  obtain ⟨text, quotes⟩ := shown
  rw [isRefused] at heard fails
  rw [registerGroup.refuseGroup, quotes] at heard fails
  exact refuse_heard (Prod.ext fails rfl) heard

end Cache

/-- A batch is registered as the sequence of the visits of its source, and so is a group, below its
prefix. A group with a prefix that is no name is refused with a report and registers nothing. The
group of a mapping is the batch in which the mapping stands under the prefix. -/
theorem batches_sequential (limits : Limits) (current : Option Nat) (isAsync : Bool) :
    (∀ source, Cache.Sequential limits current isAsync none source
      (Cache.registerBatch limits current isAsync source)) ∧
    (∀ start source, isHelperName start = true →
      Cache.Sequential limits current isAsync (some start) source
        (Cache.registerGroup limits current isAsync (.text start) source)) ∧
    (∀ group source before, isValidName group = false →
      (Cache.registerGroup limits current isAsync group source before).2.registry =
          before.registry ∧
        ((Cache.registerGroup limits current isAsync group source before).2.unwritten =
            before.unwritten → (∃ text, group.quoted = .ok text) →
          ∃ stop, (Cache.registerGroup limits current isAsync group source before).1 =
            .error stop ∧ Cache.InvalidArgument stop)) ∧
    ∀ start entries, isHelperName start = true →
      Cache.registerGroup limits current isAsync (.text start) (.mapping entries) =
        Cache.registerBatch limits current isAsync (.mapping [(.text start, .mapping entries)]) := by
  have grouped (start : String) (source : Source) (valid : isHelperName start = true) :
      Cache.registerGroup limits current isAsync (.text start) source =
        Cache.walkSource limits current isAsync (some start) source := if_pos valid
  refine ⟨Cache.sequential_walkSource limits current isAsync none, ?_, ?_, ?_⟩
  · intro start source valid
    rw [grouped start source valid]
    exact Cache.sequential_walkSource limits current isAsync (some start) source
  · intro group source before invalid
    exact ⟨(Cache.registerGroup_refused limits current invalid source before).2, fun heard shown =>
      Cache.registerGroup_invalid invalid heard shown⟩
  · intro start entries valid
    have same : (Source.mapping [(.text start, .mapping entries)]).visits none =
        (Source.mapping entries).visits (some start) := by
      simp only [Source.visits, Source.visitsOfEntries, Cache.memberName, List.append_nil]
    rw [grouped start _ valid, Cache.registerBatch, Cache.walkSource_eq, Cache.walkSource_eq, same]

namespace Sample

/-- A value that is no helper, behind a nested mapping and a factory. -/
def nestedSources : Source :=
  .list [
    .mapping [
      (.text "g", .mapping [(.text "a", .callable prompt)]),
      (.text "b", .callable prompt)],
    .callable (.factory "make" (.tuple [.mapping [(.text "c", .callable prompt)]])),
    .mapping [(.text "d", .plain (.int 5)), (.text "e", .callable prompt)]]

def untouched (log : Option LogSettings) : CacheState :=
  .initial .standard false false log

def grouped (source : Source) : Except Stop (List String) × CacheState :=
  Cache.registerGroup ⟨3, 10⟩ none false (.text "p") source (untouched none)

/-- What stands in front of the value is registered, and the factory was called once. -/
theorem sequential_nested :
    (∃ stop, (grouped nestedSources).1 = .error stop ∧ Cache.InvalidArgument stop) ∧
      (grouped nestedSources).2.registry.names = ["p.g.a", "p.b", "p.c"] ∧
      (grouped nestedSources).2.calls.map CallNote.label = ["make"] ∧
      Cache.registerGroup ⟨3, 10⟩ none false (.text "p") (.mapping []) =
        Cache.registerBatch ⟨3, 10⟩ none false (.mapping [(.text "p", .mapping [])]) ∧
      (Cache.registerGroup ⟨3, 10⟩ none false (.int 5) nestedSources
        (untouched none)).2.registry = (untouched none).registry := by
  obtain ⟨-, groups, invalid, same⟩ := batches_sequential ⟨3, 10⟩ none false
  have split : nestedSources.visits (some "p") =
      [.register "p.g.a" prompt, .register "p.b" prompt, .call "make", .register "p.c" prompt] ++
        .refuse (.member "p.d" "int") :: [.register "p.e" prompt] := by
    cbv
  have makes : Cache.visitAll (Cache.visitProduct ⟨3, 10⟩ none false) false
      [.register "p.g.a" prompt, .register "p.b" prompt, .call "make", .register "p.c" prompt]
      (untouched none) = (.ok ["p.g.a", "p.b", "p.c"], (Cache.visitAll
        (Cache.visitProduct ⟨3, 10⟩ none false) false [.register "p.g.a" prompt,
          .register "p.b" prompt, .call "make", .register "p.c" prompt] (untouched none)).2) :=
    Prod.ext (by cbv) rfl
  obtain ⟨refused, calls, registry⟩ := (groups "p" nestedSources (by decide)).refuses split makes rfl
    trivial (by cbv)
  refine ⟨refused, ?_, ?_, same "p" [] (by decide), (invalid (.int 5) nestedSources _ rfl).1⟩
  · rw [grouped, registry]
    cbv
  · rw [grouped, calls]
    cbv

/-- A helper, and a value that is none. -/
def halfSound : Source :=
  .mapping [(.text "b", .callable prompt), (.text "a", .plain (.int 5))]

/-- The kind of the failure of a batch, and the names that are registered afterwards. -/
def batched (log : Option LogSettings) : Option String × List String :=
  let ended := Cache.registerBatch ⟨3, 10⟩ none false halfSound (untouched log)
  match ended.1 with
  | .error (.failed failure) => (some failure.kindName, ended.2.registry.names)
  | _ => (none, ended.2.registry.names)

/-- A value that is no helper is refused with a report, but not if the log cannot note it. -/
theorem batch_unnoted :
    batched none = (some "HelperCacheError", ["b"]) ∧
      batched (some settings) = (some "TypeError", ["b"]) := by
  have split : halfSound.visits none = [.register "b" prompt, .refuse (.member "a" "int")] := by
    cbv
  simp only [batched, Cache.registerBatch, Cache.walkSource_eq, split]
  decide +kernel

end Sample

end DeferredText
