import DeferredText.Proofs.Family
import DeferredText.Proofs.Quiet

/-!
Contract: calls that are recorded one after the other, and the texts their tokens are in.

A token that is handed out goes into a text, or into the arguments of a call that is
recorded later and hands out a token of its own. So no token is ever lost.

Owns: values of expressions in order, what recording calls changes, and the thread of
tokens through recorded calls.

Does not own: which expressions record calls (`Proofs.Lockstep`).
-/

namespace DeferredText

open CacheState

/-! ### Evaluation in order -/

theorem Evaluate.setKeyword_of_notMem {collected : List (String × Value)} {name : String}
    {value : Value} (absent : name ∉ collected.map Prod.fst) :
    Arguments.setKeyword collected name value = collected ++ [(name, value)] := by
  induction collected with
  | nil => rfl
  | cons pair rest inductionHypothesis =>
      rw [List.map_cons, List.mem_cons, not_or] at absent
      have distinct : (pair.1 == name) = false := by
        rw [beq_eq_false_iff_ne]
        exact Ne.symm absent.1
      rw [Arguments.setKeyword, distinct, inductionHypothesis absent.2]
      rfl

theorem Evaluate.insert_of_new {collected : Entries} {key value : Value}
    (absent : ∀ entry ∈ collected, key.same entry.1 = false) :
    Entries.insert collected key value = collected ++ [(key, value)] := by
  induction collected with
  | nil => rfl
  | cons entry rest inductionHypothesis =>
      rw [Entries.insert, absent entry List.mem_cons_self, inductionHypothesis fun other member =>
        absent other (List.mem_cons_of_mem entry member)]
      rfl

namespace Evaluate

variable {σ : Type} {engine : Engine σ} {scope : Scope σ} {source : String} {before after : σ}
  {values : List Value}

/-- The value of the first expression, and then those of the others. -/
theorem items_cons {expression : Expr} {rest : List Expr}
    (evaluates : items engine scope source (expression :: rest) before = (.ok values, after)) :
    ∃ first others between, values = first :: others ∧
      value engine scope source expression before = (.ok first, between) ∧
      items engine scope source rest between = (.ok others, after) := by
  rw [items, Action.bind_eq] at evaluates
  rcases head : value engine scope source expression before with ⟨stop | first, between⟩
  · rw [head] at evaluates
    cases evaluates
  · rw [head] at evaluates
    dsimp only at evaluates
    rw [Action.bind_eq] at evaluates
    rcases tail : items engine scope source rest between with ⟨stop | others, last⟩
    · rw [tail] at evaluates
      cases evaluates
    · rw [tail] at evaluates
      cases evaluates
      exact ⟨first, others, between, rfl, rfl, tail⟩

/-- The values of two lists of expressions, one after the other. -/
theorem items_append {first second : List Expr}
    (evaluates : items engine scope source (first ++ second) before = (.ok values, after)) :
    ∃ middle, items engine scope source first before = (.ok (values.take first.length), middle) ∧
      items engine scope source second middle = (.ok (values.drop first.length), after) := by
  induction first generalizing before values with
  | nil => exact ⟨before, rfl, evaluates⟩
  | cons expression rest inductionHypothesis =>
      obtain ⟨head, others, between, rfl, evaluated, tail⟩ := items_cons evaluates
      obtain ⟨middle, left, right⟩ := inductionHypothesis tail
      refine ⟨middle, ?_, right⟩
      rw [items]
      exact Action.bind_ok evaluated (Action.bind_ok left rfl)

theorem items_length {expressions : List Expr}
    (evaluates : items engine scope source expressions before = (.ok values, after)) :
    values.length = expressions.length := by
  induction expressions generalizing before values with
  | nil =>
      cases evaluates
      rfl
  | cons expression rest inductionHypothesis =>
      obtain ⟨head, others, between, rfl, -, tail⟩ := items_cons evaluates
      exact congrArg (· + 1) (inductionHypothesis tail)

/-- Keyword arguments of distinct names are evaluated one after the other. -/
theorem namedItems_eq {keywords : List (Option String × Expr)} {names : List String}
    {collected : List (String × Value)} (named : keywords.map Prod.fst = names.map some)
    (distinct : (collected.map Prod.fst ++ names).Nodup)
    (evaluates : items engine scope source (keywords.map Prod.snd) before = (.ok values, after)) :
    namedItems engine scope source collected keywords before =
      (.ok (collected ++ names.zip values), after) := by
  induction keywords generalizing names collected before values with
  | nil =>
      cases names with
      | nil =>
          cases evaluates
          rw [List.zip_nil_left, List.append_nil]
          rfl
      | cons name others => cases named
  | cons keyword rest inductionHypothesis =>
      cases names with
      | nil => cases named
      | cons name others =>
        obtain ⟨label, expression⟩ := keyword
        obtain ⟨rfl, namedRest⟩ := List.cons.inj named
        obtain ⟨first, found, between, rfl, head, tail⟩ := items_cons evaluates
        have absent : name ∉ collected.map Prod.fst := fun member =>
          (List.nodup_append.mp distinct).2.2 name member name List.mem_cons_self rfl
        have distinctNext : ((collected ++ [(name, first)]).map Prod.fst ++ others).Nodup := by
          rw [List.map_append, List.append_assoc]
          exact distinct
        rw [namedItems]
        apply Action.bind_ok head
        rw [setKeyword_of_notMem absent, inductionHypothesis namedRest distinctNext tail]
        simp

/-- Entries under distinct constant keys are evaluated one after the other. -/
theorem entries_eq {pairs : List (Option Expr × Expr)} {keys : List Value} {collected : Entries}
    (keyed : pairs.map Prod.fst = keys.map fun key => some (.constant key))
    (hashable : ∀ key ∈ keys, key.unhashable? = none)
    (distinct : (collected.map Prod.fst ++ keys).Pairwise fun earlier later =>
      later.same earlier = false)
    (evaluates : items engine scope source (pairs.map Prod.snd) before = (.ok values, after)) :
    entries engine scope source collected pairs before =
      (.ok (collected ++ keys.zip values), after) := by
  induction pairs generalizing keys collected before values with
  | nil =>
      cases keys with
      | nil =>
          cases evaluates
          rw [List.zip_nil_left, List.append_nil]
          rfl
      | cons key others => cases keyed
  | cons pair rest inductionHypothesis =>
      cases keys with
      | nil => cases keyed
      | cons key others =>
        obtain ⟨label, expression⟩ := pair
        obtain ⟨rfl, keyedRest⟩ := List.cons.inj keyed
        obtain ⟨first, found, between, rfl, head, tail⟩ := items_cons evaluates
        have absent : ∀ entry ∈ collected, key.same entry.1 = false := fun entry member =>
          (List.pairwise_append.mp distinct).2.2 entry.1 (List.mem_map_of_mem member) key
            List.mem_cons_self
        have inserts : insertEntry collected key first = .ok (collected ++ [(key, first)]) := by
          rw [insertEntry, hashable key List.mem_cons_self]
          exact congrArg Except.ok (insert_of_new absent)
        have distinctNext : ((collected ++ [(key, first)]).map Prod.fst ++ others).Pairwise
            fun earlier later => later.same earlier = false := by
          rw [List.map_append, List.append_assoc]
          exact distinct
        have constant : value engine scope source (.constant key) before = (.ok key, before) := by
          rw [value]
          rfl
        rw [entries]
        apply Action.bind_ok constant
        apply Action.bind_ok head
        rw [inserts]
        apply Action.bind_ok rfl
        rw [inductionHypothesis keyedRest (fun other member => hashable other
          (List.mem_cons_of_mem key member)) distinctNext tail]
        simp

/-- A call of a helper, when its arguments are evaluated. -/
theorem value_call {callee : Expr} {arguments : List Expr} {keywords : List (Option String × Expr)}
    {name : String} {names : List String} {operation : Operation σ}
    (called : callee.dottedName? = some name) (found : scope.helpers name = some operation)
    (named : keywords.map Prod.fst = names.map some) (distinct : names.Nodup)
    (evaluates : items engine scope source (arguments ++ keywords.map Prod.snd) before =
      (.ok values, after)) :
    value engine scope source (.call callee arguments keywords) before =
      operation (.pack arguments.length names values) after := by
  obtain ⟨middle, first, second⟩ := items_append evaluates
  have helps : helper scope source callee.dottedName? = (pure operation : Action σ _) := by
    rw [helper, called, Option.bind_some, found]
  have keyword := @namedItems_eq _ _ _ _ _ _ _ _ _ [] named distinct second
  rw [List.nil_append] at keyword
  rw [value, helps]
  apply Action.bind_ok rfl
  apply Action.bind_ok first
  exact Action.bind_ok keyword rfl

end Evaluate

/-! ### What is recorded -/

/-- The calls were recorded in a waitlist, and only other helpers were run. -/
structure Records
    (library : Library)
    (index : Nat)
    (calls : List Invocation)
    (before after : CacheState) : Prop where
  invocations : after.invocations = before.invocations ++ calls
  queue : after.queue index =
    before.queue index ++ List.range' before.invocations.length calls.length
  notes : library.ofNotes after.calls = library.ofNotes before.calls
  waitlists : after.waitlists.length = before.waitlists.length
  shape : after.shape = before.shape
  log : after.log = before.log
  ready : after.ready = before.ready

/-- The calls were recorded in the order in which their tokens are passed on, and every
token is in the texts or in an argument of a call behind its own. -/
structure Thread
    (library : Library)
    (known : List String)
    (calls : List Invocation)
    (texts : List String) : Prop where
  written : ∀ text ∈ texts, Written (known ++ calls.map Invocation.token) text
  defers : ∀ call ∈ calls, library.Defers call ∧ IsToken call.token
  arguments : ∀ earlier call later, calls = earlier ++ call :: later →
    ∀ text ∈ call.arguments.contents, Written (known ++ earlier.map Invocation.token) text
  alive : ∀ earlier call later, calls = earlier ++ call :: later →
    ∃ text ∈ texts ++ later.flatMap fun other => other.arguments.contents,
      containsText call.token text = true

variable {library : Library} {index : Nat} {known : List String}
  {calls first second : List Invocation} {texts more : List String}
  {before middle after : CacheState}

theorem Records.refl (library : Library) (index : Nat) (state : CacheState) :
    Records library index [] state state :=
  ⟨(List.append_nil _).symm, (List.append_nil _).symm, rfl, rfl, rfl, rfl, rfl⟩

theorem Records.trans (left : Records library index first before middle)
    (right : Records library index second middle after) :
    Records library index (first ++ second) before after where
  invocations := by rw [right.invocations, left.invocations, List.append_assoc]
  queue := by
    rw [right.queue, left.queue, left.invocations, List.append_assoc, List.length_append,
      List.length_append, ← List.range'_append_1]
  notes := right.notes.trans left.notes
  waitlists := right.waitlists.trans left.waitlists
  shape := right.shape.trans left.shape
  log := right.log.trans left.log
  ready := right.ready.trans left.ready

theorem thread_nil (written : ∀ text ∈ texts, Written known text) :
    Thread library known [] texts where
  written := by simpa using written
  defers := fun _ member => absurd member List.not_mem_nil
  arguments := fun earlier _ _ split => absurd split (by simp)
  alive := fun earlier _ _ split => absurd split (by simp)

/-- An item of two lists is one of the first list or one of the second. -/
theorem append_split {α : Type} {left right earlier later : List α} {item : α}
    (split : left ++ right = earlier ++ item :: later) :
    (∃ rest, left = earlier ++ item :: rest ∧ later = rest ++ right) ∨
      ∃ inner, earlier = left ++ inner ∧ right = inner ++ item :: later := by
  rcases List.append_eq_append_iff.mp split with ⟨inner, before, same⟩ | ⟨inner, within, same⟩
  · exact .inr ⟨inner, before, same⟩
  · rcases inner with _ | ⟨head, rest⟩
    · exact .inr ⟨[], by simpa using within.symm, same.symm⟩
    · rw [List.cons_append] at same
      obtain ⟨rfl, rest_eq⟩ := List.cons.inj same
      exact .inl ⟨rest, within, rest_eq⟩

theorem Thread.append (left : Thread library known first texts)
    (right : Thread library (known ++ first.map Invocation.token) second more) :
    Thread library known (first ++ second) (texts ++ more) where
  written := by
    intro text member
    rw [List.map_append, ← List.append_assoc]
    rcases List.mem_append.mp member with inLeft | inRight
    · exact (left.written text inLeft).mono fun token => List.mem_append_left _
    · exact right.written text inRight
  defers := fun call member =>
    (List.mem_append.mp member).elim (left.defers call) (right.defers call)
  arguments := by
    intro earlier call later split
    rcases append_split split with ⟨rest, within, -⟩ | ⟨inner, rfl, within⟩
    · exact left.arguments earlier call rest within
    · intro text member
      rw [List.map_append, ← List.append_assoc]
      exact right.arguments inner call later within text member
  alive := by
    intro earlier call later split
    rcases append_split split with ⟨rest, within, rfl⟩ | ⟨inner, rfl, within⟩
    · obtain ⟨text, member, found⟩ := left.alive earlier call rest within
      refine ⟨text, ?_, found⟩
      rw [List.flatMap_append]
      rcases List.mem_append.mp member with inTexts | inLater
      · exact List.mem_append_left _ (List.mem_append_left _ inTexts)
      · exact List.mem_append_right _ (List.mem_append_left _ inLater)
    · obtain ⟨text, member, found⟩ := right.alive inner call later within
      refine ⟨text, ?_, found⟩
      rw [List.append_assoc]
      exact List.mem_append_right _ member

/-- Other texts carry the thread on if they have all the tokens. -/
theorem Thread.carry (thread : Thread library known calls texts)
    (written : ∀ text ∈ more, Written (known ++ calls.map Invocation.token) text)
    (carried : ∀ token, IsToken token → ∀ text ∈ texts, containsText token text = true →
      ∃ other ∈ more, containsText token other = true) :
    Thread library known calls more where
  written := written
  defers := thread.defers
  arguments := thread.arguments
  alive := by
    intro earlier call later split
    obtain ⟨text, member, found⟩ := thread.alive earlier call later split
    rcases List.mem_append.mp member with inTexts | inLater
    · have isToken := (thread.defers call (by simp [split])).2
      obtain ⟨other, inMore, again⟩ := carried call.token isToken text inTexts found
      exact ⟨other, List.mem_append_left _ inMore, again⟩
    · exact ⟨text, List.mem_append_right _ inLater, found⟩

/-- A call takes over the texts of its arguments and leaves its token. -/
theorem Thread.record {call : Invocation} (thread : Thread library known calls texts)
    (defers : library.Defers call) (isToken : IsToken call.token)
    (contents : call.arguments.contents = texts) :
    Thread library known (calls ++ [call]) [call.token] where
  written := by
    intro text member
    rw [List.mem_singleton.mp member]
    exact written_token isToken (by simp)
  defers := by
    intro other member
    rcases List.mem_append.mp member with old | new
    · exact thread.defers other old
    · rw [List.mem_singleton.mp new]
      exact ⟨defers, isToken⟩
  arguments := by
    intro earlier other later split text member
    rcases append_split split with ⟨rest, within, -⟩ | ⟨inner, rfl, within⟩
    · exact thread.arguments earlier other rest within text member
    · obtain ⟨rfl, rfl, -⟩ : inner = [] ∧ call = other ∧ later = [] := by
        rcases inner with _ | ⟨head, rest⟩ <;> simp_all
      rw [List.append_nil]
      exact thread.written text (contents ▸ member)
  alive := by
    intro earlier other later split
    rcases append_split split with ⟨rest, within, rfl⟩ | ⟨inner, rfl, within⟩
    · obtain ⟨text, member, found⟩ := thread.alive earlier other rest within
      refine ⟨text, ?_, found⟩
      rw [List.flatMap_append]
      rcases List.mem_append.mp member with inTexts | inLater
      · rw [← contents] at inTexts
        exact List.mem_append_right _ (List.mem_append_right _ (by simpa using inTexts))
      · exact List.mem_append_right _ (List.mem_append_left _ inLater)
    · obtain ⟨-, rfl, -⟩ : inner = [] ∧ call = other ∧ later = [] := by
        rcases inner with _ | ⟨head, rest⟩ <;> simp_all
      exact ⟨call.token, List.mem_append_left _ List.mem_cons_self,
        (containsText_iff _ _).mpr ⟨"", "", by simp⟩⟩

end DeferredText
