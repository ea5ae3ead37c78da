import DeferredText.Proofs.Contents
import DeferredText.Proofs.Tokens

/-!
Contract: texts in which tokens of other calls stand, and what results make of them.

A text that was written with tokens consists of plain parts and tokens. Replacing the
tokens one after the other by plain results is replacing each of them where it stands.

Owns: written texts, and results applied to them and to the values they are part of.

Does not own: which texts are written in a rendering (`Proofs.Lockstep`).
-/

namespace DeferredText

open Fragment

/-! ### Written texts -/

namespace Fragment

theorem arePlain_literal {content : String} (plain : IsPlain content) :
    ArePlain [.literal content] := by
  refine ⟨?_, fun token member => nomatch List.mem_singleton.mp member⟩
  intro other member
  cases List.mem_singleton.mp member
  exact plain

theorem arePlain_placeholder {token : String} (isToken : IsToken token) :
    ArePlain [.placeholder token] := by
  constructor
  · intro content member
    cases List.mem_singleton.mp member
  · intro other member
    cases List.mem_singleton.mp member
    exact isToken

end Fragment

/-- The text consists of plain parts and of some of the tokens. -/
def Written (tokens : List String) (text : String) : Prop :=
  ∃ fragments, ArePlain fragments ∧
    (∀ token, .placeholder token ∈ fragments → token ∈ tokens) ∧ join id fragments = text

section Written

variable {tokens more : List String} {token text left right : String}

theorem Written.mono (written : Written tokens text) (among : ∀ token ∈ tokens, token ∈ more) :
    Written more text := by
  obtain ⟨fragments, plain, known, whole⟩ := written
  exact ⟨fragments, plain, fun token member => among token (known token member), whole⟩

theorem written_plain (tokens : List String) (plain : IsPlain text) : Written tokens text := by
  refine ⟨[.literal text], arePlain_literal plain, ?_, String.append_empty⟩
  exact fun token member => nomatch List.mem_singleton.mp member

theorem written_token (isToken : IsToken token) (member : token ∈ tokens) :
    Written tokens token := by
  refine ⟨[.placeholder token], arePlain_placeholder isToken, ?_, String.append_empty⟩
  intro other among
  cases List.mem_singleton.mp among
  exact member

theorem Written.append (first : Written tokens left) (second : Written tokens right) :
    Written tokens (left ++ right) := by
  obtain ⟨firsts, firstPlain, firstKnown, rfl⟩ := first
  obtain ⟨seconds, secondPlain, secondKnown, rfl⟩ := second
  refine ⟨firsts ++ seconds, arePlain_append.mpr ⟨firstPlain, secondPlain⟩, ?_, join_append _ _⟩
  intro token member
  exact (List.mem_append.mp member).elim (firstKnown token) (secondKnown token)

theorem isPlain_join {meaning : String → String} {fragments : List Fragment}
    (plain : ∀ fragment ∈ fragments, IsPlain (fragment.written meaning)) :
    IsPlain (join meaning fragments) := by
  induction fragments with
  | nil => exact isPlain_empty
  | cons fragment rest inductionHypothesis =>
      have others := inductionHypothesis fun other member =>
        plain other (List.mem_cons_of_mem fragment member)
      exact isPlain_append (plain fragment List.mem_cons_self) others

theorem settles_id : Settles id :=
  fun _ => .inl rfl

/-- A token occurs in a written text where it stands. -/
theorem containsText_written {fragments : List Fragment} (plain : ArePlain fragments)
    (isToken : IsToken token) :
    containsText token (join id fragments) = true ↔ .placeholder token ∈ fragments :=
  containsText_join (plain.onlyAsFragment settles_id isToken) rfl

theorem containsText_append (found : containsText token left = true ∨ containsText token right = true) :
    containsText token (left ++ right) = true := by
  rw [containsText_iff]
  rcases found with inLeft | inRight
  · obtain ⟨before, after, rfl⟩ := (containsText_iff _ _).mp inLeft
    exact ⟨before, after ++ right, by simp only [String.append_assoc]⟩
  · obtain ⟨before, after, rfl⟩ := (containsText_iff _ _).mp inRight
    exact ⟨left ++ before, after, by simp only [String.append_assoc]⟩

end Written

/-! ### Results -/

namespace Results

/-- Plain results of distinct standard tokens. -/
structure Clean (results : Results) : Prop where
  distinct : (results.map Prod.fst).Nodup
  tokens : ∀ pair ∈ results, IsToken pair.1
  plain : ∀ pair ∈ results, IsPlain pair.2

variable {results earlier later : Results} {pair : String × String} {token text : String}
  {fragments : List Fragment}

theorem applyTo_cons (text : String) :
    applyTo (pair :: results) text = results.applyTo (replaceText pair.1 pair.2 text) := by
  rfl

theorem applyTo_both (text : String) :
    applyTo (earlier ++ later) text = later.applyTo (earlier.applyTo text) :=
  List.foldl_append

theorem clean_nil : Clean [] :=
  ⟨List.nodup_nil, fun _ member => absurd member List.not_mem_nil,
    fun _ member => absurd member List.not_mem_nil⟩

theorem Clean.sublist (clean : Clean results) (fewer : earlier.Sublist results) :
    Clean earlier where
  distinct := clean.distinct.sublist (fewer.map Prod.fst)
  tokens := fun pair member => clean.tokens pair (fewer.subset member)
  plain := fun pair member => clean.plain pair (fewer.subset member)

/-- One more token gets a plain result. -/
theorem Clean.snoc (clean : Clean results) (isToken : IsToken token)
    (unset : token ∉ results.map Prod.fst) (plain : IsPlain text) :
    Clean (results ++ [(token, text)]) where
  distinct := by
    rw [List.map_append, List.nodup_append]
    refine ⟨clean.distinct, by simp, ?_⟩
    intro old member new single same
    rw [same, List.mem_singleton.mp single] at member
    exact unset member
  tokens := by
    intro pair member
    rcases List.mem_append.mp member with old | new
    · exact clean.tokens pair old
    · rw [List.mem_singleton.mp new]
      exact isToken
  plain := by
    intro pair member
    rcases List.mem_append.mp member with old | new
    · exact clean.plain pair old
    · rw [List.mem_singleton.mp new]
      exact plain

/-- Tokens that stand for themselves or for plain texts are replaced where they stand. -/
private theorem Clean.applyTo_join_from (clean : Clean results) {meaning : String → String}
    (settles : Settles meaning) (unset : ∀ token ∈ results.map Prod.fst, meaning token = token)
    (plain : ArePlain fragments) :
    results.applyTo (join meaning fragments) =
      join (fun token => results.applyTo (meaning token)) fragments := by
  induction results generalizing meaning with
  | nil => rfl
  | cons pair rest inductionHypothesis =>
      have isToken := clean.tokens pair List.mem_cons_self
      have absent : pair.1 ∉ rest.map Prod.fst := (List.nodup_cons.mp clean.distinct).1
      have replaced : ∀ {fragments}, ArePlain fragments →
          replaceText pair.1 pair.2 (join meaning fragments) =
            join (Function.update meaning pair.1 pair.2) fragments := fun isPlain =>
        replaceText_join pair.2 (isPlain.onlyAsFragment settles isToken) isToken.nonempty
          (unset pair.1 List.mem_cons_self)
      have settlesNext : Settles (Function.update meaning pair.1 pair.2) := by
        intro token
        by_cases same : token = pair.1
        · subst same
          right
          rw [Function.update_self]
          exact clean.plain pair List.mem_cons_self
        · rw [Function.update_of_ne same]
          exact settles token
      have unsetNext : ∀ token ∈ rest.map Prod.fst,
          Function.update meaning pair.1 pair.2 token = token := by
        intro token member
        have other : token ≠ pair.1 := fun same => absent (same ▸ member)
        rw [Function.update_of_ne other]
        exact unset token (List.mem_cons_of_mem _ member)
      rw [applyTo_cons, replaced plain,
        inductionHypothesis (clean.sublist (List.sublist_cons_self pair rest)) settlesNext unsetNext]
      apply join_congr
      intro token member
      have single := replaced (arePlain_placeholder (plain.2 token member))
      simp only [join_cons, join_nil, written, String.append_empty] at single
      rw [applyTo_cons, single]

theorem Clean.applyTo_join (clean : Clean results) (plain : ArePlain fragments) :
    results.applyTo (join id fragments) = join results.applyTo fragments :=
  clean.applyTo_join_from settles_id (fun _ _ => rfl) plain

theorem Clean.applyTo_plain (clean : Clean results) (plain : IsPlain text) :
    results.applyTo text = text := by
  have whole := clean.applyTo_join (arePlain_literal plain)
  simpa only [join_cons, join_nil, written, String.append_empty] using whole

/-- Written texts are rewritten part by part. -/
theorem Clean.applyTo_append_written (clean : Clean results) {tokens : List String}
    {left right : String} (first : Written tokens left) (second : Written tokens right) :
    results.applyTo (left ++ right) = results.applyTo left ++ results.applyTo right := by
  obtain ⟨firsts, firstPlain, -, rfl⟩ := first
  obtain ⟨seconds, secondPlain, -, rfl⟩ := second
  rw [← join_append, clean.applyTo_join (arePlain_append.mpr ⟨firstPlain, secondPlain⟩),
    join_append, clean.applyTo_join firstPlain, clean.applyTo_join secondPlain]

/-- A token without a result stays. -/
theorem Clean.applyTo_other (clean : Clean results) (isToken : IsToken token)
    (absent : token ∉ results.map Prod.fst) : results.applyTo token = token := by
  induction results with
  | nil => rfl
  | cons pair rest inductionHypothesis =>
      rw [List.map_cons, List.mem_cons, not_or] at absent
      have missing : containsText pair.1 token = false := by
        rw [← Bool.not_eq_true]
        intro found
        have whole : join id [.placeholder token] = token := String.append_empty
        rw [← whole, containsText_written (arePlain_placeholder isToken)
          (clean.tokens pair List.mem_cons_self)] at found
        cases List.mem_singleton.mp found
        exact absent.1 rfl
      rw [applyTo_cons, replaceText_absent pair.2 missing]
      exact inductionHypothesis (clean.sublist (List.sublist_cons_self pair rest)) absent.2

/-- A token becomes its result. -/
theorem Clean.applyTo_token (clean : Clean results) (member : (token, text) ∈ results) :
    results.applyTo token = text := by
  obtain ⟨earlier, later, rfl⟩ := List.append_of_mem member
  have distinct := clean.distinct
  rw [List.map_append, List.map_cons, List.nodup_append] at distinct
  have absent : token ∉ earlier.map Prod.fst := fun inside =>
    distinct.2.2 token inside token List.mem_cons_self rfl
  have isToken := clean.tokens (token, text) member
  have first := (clean.sublist (List.sublist_append_left earlier _)).applyTo_other isToken absent
  have itself : replaceText token text token = text := by
    have own : OnlyAsFragment id token [.placeholder token] :=
      (arePlain_placeholder isToken).onlyAsFragment settles_id isToken
    have replaced := replaceText_join text own isToken.nonempty rfl
    simpa [written] using replaced
  rw [applyTo_both, first, applyTo_cons, itself]
  apply (clean.sublist _).applyTo_plain (clean.plain (token, text) member)
  exact (List.sublist_cons_self _ later).trans (List.sublist_append_right earlier _)

/-- When all tokens of a text are replaced, it is plain. -/
theorem Clean.isPlain_applyTo (clean : Clean results)
    (written : Written (results.map Prod.fst) text) : IsPlain (results.applyTo text) := by
  obtain ⟨fragments, plain, known, rfl⟩ := written
  rw [clean.applyTo_join plain]
  apply isPlain_join
  intro fragment member
  cases fragment with
  | literal content => exact plain.1 content member
  | placeholder token =>
      obtain ⟨⟨found, result⟩, inside, rfl⟩ := List.mem_map.mp (known token member)
      rw [Fragment.written, clean.applyTo_token inside]
      exact clean.plain _ inside

/-- Results of tokens that do not stand in a text make no difference to it. -/
theorem Clean.applyTo_enough (clean : Clean (earlier ++ later))
    (written : Written (earlier.map Prod.fst) text) :
    applyTo (earlier ++ later) text = earlier.applyTo text := by
  have first := clean.sublist (List.sublist_append_left earlier later)
  have second := clean.sublist (List.sublist_append_right earlier later)
  rw [applyTo_both, second.applyTo_plain (first.isPlain_applyTo written)]

/-- A token without a result still occurs when other tokens are replaced. -/
theorem Clean.containsText_applyTo (clean : Clean results) {tokens : List String}
    (written : Written tokens text) (isToken : IsToken token)
    (absent : token ∉ results.map Prod.fst) (found : containsText token text = true) :
    containsText token (results.applyTo text) = true := by
  obtain ⟨fragments, plain, -, rfl⟩ := written
  rw [containsText_written plain isToken] at found
  obtain ⟨before, after, rfl⟩ := List.append_of_mem found
  rw [clean.applyTo_join plain, containsText_iff]
  refine ⟨join results.applyTo before, join results.applyTo after, ?_⟩
  rw [join_append, join_cons, Fragment.written, clean.applyTo_other isToken absent,
    String.append_assoc]

end Results

/-! ### Values -/

namespace Value

variable {first second : Results}

mutual

/-- What results make of a value depends on what they make of its texts. -/
theorem substitute_congr :
    ∀ value : Value, (∀ text ∈ value.contents, first.applyTo text = second.applyTo text) →
      value.substitute first = value.substitute second
  | .text content, same => congrArg Value.text (same content List.mem_cons_self)
  | .list items, same => congrArg Value.list (substituteItems_congr items same)
  | .tuple items, same => congrArg Value.tuple (substituteItems_congr items same)
  | .dict entries, same => congrArg Value.dict (substituteEntries_congr entries same)
  | .none, _ | .bool _, _ | .int _, _ | .float _, _ | .complex _ _, _ | .bytes _, _
  | .ellipsis, _ | .object _ _, _ | .exception _ _, _ | .opaqueOf _, _ => rfl

theorem substituteItems_congr :
    ∀ items : List Value,
      (∀ text ∈ itemsContents items, first.applyTo text = second.applyTo text) →
      substituteItems first items = substituteItems second items
  | [], _ => rfl
  | item :: rest, same => by
      have head := substitute_congr item fun text member => same text (List.mem_append_left _ member)
      have others := substituteItems_congr rest fun text member =>
        same text (List.mem_append_right _ member)
      rw [substituteItems, substituteItems, head, others]

theorem substituteEntries_congr :
    ∀ entries : List (Value × Value),
      (∀ text ∈ entriesContents entries, first.applyTo text = second.applyTo text) →
      substituteEntries first entries = substituteEntries second entries
  | [], _ => rfl
  | (key, value) :: rest, same => by
      have head := substitute_congr value fun text member => same text (List.mem_append_left _ member)
      have others := substituteEntries_congr rest fun text member =>
        same text (List.mem_append_right _ member)
      rw [substituteEntries, substituteEntries, head, others]

end

mutual

theorem substitute_nil : ∀ value : Value, value.substitute [] = value
  | .text _ => rfl
  | .list items => congrArg Value.list (substituteItems_nil items)
  | .tuple items => congrArg Value.tuple (substituteItems_nil items)
  | .dict entries => congrArg Value.dict (substituteEntries_nil entries)
  | .none | .bool _ | .int _ | .float _ | .complex _ _ | .bytes _ | .ellipsis | .object _ _
  | .exception _ _ | .opaqueOf _ => rfl

theorem substituteItems_nil : ∀ items : List Value, substituteItems [] items = items
  | [] => rfl
  | item :: rest => by rw [substituteItems, substitute_nil item, substituteItems_nil rest]

theorem substituteEntries_nil :
    ∀ entries : List (Value × Value), substituteEntries [] entries = entries
  | [] => rfl
  | (key, value) :: rest => by
      rw [substituteEntries, substitute_nil value, substituteEntries_nil rest]

end

theorem itemsContents_eq (items : List Value) : itemsContents items = items.flatMap contents := by
  induction items with
  | nil => rfl
  | cons item rest inductionHypothesis =>
      rw [itemsContents, inductionHypothesis, List.flatMap_cons]

theorem substituteItems_eq (results : Results) (items : List Value) :
    substituteItems results items = items.map (substitute results) := by
  induction items with
  | nil => rfl
  | cons item rest inductionHypothesis =>
      rw [substituteItems, inductionHypothesis, List.map_cons]

end Value

namespace Arguments

variable {arguments : Arguments} {first second : Results}

theorem substitute_congr
    (same : ∀ text ∈ arguments.contents, first.applyTo text = second.applyTo text) :
    arguments.substitute first = arguments.substitute second := by
  have positional := Value.substituteItems_congr arguments.positional fun text member =>
    same text (List.mem_append_left _ member)
  have keywords : ∀ pair ∈ arguments.keywords,
      pair.2.substitute first = pair.2.substitute second := fun pair member =>
    Value.substitute_congr pair.2 fun text inside =>
      same text (List.mem_append_right _ (List.mem_flatMap.mpr ⟨pair, member, inside⟩))
  rw [substitute, substitute, positional]
  congr 1
  exact List.map_congr_left fun pair member => by rw [keywords pair member]

theorem substitute_nil (arguments : Arguments) : arguments.substitute [] = arguments := by
  have keywords : arguments.keywords.map (fun pair => (pair.1, pair.2.substitute [])) =
      arguments.keywords := by
    simp [Value.substitute_nil]
  rw [substitute, Value.substituteItems_nil, keywords]

end Arguments

end DeferredText
