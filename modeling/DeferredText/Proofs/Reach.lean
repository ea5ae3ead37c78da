import DeferredText.Proofs.Contents
import DeferredText.Proofs.Replacement
import DeferredText.Proofs.Written

/-!
Contract: searching a value and rewriting it reach the same texts.

A token is found in a value exactly if some result would change the value when put in its place.
If no stage of a substitution makes a token occur anew, the rewritten value mentions none of the
tokens, has the shape it had, and is not changed by rewriting it once more.

Owns: the pieces that a replacement leaves, tokens that occur anew, and the outline of a value.

Does not own: texts made of plain fragments and tokens (`Proofs.Written`).
-/

namespace DeferredText

/-! ### The pieces between occurrences -/

/-- What is left of a text when the occurrences of a pattern are cut out, leftmost first and
without overlap; the next `skipped` characters belong to an occurrence already cut out. -/
def piecesFrom (pattern : List Char) : Nat → List Char → List (List Char)
  | _, [] => [[]]
  | skipped + 1, _ :: tail => piecesFrom pattern skipped tail
  | 0, head :: tail =>
      if pattern.isPrefixOf (head :: tail) then
        [] :: piecesFrom pattern (pattern.length - 1) tail
      else (piecesFrom pattern 0 tail).modifyHead (List.cons head)

def pieces (pattern text : List Char) : List (List Char) :=
  piecesFrom pattern 0 text

section Pieces

variable {pattern replacement text : List Char}

theorem piecesFrom_eq_drop (skipped : Nat) (text : List Char) :
    piecesFrom pattern skipped text = pieces pattern (text.drop skipped) := by
  induction text generalizing skipped with
  | nil => cases skipped <;> rfl
  | cons head tail inductionHypothesis =>
      cases skipped with
      | zero => rfl
      | succ skipped => rw [piecesFrom, inductionHypothesis, List.drop_succ_cons]

theorem pieces_occurrence (nonempty : pattern ≠ []) (rest : List Char) :
    pieces pattern (pattern ++ rest) = [] :: pieces pattern rest := by
  obtain ⟨head, tail, rfl⟩ := List.exists_cons_of_ne_nil nonempty
  have starts : (head :: tail).isPrefixOf (head :: (tail ++ rest)) = true := by
    rw [List.isPrefixOf_iff_prefix]
    exact ⟨rest, rfl⟩
  rw [List.cons_append, pieces, piecesFrom, if_pos starts, piecesFrom_eq_drop]
  simp

theorem pieces_cons (head : Char) (tail : List Char) (absent : ¬ pattern <+: head :: tail) :
    pieces pattern (head :: tail) = (pieces pattern tail).modifyHead (List.cons head) := by
  have starts : ¬ pattern.isPrefixOf (head :: tail) = true := by
    rwa [List.isPrefixOf_iff_prefix]
  rw [pieces, piecesFrom, if_neg starts]
  rfl

/-- A text is empty, or it starts with an occurrence, or with a character at which none starts. -/
theorem cut_induction {motive : List Char → Prop} (nonempty : pattern ≠ []) (nil : motive [])
    (occurrence : ∀ rest, motive rest → motive (pattern ++ rest))
    (cons : ∀ head tail, ¬ pattern <+: head :: tail → motive tail → motive (head :: tail))
    (text : List Char) : motive text := by
  induction bound : text.length using Nat.strong_induction_on generalizing text with
  | h length inductionHypothesis =>
    subst bound
    cases text with
    | nil => exact nil
    | cons head tail =>
      by_cases starts : pattern <+: head :: tail
      · obtain ⟨rest, split⟩ := starts
        have shorter : rest.length < (head :: tail).length := by
          have := List.length_pos_iff.mpr nonempty
          rw [← split, List.length_append]
          omega
        rw [← split]
        exact occurrence rest (inductionHypothesis rest.length shorter rest rfl)
      · exact cons head tail starts (inductionHypothesis tail.length (by simp) tail rfl)

/-- There is a first piece, and the text starts with it. -/
theorem pieces_first (nonempty : pattern ≠ []) (text : List Char) :
    ∃ first rest, pieces pattern text = first :: rest ∧ first <+: text := by
  induction text using cut_induction nonempty with
  | nil => exact ⟨[], [], rfl, List.nil_prefix⟩
  | occurrence rest _ =>
      exact ⟨[], pieces pattern rest, pieces_occurrence nonempty rest, List.nil_prefix⟩
  | cons head tail absent inductionHypothesis =>
      obtain ⟨first, rest, split, starts⟩ := inductionHypothesis
      refine ⟨head :: first, rest, ?_, List.cons_prefix_cons.mpr ⟨rfl, starts⟩⟩
      rw [pieces_cons head tail absent, split, List.modifyHead_cons]

/-- Replacing a pattern puts the replacement between the pieces. -/
theorem replaceAll_eq_intercalate (nonempty : pattern ≠ []) (text : List Char) :
    replaceAll pattern replacement text = replacement.intercalate (pieces pattern text) := by
  induction text using cut_induction nonempty with
  | nil => rfl
  | occurrence rest inductionHypothesis =>
      obtain ⟨first, others, split, -⟩ := pieces_first nonempty rest
      rw [replaceAll_occurrence nonempty, pieces_occurrence nonempty, inductionHypothesis, split]
      rfl
  | cons head tail absent inductionHypothesis =>
      obtain ⟨first, others, split, -⟩ := pieces_first nonempty tail
      rw [replaceAll_cons head tail absent, pieces_cons head tail absent, inductionHypothesis,
        split, List.modifyHead_cons]
      cases others <;> rfl

/-- Every piece was a part of the text. -/
theorem infix_of_mem_pieces (nonempty : pattern ≠ []) {piece : List Char} (text : List Char)
    (member : piece ∈ pieces pattern text) : piece <:+: text := by
  induction text using cut_induction nonempty generalizing piece with
  | nil =>
      cases List.mem_singleton.mp member
      exact List.nil_infix
  | occurrence rest inductionHypothesis =>
      rw [pieces_occurrence nonempty] at member
      rcases List.mem_cons.mp member with rfl | further
      · exact List.nil_infix
      · exact (inductionHypothesis further).trans (List.suffix_append pattern rest).isInfix
  | cons head tail absent inductionHypothesis =>
      obtain ⟨first, others, split, starts⟩ := pieces_first nonempty tail
      rw [pieces_cons head tail absent, split, List.modifyHead_cons] at member
      rcases List.mem_cons.mp member with rfl | further
      · exact (List.cons_prefix_cons.mpr ⟨rfl, starts⟩).isInfix
      · have inside := inductionHypothesis (split ▸ List.mem_cons_of_mem first further)
        exact inside.trans (List.suffix_cons head tail).isInfix

/-- The pattern occurs in no piece. -/
theorem not_infix_of_mem_pieces (nonempty : pattern ≠ []) {piece : List Char} (text : List Char)
    (member : piece ∈ pieces pattern text) : ¬ pattern <:+: piece := by
  induction text using cut_induction nonempty generalizing piece with
  | nil =>
      cases List.mem_singleton.mp member
      exact fun occurs => nonempty (List.infix_nil.mp occurs)
  | occurrence rest inductionHypothesis =>
      rw [pieces_occurrence nonempty] at member
      rcases List.mem_cons.mp member with rfl | further
      · exact fun occurs => nonempty (List.infix_nil.mp occurs)
      · exact inductionHypothesis further
  | cons head tail absent inductionHypothesis =>
      obtain ⟨first, others, split, starts⟩ := pieces_first nonempty tail
      rw [pieces_cons head tail absent, split, List.modifyHead_cons] at member
      rcases List.mem_cons.mp member with rfl | further
      · intro occurs
        rcases List.infix_cons_iff.mp occurs with here | later
        · exact absent (here.trans (List.cons_prefix_cons.mpr ⟨rfl, starts⟩))
        · exact inductionHypothesis (split ▸ List.mem_cons_self) later
      · exact inductionHypothesis (split ▸ List.mem_cons_of_mem first further)

/-- Cutting a pattern out makes a text shorter if the pattern occurs, and never longer. -/
theorem length_replaceAll_nil (nonempty : pattern ≠ []) (text : List Char) :
    (replaceAll pattern [] text).length ≤ text.length ∧
      (pattern <:+: text → (replaceAll pattern [] text).length < text.length) := by
  have positive := List.length_pos_iff.mpr nonempty
  induction text using cut_induction nonempty with
  | nil => exact ⟨le_rfl, fun occurs => absurd (List.infix_nil.mp occurs) nonempty⟩
  | occurrence rest inductionHypothesis =>
      rw [replaceAll_occurrence nonempty, List.nil_append, List.length_append]
      omega
  | cons head tail absent inductionHypothesis =>
      rw [replaceAll_cons head tail absent, List.length_cons, List.length_cons]
      refine ⟨Nat.succ_le_succ inductionHypothesis.1, fun occurs => ?_⟩
      have later := (List.infix_cons_iff.mp occurs).resolve_left absent
      exact Nat.succ_lt_succ (inductionHypothesis.2 later)

end Pieces

/-- Cutting a token out of a text in which it occurs changes the text. -/
theorem replaceText_ne {token text : String} (nonempty : token ≠ "")
    (occurs : containsText token text = true) : replaceText token "" text ≠ text := by
  intro unchanged
  have characters : token.toList ≠ [] := by simpa using nonempty
  have shorter := (length_replaceAll_nil characters text.toList).2
    ((occursIn_iff_consecutive _ _).mp occurs)
  have kept : replaceAll token.toList [] text.toList = text.toList := by
    simpa [replaceText] using congrArg String.toList unchanged
  rw [kept] at shorter
  exact Nat.lt_irrefl _ shorter

/-! ### Tokens that occur anew -/

namespace Results

/-- No stage of a substitution makes a token occur anew: a token that occurs after the
replacement of a stage occurs in a piece that the replacement left. -/
def NothingAnew (tokens : List String) : Results → String → Prop
  | [], _ => True
  | (token, result) :: rest, text =>
      (∀ other ∈ tokens, containsText other (replaceText token result text) = true →
        ∃ piece ∈ pieces token.toList text.toList, occursIn other.toList piece = true) ∧
      NothingAnew tokens rest (replaceText token result text)

instance decideNothingAnew (tokens : List String) :
    ∀ (results : Results) (text : String), Decidable (results.NothingAnew tokens text)
  | [], _ => .isTrue trivial
  | (token, result) :: rest, text =>
      have := decideNothingAnew tokens rest (replaceText token result text)
      inferInstanceAs (Decidable (_ ∧ _))

variable {tokens : List String} {results : Results} {token other result text : String}

/-- One stage: where nothing occurs anew, a token that is absent stays absent. -/
theorem absent_replaceText (nonempty : token ≠ "")
    (traced : containsText other (replaceText token result text) = true →
      ∃ piece ∈ pieces token.toList text.toList, occursIn other.toList piece = true)
    (absent : containsText other text = false) :
    containsText other (replaceText token result text) = false := by
  rw [Bool.eq_false_iff]
  intro occurs
  obtain ⟨piece, member, inside⟩ := traced occurs
  have among := infix_of_mem_pieces (by simpa using nonempty) text.toList member
  have before : containsText other text = true :=
    (occursIn_iff_consecutive _ _).mpr (((occursIn_iff_consecutive _ _).mp inside).trans among)
  rw [absent] at before
  cases before

/-- One stage: the token that is replaced is gone. -/
theorem absent_replaced (nonempty : token ≠ "")
    (traced : containsText token (replaceText token result text) = true →
      ∃ piece ∈ pieces token.toList text.toList, occursIn token.toList piece = true) :
    containsText token (replaceText token result text) = false := by
  rw [Bool.eq_false_iff]
  intro occurs
  obtain ⟨piece, member, inside⟩ := traced occurs
  exact not_infix_of_mem_pieces (by simpa using nonempty) text.toList member
    ((occursIn_iff_consecutive _ _).mp inside)

/-- All further stages: a token that is absent stays absent. -/
theorem absent_applyTo (nonempty : ∀ pair ∈ results, pair.1 ≠ "")
    (nothing : results.NothingAnew tokens text) (member : other ∈ tokens)
    (absent : containsText other text = false) :
    containsText other (results.applyTo text) = false := by
  induction results generalizing text with
  | nil => exact absent
  | cons pair rest inductionHypothesis =>
      obtain ⟨token, result⟩ := pair
      have present := nonempty (token, result) List.mem_cons_self
      exact inductionHypothesis (fun later among => nonempty later (List.mem_cons_of_mem _ among))
        nothing.2 (absent_replaceText present (nothing.1 other member) absent)

/-- All stages: no token that is replaced at one of them is left. -/
theorem gone_applyTo (nonempty : ∀ pair ∈ results, pair.1 ≠ "")
    (among : ∀ pair ∈ results, pair.1 ∈ tokens) (nothing : results.NothingAnew tokens text)
    {pair : String × String} (member : pair ∈ results) :
    containsText pair.1 (results.applyTo text) = false := by
  induction results generalizing text with
  | nil => cases member
  | cons first rest inductionHypothesis =>
      obtain ⟨token, result⟩ := first
      have restNonempty : ∀ pair ∈ rest, pair.1 ≠ "" := fun pair further =>
        nonempty pair (List.mem_cons_of_mem _ further)
      have restAmong : ∀ pair ∈ rest, pair.1 ∈ tokens := fun pair further =>
        among pair (List.mem_cons_of_mem _ further)
      rw [applyTo_cons]
      rcases List.mem_cons.mp member with rfl | further
      · -- The token is gone after its own stage, and stays away at the ones behind it.
        have isToken : token ∈ tokens := among (token, result) List.mem_cons_self
        have present : token ≠ "" := nonempty (token, result) List.mem_cons_self
        exact absent_applyTo restNonempty nothing.2 isToken
          (absent_replaced present (nothing.1 token isToken))
      · exact inductionHypothesis restNonempty restAmong nothing.2 further

/-- A text without the tokens is not changed. -/
theorem applyTo_absent (absent : ∀ pair ∈ results, containsText pair.1 text = false) :
    results.applyTo text = text := by
  induction results with
  | nil => rfl
  | cons pair rest inductionHypothesis =>
      rw [applyTo_cons, replaceText_absent pair.2 (absent pair List.mem_cons_self)]
      exact inductionHypothesis fun later member => absent later (List.mem_cons_of_mem _ member)

end Results

/-! ### Values -/

namespace Value

mutual

/-- A value with every text in it blanked, except for those inside of keys. -/
def outline : Value → Value
  | .text _ => .text ""
  | .list items => .list (itemsOutline items)
  | .tuple items => .tuple (itemsOutline items)
  | .dict entries => .dict (entriesOutline entries)
  | value => value

def itemsOutline : List Value → List Value
  | [] => []
  | item :: rest => outline item :: itemsOutline rest

def entriesOutline : List (Value × Value) → List (Value × Value)
  | [] => []
  | (key, value) :: rest => (key, outline value) :: entriesOutline rest

end

mutual

theorem outline_substitute (results : Results) :
    ∀ value : Value, (value.substitute results).outline = value.outline
  | .text _ => rfl
  | .list items => congrArg Value.list (itemsOutline_substitute results items)
  | .tuple items => congrArg Value.tuple (itemsOutline_substitute results items)
  | .dict entries => congrArg Value.dict (entriesOutline_substitute results entries)
  | .none | .bool _ | .int _ | .float _ | .complex _ _ | .bytes _ | .ellipsis | .object _ _
  | .exception _ _ | .opaqueOf _ => rfl

theorem itemsOutline_substitute (results : Results) :
    ∀ items : List Value, itemsOutline (substituteItems results items) = itemsOutline items
  | [] => rfl
  | item :: rest => by
      rw [substituteItems, itemsOutline, itemsOutline, outline_substitute results item,
        itemsOutline_substitute results rest]

theorem entriesOutline_substitute (results : Results) :
    ∀ entries : List (Value × Value),
      entriesOutline (substituteEntries results entries) = entriesOutline entries
  | [] => rfl
  | (key, value) :: rest => by
      rw [substituteEntries, entriesOutline, entriesOutline, outline_substitute results value,
        entriesOutline_substitute results rest]

end

variable {value : Value} {results : Results}

/-- A substitution changes a value exactly if it changes one of its texts. -/
theorem substitute_eq_self_iff :
    value.substitute results = value ↔ ∀ text ∈ value.contents, results.applyTo text = text := by
  constructor
  · intro unchanged
    have texts := contents_substitute results value
    rw [unchanged] at texts
    exact List.map_inj_left.mp (texts.symm.trans (List.map_id _).symm)
  · intro unchanged
    have kept : value.substitute results = value.substitute [] := substitute_congr value unchanged
    exact kept.trans (substitute_nil value)

/-- Searching finds a token exactly if some result would change the value in its place. -/
theorem mentions_iff_changes {token : String} (nonempty : token ≠ "") (value : Value) :
    value.mentions token = true ↔ ∃ result, value.substitute [(token, result)] ≠ value := by
  rw [mentions_eq_any, List.any_eq_true]
  constructor
  · rintro ⟨text, member, occurs⟩
    refine ⟨"", fun unchanged => ?_⟩
    exact replaceText_ne nonempty occurs (substitute_eq_self_iff.mp unchanged text member)
  · rintro ⟨result, changes⟩
    by_contra unmentioned
    push Not at unmentioned
    refine changes (substitute_eq_self_iff.mpr fun text member => ?_)
    exact replaceText_absent result (Bool.eq_false_iff.mpr (unmentioned text member))

/-- Where no token occurs anew, no token is left in any text of the value. -/
theorem absent_contents_substitute (nonempty : ∀ pair ∈ results, pair.1 ≠ "")
    (nothing : ∀ text ∈ value.contents, results.NothingAnew (results.map Prod.fst) text)
    {pair : String × String} (member : pair ∈ results) {text : String}
    (inside : text ∈ (value.substitute results).contents) : containsText pair.1 text = false := by
  rw [contents_substitute] at inside
  obtain ⟨before, among, rfl⟩ := List.mem_map.mp inside
  exact Results.gone_applyTo nonempty (fun pair member => List.mem_map_of_mem member)
    (nothing before among) member

end Value

/-- A search finds a token exactly if replacing it can change the value. A substitution at no stage
of which a token occurs anew leaves none of its tokens, keeps the shape of the value, and does
nothing when it is made once more. -/
theorem search_reaches_substitution (value : Value) :
    (∀ token, token ≠ "" →
      (value.mentions token = true ↔ ∃ result, value.substitute [(token, result)] ≠ value)) ∧
    (∀ results : Results, (∀ pair ∈ results, pair.1 ≠ "") →
      (∀ text ∈ value.contents, results.NothingAnew (results.map Prod.fst) text) →
        (∀ pair ∈ results, (value.substitute results).mentions pair.1 = false) ∧
        (value.substitute results).outline = value.outline ∧
        (value.substitute results).substitute results = value.substitute results) := by
  refine ⟨fun token nonempty => value.mentions_iff_changes nonempty, ?_⟩
  intro results nonempty nothing
  have absent : ∀ pair ∈ results, ∀ text ∈ (value.substitute results).contents,
      containsText pair.1 text = false := fun pair member text inside =>
    Value.absent_contents_substitute nonempty nothing member inside
  refine ⟨?_, Value.outline_substitute results value, ?_⟩
  · intro pair member
    rw [Value.mentions_eq_any, List.any_eq_false]
    exact fun text inside => Bool.eq_false_iff.mp (absent pair member text inside)
  · refine Value.substitute_eq_self_iff.mpr fun text inside => ?_
    exact Results.applyTo_absent fun pair member => absent pair member text inside

namespace Sample

/-- Texts at several depths; one stands in a key, and is not reached. -/
def nestedTexts : Value :=
  .tuple [.text "<a> and <b>", .dict [(.text "<a>", .list [.text "<<a>", .int 1])]]

/-- The second result contains the end of a token and completes none. -/
def nestedResults : Results :=
  [("<a>", "one"), ("<b>", "a>")]

theorem nested_texts_rewritten :
    (∀ pair ∈ nestedResults, pair.1 ≠ "") ∧
    (∀ text ∈ nestedTexts.contents,
      nestedResults.NothingAnew (nestedResults.map Prod.fst) text) ∧
    (∃ result, nestedTexts.substitute [("<b>", result)] ≠ nestedTexts) ∧
    (nestedTexts.substitute nestedResults).substitute nestedResults =
      .tuple [.text "one and a>", .dict [(.text "<a>", .list [.text "<one", .int 1])]] := by
  have nonempty : ∀ pair ∈ nestedResults, pair.1 ≠ "" := by decide
  have nothing : ∀ text ∈ nestedTexts.contents,
      nestedResults.NothingAnew (nestedResults.map Prod.fst) text := by decide +kernel
  obtain ⟨searching, substituting⟩ := search_reaches_substitution nestedTexts
  obtain ⟨-, -, again⟩ := substituting nestedResults nonempty nothing
  refine ⟨nonempty, nothing, (searching "<b>" (by decide)).mp (by decide +kernel), again.trans ?_⟩
  rfl

end Sample

end DeferredText
