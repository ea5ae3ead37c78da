import DeferredText.Proofs.Tokens

/-!
Contract: which tokens are found in a text.

All tokens of a shape have the same length, so at most one of them starts at each place of a
text. Searching goes from left to right and takes the first token that starts anywhere, then
goes on behind it: what it gives is the leftmost sequence of parts that are tokens.

A token of the standard shape cannot start in front of a token and reach into it, unless the
text between them has the whole opening of a token.

Owns: the leftmost parts of a text, and the tokens that searching gives.

Does not own: where tokens occur among plain fragments (`Proofs.Tokens`).
-/

namespace DeferredText

/-- The accepted parts of a text from left to right: each is the first one behind the part in
front of it, and no accepted part is behind the last. -/
inductive Leftmost (accepts : List Char → Bool) : List Char → List (List Char) → Prop where
  | absent {text : List Char}
      (none : ∀ part, part <:+: text → accepts part = false) :
      Leftmost accepts text []
  | present {before part after : List Char} {further : List (List Char)}
      (accepted : accepts part = true)
      (first : ∀ earlier other later,
        before ++ part ++ after = earlier ++ other ++ later → accepts other = true →
          before.length ≤ earlier.length)
      (rest : Leftmost accepts after further) :
      Leftmost accepts (before ++ part ++ after) (part :: further)

namespace Leftmost

variable {accepts : List Char → Bool} {text : List Char} {parts : List (List Char)}

theorem nil_iff : Leftmost accepts text [] ↔ ∀ part, part <:+: text → accepts part = false := by
  constructor
  · intro leftmost
    cases leftmost with
    | absent none => exact none
  · exact .absent

theorem accepted_of_mem (leftmost : Leftmost accepts text parts) :
    ∀ part ∈ parts, accepts part = true := by
  induction leftmost with
  | absent none => simp
  | present accepted first rest inductionHypothesis => simpa [accepted] using inductionHypothesis

end Leftmost

theorem Supply.character_mem (supply : Supply) : supply.character ∈ alphabet := by
  rw [Supply.character, List.getD_eq_getElem?_getD]
  cases drawn : alphabet[supply.state / Nat.pow 2 16 % alphabet.length]? with
  | none => decide
  | some letter => exact List.mem_of_getElem? drawn

/-- Tokens, each behind a text of its own, and a text behind the last. -/
def interleaved : List (String × String) → String → String
  | [], last => last
  | (separator, token) :: rest, last => separator ++ token ++ interleaved rest last

namespace PlaceholderShape

variable {shape : PlaceholderShape} {text part before after : List Char}

/-! ### Tokens of a shape -/

theorem length_token (body : List Char) (sized : body.length = shape.length) :
    (shape.token body).length = shape.width := by
  simp [token, width, sized, String.length_toList, Nat.add_assoc]

theorem startsToken_iff : shape.startsToken text = true ↔
    ∃ body, body.length = shape.length ∧ body.all isBodyCharacter = true ∧
      shape.token body <+: text := by
  simp only [startsToken, Bool.and_eq_true, List.isPrefixOf_iff_prefix, beq_iff_eq]
  constructor
  · rintro ⟨⟨⟨opens, sized⟩, letters⟩, closes⟩
    refine ⟨_, sized, letters, ?_⟩
    obtain ⟨behind, rfl⟩ := opens
    rw [← String.length_toList, List.drop_left] at closes ⊢
    obtain ⟨rest, closed⟩ := closes
    refine ⟨rest, ?_⟩
    rw [token, List.append_assoc, List.append_assoc, closed, List.take_append_drop]
  · rintro ⟨body, sized, letters, rest, rfl⟩
    have behind : (shape.token body ++ rest).drop shape.opening.length =
        body ++ (shape.closing.toList ++ rest) := by
      rw [token, ← String.length_toList, List.append_assoc, List.append_assoc, List.drop_left]
    rw [behind, ← sized, List.take_left, List.drop_left]
    refine ⟨⟨⟨?_, rfl⟩, letters⟩, List.prefix_append _ rest⟩
    rw [token, List.append_assoc, List.append_assoc]
    exact List.prefix_append _ _

theorem isToken_iff : shape.isToken part = true ↔
    ∃ body, body.length = shape.length ∧ body.all isBodyCharacter = true ∧
      part = shape.token body := by
  rw [isToken, Bool.and_eq_true, startsToken_iff, beq_iff_eq]
  constructor
  · rintro ⟨⟨body, sized, letters, starts⟩, length⟩
    have same := starts.eq_of_length ((length_token body sized).trans length.symm)
    exact ⟨body, sized, letters, same.symm⟩
  · rintro ⟨body, sized, letters, rfl⟩
    exact ⟨⟨body, sized, letters, List.prefix_rfl⟩, length_token body sized⟩

/-- A text starts with a token exactly if some token is its beginning. -/
theorem startsToken_iff_exists :
    shape.startsToken text = true ↔ ∃ part, shape.isToken part = true ∧ part <+: text := by
  rw [startsToken_iff]
  constructor
  · rintro ⟨body, sized, letters, starts⟩
    exact ⟨_, isToken_iff.mpr ⟨body, sized, letters, rfl⟩, starts⟩
  · rintro ⟨part, accepted, starts⟩
    obtain ⟨body, sized, letters, rfl⟩ := isToken_iff.mp accepted
    exact ⟨body, sized, letters, starts⟩

theorem length_of_isToken (accepted : shape.isToken part = true) : part.length = shape.width := by
  obtain ⟨body, sized, -, rfl⟩ := isToken_iff.mp accepted
  exact length_token body sized

/-! ### Searching -/

theorem findFrom_eq_drop (skipped : Nat) (text : List Char) :
    shape.findFrom skipped text = shape.findFrom 0 (text.drop skipped) := by
  induction text generalizing skipped with
  | nil => cases skipped <;> simp [findFrom]
  | cons head rest inductionHypothesis =>
      cases skipped with
      | zero => rfl
      | succ skipped => rw [findFrom, inductionHypothesis, List.drop_succ_cons]

theorem findFrom_cons (head : Char) (rest : List Char)
    (starts : shape.startsToken (head :: rest) = false) :
    shape.findFrom 0 (head :: rest) = shape.findFrom 0 rest := by
  rw [findFrom, if_neg (by rw [starts]; exact Bool.false_ne_true)]

/-- A token in front is found, and the search goes on behind it. -/
theorem findFrom_token (wide : 0 < shape.width) (accepted : shape.isToken part = true)
    (rest : List Char) : shape.findFrom 0 (part ++ rest) = part :: shape.findFrom 0 rest := by
  have length := length_of_isToken accepted
  have starts : shape.startsToken (part ++ rest) = true :=
    startsToken_iff_exists.mpr ⟨part, accepted, List.prefix_append part rest⟩
  cases part with
  | nil =>
      simp only [List.length_nil] at length
      omega
  | cons head tail =>
      have behind : shape.width - 1 = tail.length := by
        simp only [List.length_cons] at length
        omega
      rw [List.cons_append] at starts ⊢
      rw [findFrom, if_pos starts, findFrom_eq_drop, behind, List.drop_left, ← length,
        ← List.cons_append, List.take_left]

/-- Nothing is found in a stretch in which no token starts. -/
theorem findFrom_stretch (stretch rest : List Char)
    (none : ∀ before after, stretch = before ++ after → after ≠ [] →
      shape.startsToken (after ++ rest) = false) :
    shape.findFrom 0 (stretch ++ rest) = shape.findFrom 0 rest := by
  induction stretch with
  | nil => rfl
  | cons head tail inductionHypothesis =>
      have here : shape.startsToken (head :: (tail ++ rest)) = false :=
        none [] (head :: tail) rfl (List.cons_ne_nil head tail)
      rw [List.cons_append, findFrom_cons head _ here]
      apply inductionHypothesis
      intro before after split nonempty
      exact none (head :: before) after (by rw [split, List.cons_append]) nonempty

theorem startsToken_of_absent (none : ∀ part, part <:+: text → shape.isToken part = false)
    (behind : after <:+ text) : shape.startsToken after = false := by
  rw [← Bool.not_eq_true]
  intro starts
  obtain ⟨part, accepted, inFront⟩ := startsToken_iff_exists.mp starts
  rw [none part (inFront.isInfix.trans behind.isInfix)] at accepted
  cases accepted

/-- Searching gives the leftmost tokens. -/
theorem findFrom_of_leftmost {tokens : List (List Char)} (wide : 0 < shape.width)
    (leftmost : Leftmost shape.isToken text tokens) : shape.findFrom 0 text = tokens := by
  induction leftmost with
  | @absent text none =>
      have nothing : shape.findFrom 0 (text ++ []) = shape.findFrom 0 [] := by
        apply findFrom_stretch
        intro before after split _
        rw [List.append_nil]
        exact startsToken_of_absent none ⟨before, split.symm⟩
      rwa [List.append_nil] at nothing
  | @present before part after further accepted first rest inductionHypothesis =>
      have nothing : shape.findFrom 0 (before ++ (part ++ after)) =
          shape.findFrom 0 (part ++ after) := by
        apply findFrom_stretch
        intro earlier behind split nonempty
        rw [← Bool.not_eq_true]
        intro starts
        obtain ⟨other, otherAccepted, later, places⟩ := startsToken_iff_exists.mp starts
        have length := first earlier other later (by simp [split, places]) otherAccepted
        have positive := List.length_pos_iff.mpr nonempty
        simp only [split, List.length_append] at length
        omega
      rw [List.append_assoc, nothing, findFrom_token wide accepted, inductionHypothesis]

theorem leftmost_cons (head : Char) (rest : List Char) {tokens : List (List Char)}
    (starts : shape.startsToken (head :: rest) = false)
    (leftmost : Leftmost shape.isToken rest tokens) :
    Leftmost shape.isToken (head :: rest) tokens := by
  have notHere : ∀ part, shape.isToken part = true → ¬ part <+: head :: rest := by
    intro part accepted inFront
    rw [startsToken_iff_exists.mpr ⟨part, accepted, inFront⟩] at starts
    cases starts
  cases leftmost with
  | absent none =>
      refine .absent fun part inside => ?_
      rw [← Bool.not_eq_true]
      intro accepted
      rcases List.infix_cons_iff.mp inside with inFront | behind
      · exact notHere part accepted inFront
      · rw [none part behind] at accepted
        cases accepted
  | @present before part after further accepted first further' =>
      change Leftmost shape.isToken ((head :: before) ++ part ++ after) (part :: further)
      refine .present accepted ?_ further'
      intro earlier other later split otherAccepted
      cases earlier with
      | nil =>
          refine absurd ?_ (notHere other otherAccepted)
          exact ⟨later, by simpa using split.symm⟩
      | cons one earlier =>
          simp only [List.cons_append, List.cons.injEq] at split
          have length := first earlier other later (by simpa using split.2) otherAccepted
          simpa using length

theorem leftmost_findFrom (wide : 0 < shape.width) (text : List Char) :
    Leftmost shape.isToken text (shape.findFrom 0 text) := by
  -- The search goes on behind a token, so the induction is on the length of the text.
  induction size : text.length using Nat.strong_induction_on generalizing text with
  | _ size inductionHypothesis =>
      subst size
      cases text with
      | nil =>
          refine .absent fun part inside => ?_
          rw [List.infix_nil.mp inside, ← Bool.not_eq_true]
          intro accepted
          have length := length_of_isToken accepted
          rw [List.length_nil] at length
          omega
      | cons head rest =>
          by_cases starts : shape.startsToken (head :: rest) = true
          · obtain ⟨part, accepted, after, split⟩ := startsToken_iff_exists.mp starts
            have shorter : after.length < (head :: rest).length := by
              have length := length_of_isToken accepted
              rw [← split, List.length_append]
              omega
            have behind := inductionHypothesis after.length shorter after rfl
            rw [← split, findFrom_token wide accepted]
            change Leftmost shape.isToken ([] ++ part ++ after) _
            exact .present accepted (fun _ _ _ _ _ => Nat.zero_le _) behind
          · rw [Bool.not_eq_true] at starts
            rw [findFrom_cons head rest starts]
            exact leftmost_cons head rest starts
              (inductionHypothesis rest.length (Nat.lt_succ_self _) rest rfl)

theorem findFrom_eq_iff (wide : 0 < shape.width) {tokens : List (List Char)} :
    shape.findFrom 0 text = tokens ↔ Leftmost shape.isToken text tokens :=
  ⟨fun same => same ▸ leftmost_findFrom wide text, findFrom_of_leftmost wide⟩

theorem find_eq_iff (wide : 0 < shape.width) {content : String} {tokens : List String} :
    shape.find content = tokens ↔
      Leftmost shape.isToken content.toList (tokens.map String.toList) := by
  have back : ∀ parts : List (List Char), (parts.map String.ofList).map String.toList = parts := by
    simp [Function.comp_def]
  have forth : (tokens.map String.toList).map String.ofList = tokens := by
    simp [Function.comp_def]
  rw [← findFrom_eq_iff wide, find]
  constructor
  · rintro rfl
    exact (back _).symm
  · intro same
    rw [same, forth]

theorem find_eq_nil_iff (wide : 0 < shape.width) {content : String} :
    shape.find content = [] ↔
      ∀ part, containsText part content = true → shape.isToken part.toList = false := by
  simp only [containsText, occursIn_iff_consecutive]
  rw [find_eq_iff wide, List.map_nil, Leftmost.nil_iff]
  constructor
  · exact fun none part => none part.toList
  · intro none part occurs
    rw [← String.toList_ofList (l := part)] at occurs ⊢
    exact none _ occurs

/-- A text is a token exactly if it is all that is found in it. -/
theorem isToken_iff_find (wide : 0 < shape.width) {content : String} :
    shape.isToken content.toList = true ↔ shape.find content = [content] := by
  rw [find_eq_iff wide]
  constructor
  · intro accepted
    have nothing : Leftmost shape.isToken [] [] := leftmost_findFrom wide []
    have whole : Leftmost shape.isToken ([] ++ content.toList ++ []) _ :=
      .present accepted (fun _ _ _ _ _ => Nat.zero_le _) nothing
    rwa [List.nil_append, List.append_nil] at whole
  · intro leftmost
    exact leftmost.accepted_of_mem _ (List.mem_singleton_self _)

/-! ### Tokens between other texts -/

/-- A token with characters that a supply may draw. -/
def Draws
    (shape : PlaceholderShape)
    (token : String) : Prop :=
  ∃ body : List Char, body.length = shape.length ∧ (∀ letter ∈ body, letter ∈ Supply.alphabet) ∧
    token = String.ofList (shape.token body)

theorem all_isBodyCharacter {body : List Char} (drawn : ∀ letter ∈ body, letter ∈ Supply.alphabet) :
    body.all isBodyCharacter = true := by
  have letters : Supply.alphabet.all isBodyCharacter = true := by decide
  rw [List.all_eq_true] at letters ⊢
  exact fun letter member => letters letter (drawn letter member)

theorem underscore_notMem {body : List Char} (letters : body.all isBodyCharacter = true) :
    '_' ∉ body := by
  intro member
  have letter := List.all_eq_true.mp letters '_' member
  exact absurd letter (by decide)

theorem Draws.isToken {token : String} (drawn : shape.Draws token) :
    shape.isToken token.toList = true := by
  obtain ⟨body, sized, letters, rfl⟩ := drawn
  rw [String.toList_ofList]
  exact isToken_iff.mpr ⟨body, sized, all_isBodyCharacter letters, rfl⟩

theorem draws_token (supply : Supply) : shape.Draws (Supply.token shape supply).1 := by
  have letters (count : Nat) : ∀ supply : Supply,
      ∀ letter ∈ (Supply.draw count supply).1, letter ∈ Supply.alphabet := by
    induction count with
    | zero => simp [Supply.draw]
    | succ count inductionHypothesis =>
        intro supply letter member
        rw [Supply.draw, List.mem_cons] at member
        rcases member with rfl | further
        · exact supply.step.character_mem
        · exact inductionHypothesis supply.step letter further
  exact ⟨_, (Supply.draw_plain shape.length supply).1, letters shape.length supply, rfl⟩

/-- The underscores of a token of a standard shape. -/
theorem IsStandard.marks_token (standard : shape.IsStandard) {body : List Char}
    (sized : body.length = shape.length) (letters : body.all isBodyCharacter = true) :
    marks (shape.token body) = tokenMarks shape.length := by
  rw [token, tokenMarks, standard.opening, standard.closing, List.append_assoc, marks_append,
    marks_append, marks_plain (underscore_notMem letters), sized]

/-- Where two tokens overlap, the later one has its underscores at the places of the earlier one. -/
theorem IsStandard.marked_overlap (standard : shape.IsStandard) {body other behind rest : List Char}
    (sized : body.length = shape.length) (letters : body.all isBodyCharacter = true)
    (otherSized : other.length = shape.length) (otherLetters : other.all isBodyCharacter = true)
    (same : shape.token body ++ behind = before ++ (shape.token other ++ rest)) {place : Nat}
    (inside : before.length + place < shape.length + 21)
    (mark : place ∈ [0, 1, 7, 14, 17, 18, shape.length + 19, shape.length + 20]) :
    before.length + place ∈ [0, 1, 7, 14, 17, 18, shape.length + 19, shape.length + 20] := by
  have underscores := congrArg marks same
  rw [marks_append, marks_append, marks_append, standard.marks_token sized letters,
    standard.marks_token otherSized otherLetters] at underscores
  have agree : (tokenMarks shape.length)[before.length + place]? =
      (tokenMarks shape.length)[place]? := by
    have here := congrArg (fun found : List Bool => found[before.length + place]?) underscores
    have width : (marks before).length = before.length := List.length_map _
    rwa [List.getElem?_append_left (by rwa [length_tokenMarks]),
      List.getElem?_append_right (by omega), width, Nat.add_sub_cancel_left,
      List.getElem?_append_left (by rw [length_tokenMarks]; omega)] at here
  rwa [← getElem?_tokenMarks, agree, getElem?_tokenMarks]

/-- A token that starts in front of another one and reaches into it has its whole opening in
front of it. -/
theorem IsStandard.startsToken_inFront (standard : shape.IsStandard) {token rest : List Char}
    (accepted : shape.isToken token = true) (nonempty : before ≠ [])
    (absent : ¬ shape.opening.toList <:+: before) :
    shape.startsToken (before ++ (token ++ rest)) = false := by
  rw [← Bool.not_eq_true, startsToken_iff]
  rintro ⟨body, sized, letters, starts⟩
  obtain ⟨other, otherSized, otherLetters, rfl⟩ := isToken_iff.mp accepted
  have positive := List.length_pos_iff.mpr nonempty
  have opening : shape.opening.toList.length = 19 := by
    rw [standard.opening]
    decide
  have long := standard.length
  rw [leastLength] at long
  by_cases outside : shape.opening.toList.length ≤ before.length
  · -- The opening ends in front of the other token.
    have opens : shape.opening.toList <+: before ++ (shape.token other ++ rest) := by
      refine List.IsPrefix.trans ?_ starts
      rw [PlaceholderShape.token, List.append_assoc]
      exact List.prefix_append _ _
    exact absent (List.prefix_of_prefix_length_le opens (List.prefix_append _ _) outside).isInfix
  · -- The two openings overlap, and their underscores do not agree at any distance.
    obtain ⟨behind, same⟩ := starts
    have marked (place : Nat) := @marked_overlap shape before standard body other behind rest sized
      letters otherSized otherLetters same place
    simp only [List.mem_cons, List.not_mem_nil, or_false] at marked
    have first := marked 0 (by omega) (by omega)
    have second := marked 1 (by omega) (by omega)
    have third := marked 7 (by omega) (by omega)
    omega

/-- Tokens of a standard shape are found between texts without an opening. -/
theorem IsStandard.find_interleaved (standard : shape.IsStandard) {pieces : List (String × String)}
    {last : String}
    (separators : ∀ piece ∈ pieces, containsText shape.opening piece.1 = false)
    (tokens : ∀ piece ∈ pieces, shape.Draws piece.2)
    (behind : containsText shape.opening last = false) :
    shape.find (interleaved pieces last) = pieces.map Prod.snd := by
  have wide : 0 < shape.width := by
    have long := standard.length
    rw [leastLength] at long
    rw [width]
    omega
  have absent {content : String} (free : containsText shape.opening content = false) :
      ¬ shape.opening.toList <:+: content.toList := by
    rwa [← occursIn_iff_consecutive, Bool.not_eq_true]
  induction pieces with
  | nil =>
      rw [interleaved, List.map_nil, find_eq_nil_iff wide]
      intro part inside
      rw [← Bool.not_eq_true, isToken_iff]
      rintro ⟨body, -, -, same⟩
      rw [containsText, occursIn_iff_consecutive, same, token, List.append_assoc] at inside
      exact absent behind ((List.prefix_append _ _).isInfix.trans inside)
  | cons piece rest inductionHypothesis =>
      obtain ⟨separator, token⟩ := piece
      simp only [List.mem_cons, forall_eq_or_imp] at separators tokens
      have accepted := tokens.1.isToken
      have nothing : shape.findFrom 0 (separator.toList ++
          (token.toList ++ (interleaved rest last).toList)) =
            shape.findFrom 0 (token.toList ++ (interleaved rest last).toList) := by
        apply findFrom_stretch
        intro before after split nonempty
        refine standard.startsToken_inFront accepted nonempty fun inside => ?_
        refine absent separators.1 (inside.trans ?_)
        rw [split]
        exact (List.suffix_append before after).isInfix
      rw [interleaved, find, String.toList_append, String.toList_append, List.append_assoc, nothing,
        findFrom_token wide accepted, List.map_cons, String.ofList_toList, List.map_cons]
      exact congrArg (token :: ·) (inductionHypothesis separators.2 tokens.2)

end PlaceholderShape

/-- Searching a text for tokens of a shape that settings describe gives the leftmost parts that
are tokens, so it gives none exactly if no part of the text is a token, and the text itself
exactly if it is a token. With the standard opening and closing, tokens that were drawn are found
one after the other between any texts without an opening. -/
theorem token_search_exact {opening closing length : Value} {shape : PlaceholderShape}
    (accepted : PlaceholderShape.ofSettings opening closing length = .ok shape) :
    (∀ content tokens, shape.find content = tokens ↔
      Leftmost shape.isToken content.toList (tokens.map String.toList)) ∧
    (∀ content, shape.find content = [] ↔
      ∀ part, containsText part content = true → shape.isToken part.toList = false) ∧
    (∀ content, shape.isToken content.toList = true ↔ shape.find content = [content]) ∧
    (∀ supply, shape.Draws (Supply.token shape supply).1) ∧
    (opening = .text PlaceholderShape.standard.opening →
      closing = .text PlaceholderShape.standard.closing →
      ∀ (pieces : List (String × String)) (last : String),
        (∀ piece ∈ pieces, containsText shape.opening piece.1 = false ∧ shape.Draws piece.2) →
        containsText shape.opening last = false →
        shape.find (interleaved pieces last) = pieces.map Prod.snd) := by
  obtain ⟨short, -, -, sized⟩ := PlaceholderShape.ofSettings_cases accepted
  have long := PlaceholderShape.leastLength_le short sized
  have wide : 0 < shape.width := by
    rw [PlaceholderShape.leastLength] at long
    rw [PlaceholderShape.width]
    omega
  refine ⟨fun content tokens => PlaceholderShape.find_eq_iff wide,
    fun content => PlaceholderShape.find_eq_nil_iff wide,
    fun content => PlaceholderShape.isToken_iff_find wide,
    fun supply => PlaceholderShape.draws_token supply, ?_⟩
  rintro rfl rfl pieces last drawn behind
  have standard := PlaceholderShape.isStandard_ofSettings accepted
  exact standard.find_interleaved (fun piece member => (drawn piece member).1)
    (fun piece member => (drawn piece member).2) behind

namespace Sample

/-- A token of the standard shape with given characters. -/
def tokenOf (body : String) : String :=
  String.ofList (PlaceholderShape.standard.token body.toList)

/-- Two tokens in a row, behind a text that ends like the beginning of an opening. -/
def neighbours : List (String × String) :=
  [("__async_helper_id", tokenOf "abcdefghijklmnopqrstuvwx"),
    ("", tokenOf "ABCDEFGHIJKLMNOPQRSTUVWX")]

/-- Both tokens are found, though the texts around them share underscores with them. -/
theorem found_neighbours :
    PlaceholderShape.ofSettings (.text PlaceholderShape.standard.opening)
      (.text PlaceholderShape.standard.closing) (.int 24) = .ok .standard ∧
    PlaceholderShape.standard.find (interleaved neighbours "async_helper_id__") =
      [tokenOf "abcdefghijklmnopqrstuvwx", tokenOf "ABCDEFGHIJKLMNOPQRSTUVWX"] := by
  have accepted : PlaceholderShape.ofSettings (.text PlaceholderShape.standard.opening)
      (.text PlaceholderShape.standard.closing) (.int 24) = .ok .standard := by
    with_unfolding_all rfl
  have drawn (body : String) (sized : body.toList.length = 24)
      (letters : (body.toList.all fun letter => Supply.alphabet.contains letter) = true) :
      PlaceholderShape.standard.Draws (tokenOf body) := by
    refine ⟨body.toList, sized, fun letter member => ?_, rfl⟩
    exact List.contains_iff_mem.mp (List.all_eq_true.mp letters letter member)
  refine ⟨accepted, (token_search_exact accepted).2.2.2.2 rfl rfl neighbours _ ?_ (by decide)⟩
  intro piece member
  simp only [neighbours, List.mem_cons, List.not_mem_nil, or_false] at member
  rcases member with rfl | rfl
  · exact ⟨by decide, drawn _ (by decide) (by decide)⟩
  · exact ⟨by decide, drawn _ (by decide) (by decide)⟩

end Sample

end DeferredText
