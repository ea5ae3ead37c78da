import DeferredText.Proofs.Replacement

/-!
Contract: texts given as fragments, each a literal text or a placeholder.

What the placeholders stand for is a function of the token, so that replacing a token
changes that function and nothing else, as long as the token occurs in the text only
where it is a fragment.

Owns: fragments, the text they make, and replacing a token in it.

Does not own: the order in which tokens are replaced (`Proofs.Substitution`).
-/

namespace DeferredText

/-- A part of a text. -/
inductive Fragment where
  | literal (content : String)
  | placeholder (token : String)
deriving DecidableEq, Repr

namespace Fragment

/-- The text of a fragment, given what the placeholders stand for. -/
def written
    (meaning : String → String) : Fragment → String
  | .literal content => content
  | .placeholder token => meaning token

/-- The texts of fragments, one after the other. -/
def join
    (meaning : String → String) : List Fragment → String
  | [] => ""
  | fragment :: rest => fragment.written meaning ++ join meaning rest

section Join

variable {meaning : String → String}

@[simp]
theorem join_nil : join meaning [] = "" := by
  rfl

@[simp]
theorem join_cons (fragment : Fragment) (rest : List Fragment) :
    join meaning (fragment :: rest) = fragment.written meaning ++ join meaning rest := by
  rfl

@[simp]
theorem join_append (left right : List Fragment) :
    join meaning (left ++ right) = join meaning left ++ join meaning right := by
  induction left with
  | nil => simp
  | cons fragment rest inductionHypothesis =>
      rw [List.cons_append, join_cons, join_cons, inductionHypothesis, String.append_assoc]

/-- Only the meanings of the placeholders among the fragments matter. -/
theorem join_congr {other : String → String} {fragments : List Fragment}
    (agree : ∀ token, .placeholder token ∈ fragments → meaning token = other token) :
    join meaning fragments = join other fragments := by
  induction fragments with
  | nil => rfl
  | cons fragment rest inductionHypothesis =>
      have restAgrees : join meaning rest = join other rest :=
        inductionHypothesis fun token member => agree token (List.mem_cons_of_mem fragment member)
      have fragmentAgrees : fragment.written meaning = fragment.written other := by
        cases fragment with
        | literal content => rfl
        | placeholder token => exact agree token List.mem_cons_self
      rw [join_cons, join_cons, fragmentAgrees, restAgrees]

end Join

/-- Wherever the token occurs in the text of the fragments, it is one of the fragments. -/
def OnlyAsFragment
    (meaning : String → String)
    (token : String)
    (fragments : List Fragment) : Prop :=
  ∀ before after, join meaning fragments = before ++ token ++ after →
    ∃ left right, fragments = left ++ .placeholder token :: right ∧ before = join meaning left

section OnlyAsFragment

variable {meaning : String → String} {token : String}

theorem OnlyAsFragment.tail {fragment : Fragment} {rest : List Fragment}
    (whole : OnlyAsFragment meaning token (fragment :: rest))
    (nonempty : token ≠ "")
    (unresolved : meaning token = token) :
    OnlyAsFragment meaning token rest := by
  intro before after split
  obtain ⟨left, right, parts, place⟩ :=
    whole (fragment.written meaning ++ before) after (by
      rw [join_cons, split]
      simp only [String.append_assoc])
  cases left with
  | nil =>
      -- The occurrence would start in front of the first fragment, which is not empty.
      have isToken : fragment = .placeholder token := (List.cons.inj parts).1
      rw [isToken, written, unresolved, join_nil] at place
      have empty : token = "" := by
        have lengths := congrArg String.length place
        rw [String.length_append, String.length_empty] at lengths
        exact String.length_eq_zero_iff.mp (by omega)
      exact absurd empty nonempty
  | cons first others =>
      obtain ⟨rfl, split⟩ := List.cons.inj parts
      exact ⟨others, right, split, String.append_right_inj _ |>.mp place⟩

/-- An occurrence that starts inside the first fragment is the first fragment. -/
theorem OnlyAsFragment.first {fragment : Fragment} {rest : List Fragment}
    (whole : OnlyAsFragment meaning token (fragment :: rest))
    {before after further : String}
    (split : fragment.written meaning = before ++ after)
    (nonempty : after ≠ "")
    (starts : after ++ join meaning rest = token ++ further) :
    fragment = .placeholder token := by
  obtain ⟨left, right, parts, place⟩ := whole before further (by
    rw [join_cons, split, String.append_assoc, starts, String.append_assoc])
  cases left with
  | nil => exact (List.cons.inj parts).1
  | cons first others =>
      -- The first fragment lies in front of the occurrence, so it cannot hold its start.
      obtain ⟨rfl, -⟩ := List.cons.inj parts
      rw [join_cons, split] at place
      have lengths := congrArg String.length place
      simp only [String.length_append] at lengths
      have empty : after = "" := String.length_eq_zero_iff.mp (by omega)
      exact absurd empty nonempty

/-- The text mentions the token exactly if the token is a fragment. -/
theorem containsText_join {fragments : List Fragment}
    (whole : OnlyAsFragment meaning token fragments)
    (unresolved : meaning token = token) :
    containsText token (join meaning fragments) = true ↔ .placeholder token ∈ fragments := by
  rw [containsText_iff]
  constructor
  · rintro ⟨before, after, split⟩
    obtain ⟨left, right, rfl, -⟩ := whole before after split
    simp
  · intro member
    obtain ⟨left, right, rfl⟩ := List.append_of_mem member
    refine ⟨join meaning left, join meaning right, ?_⟩
    rw [join_append, join_cons, written, unresolved, String.append_assoc]

/-- Replacing a token changes what it stands for, at all its fragments and nowhere else. -/
theorem replaceText_join {fragments : List Fragment} (result : String)
    (whole : OnlyAsFragment meaning token fragments)
    (nonempty : token ≠ "")
    (unresolved : meaning token = token) :
    replaceText token result (join meaning fragments) =
      join (Function.update meaning token result) fragments := by
  induction fragments with
  | nil => rfl
  | cons fragment rest inductionHypothesis =>
      have further := inductionHypothesis (whole.tail nonempty unresolved)
      by_cases isToken : fragment = .placeholder token
      · rw [isToken, join_cons, join_cons, written, written, unresolved,
          replaceText_occurrence nonempty, further, Function.update_self]
      · have kept : replaceText token result (fragment.written meaning ++ join meaning rest) =
            fragment.written meaning ++ replaceText token result (join meaning rest) := by
          apply replaceText_stretch
          rintro before after split remains ⟨tail, starts⟩
          exact isToken (whole.first split remains starts)
        have same : fragment.written (Function.update meaning token result) =
            fragment.written meaning := by
          cases fragment with
          | literal content => rfl
          | placeholder other =>
              exact Function.update_of_ne (fun equal => isToken (congrArg _ equal)) _ _
        rw [join_cons, join_cons, kept, further, same]

/-- It is enough to look at every place of the text. -/
theorem onlyAsFragment_iff {fragments : List Fragment} :
    OnlyAsFragment meaning token fragments ↔
      ∀ place ∈ List.range ((join meaning fragments).toList.length + 1),
        token.toList.isPrefixOf ((join meaning fragments).toList.drop place) = true →
        ∃ count ∈ List.range fragments.length,
          fragments[count]? = some (.placeholder token) ∧
            (join meaning (fragments.take count)).toList.length = place := by
  simp only [List.mem_range, List.isPrefixOf_iff_prefix]
  constructor
  · rintro whole place below ⟨rest, starts⟩
    obtain ⟨left, right, rfl, before⟩ :=
      whole (String.ofList ((join meaning fragments).toList.take place)) (String.ofList rest) (by
        apply String.toList_injective
        simp [starts])
    refine ⟨left.length, by simp, by simp, ?_⟩
    rw [List.take_left, ← before, String.toList_ofList, List.length_take]
    omega
  · intro everywhere before after split
    have characters : (join meaning fragments).toList =
        before.toList ++ (token.toList ++ after.toList) := by
      rw [split]
      simp
    obtain ⟨count, inside, isToken, length⟩ := everywhere before.toList.length
      (by rw [characters, List.length_append]; omega)
      (by rw [characters, List.drop_left]; exact List.prefix_append _ _)
    have parts : fragments =
        fragments.take count ++ .placeholder token :: fragments.drop (count + 1) := by
      obtain ⟨_, same⟩ := List.getElem?_eq_some_iff.mp isToken
      rw [← same, List.cons_getElem_drop_succ, List.take_append_drop]
    refine ⟨fragments.take count, fragments.drop (count + 1), parts, ?_⟩
    apply String.toList_injective
    have whole : (join meaning (fragments.take count)).toList ++
        (join meaning (.placeholder token :: fragments.drop (count + 1))).toList =
          before.toList ++ (token.toList ++ after.toList) := by
      rw [← characters, ← String.toList_append, ← join_append, ← parts]
    exact (List.append_inj_left whole length).symm

instance (fragments : List Fragment) : Decidable (OnlyAsFragment meaning token fragments) :=
  decidable_of_iff' _ onlyAsFragment_iff

end OnlyAsFragment

end Fragment

end DeferredText
