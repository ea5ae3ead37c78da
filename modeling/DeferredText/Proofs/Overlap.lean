import DeferredText.Proofs.Replacement
import Mathlib.Data.List.Range

/-!
Contract: replacing one of several tokens leaves the occurrences of the others.

Occurrences are given by the place where they start. As long as no two of them overlap
and a replacement brings no new ones, the occurrences of the other tokens move with the
text around them.

Owns: places of occurrences, and what replacement does to them.

Does not own: the fragments of a text (`Proofs.Fragments`).
-/

namespace DeferredText

/-- Whether an occurrence of the pattern starts at a place of the text. -/
def occursAt
    (pattern text : List Char)
    (place : Nat) : Bool :=
  pattern.isPrefixOf (text.drop place)

section OccursAt

variable {pattern text left right : List Char} {place : Nat}

theorem occursAt_iff :
    occursAt pattern text place = true ↔ pattern <+: text.drop place := by
  rw [occursAt, List.isPrefixOf_iff_prefix]

theorem occursAt_split :
    occursAt pattern text place = true ↔
      text.drop place = pattern ++ text.drop (place + pattern.length) := by
  rw [occursAt_iff]
  constructor
  · rintro ⟨rest, split⟩
    rw [← List.drop_drop, ← split, List.drop_left]
  · intro split
    exact ⟨_, split.symm⟩

theorem occursAt_length (nonempty : pattern ≠ []) (occurs : occursAt pattern text place = true) :
    place + pattern.length ≤ text.length ∧ place < text.length := by
  have short := (occursAt_iff.mp occurs).length_le
  have positive := List.length_pos_iff.mpr nonempty
  rw [List.length_drop] at short
  omega

/-- An occurrence that ends inside the first part of a text is one of that part. -/
theorem occursAt_append_left (inside : place + pattern.length ≤ left.length) :
    occursAt pattern (left ++ right) place = occursAt pattern left place := by
  rw [Bool.eq_iff_iff, occursAt_iff, occursAt_iff, List.drop_append_of_le_length (by omega)]
  constructor
  · intro starts
    apply List.prefix_of_prefix_length_le starts (List.prefix_append _ _)
    rw [List.length_drop]
    omega
  · exact fun starts => starts.trans (List.prefix_append _ _)

theorem occursAt_append_right (left : List Char) (place : Nat) :
    occursAt pattern (left ++ right) (left.length + place) = occursAt pattern right place := by
  rw [occursAt, occursAt, ← List.drop_drop, List.drop_left]

theorem occursIn_iff_occursAt (nonempty : pattern ≠ []) :
    occursIn pattern text = true ↔ ∃ place < text.length, occursAt pattern text place = true := by
  rw [occursIn_iff]
  constructor
  · rintro ⟨before, after, rfl⟩
    have occurs : occursAt pattern (before ++ pattern ++ after) before.length = true := by
      rw [occursAt_iff, List.append_assoc, List.drop_left]
      exact List.prefix_append _ _
    exact ⟨before.length, (occursAt_length nonempty occurs).2, occurs⟩
  · rintro ⟨place, -, occurs⟩
    refine ⟨text.take place, text.drop (place + pattern.length), ?_⟩
    rw [List.append_assoc, ← occursAt_split.mp occurs, List.take_append_drop]

end OccursAt

/-! ### Cutting a text outside of occurrences -/

section Cut

variable {pattern replacement left right middle : List Char}

/-- Replacement works on both parts of a text, if no occurrence lies across the cut. -/
theorem replaceAll_append (nonempty : pattern ≠ [])
    (whole : ∀ place, occursAt pattern (left ++ right) place = true →
      place + pattern.length ≤ left.length ∨ left.length ≤ place) :
    replaceAll pattern replacement (left ++ right) =
      replaceAll pattern replacement left ++ replaceAll pattern replacement right := by
  -- The induction is on the length of the first part: an occurrence at its start goes at once.
  induction bound : left.length using Nat.strong_induction_on generalizing left with
  | h length inductionHypothesis =>
    subst bound
    cases left with
    | nil => rfl
    | cons head tail =>
      by_cases starts : pattern <+: head :: (tail ++ right)
      · have fits : pattern.length ≤ (head :: tail).length := by
          have here := whole 0 (by rw [occursAt_iff]; exact starts)
          simp only [List.length_cons] at here ⊢
          omega
        obtain ⟨rest, split⟩ : pattern <+: head :: tail :=
          List.prefix_of_prefix_length_le starts (List.prefix_append (head :: tail) right) fits
        have shorter : rest.length < (head :: tail).length := by
          rw [← split, List.length_append]
          have := List.length_pos_iff.mpr nonempty
          omega
        rw [← split, List.append_assoc, replaceAll_occurrence nonempty,
          replaceAll_occurrence nonempty, inductionHypothesis rest.length shorter _ rfl,
          List.append_assoc]
        intro place occurs
        have moved := whole (pattern.length + place) (by
          rwa [← split, List.append_assoc, occursAt_append_right])
        rw [← split, List.length_append] at moved
        omega
      · have alone : ¬ pattern <+: head :: tail := fun starts' =>
          starts (starts'.trans (List.prefix_append (head :: tail) right))
        rw [List.cons_append, replaceAll_cons head _ starts, replaceAll_cons head _ alone,
          inductionHypothesis tail.length (by simp) _ rfl, List.cons_append]
        intro place occurs
        have moved := whole (1 + place) (by
          rwa [List.cons_append, ← List.singleton_append,
            show 1 = [head].length from rfl, occursAt_append_right])
        rw [List.length_cons] at moved
        omega

/-- A run of characters that all occurrences keep off is kept. -/
theorem replaceAll_around (nonempty : pattern ≠ [])
    (apart : ∀ place, occursAt pattern (left ++ middle ++ right) place = true →
      place + pattern.length ≤ left.length ∨ (left ++ middle).length ≤ place) :
    replaceAll pattern replacement (left ++ middle ++ right) =
      replaceAll pattern replacement left ++ middle ++ replaceAll pattern replacement right := by
  have fits : ∀ place, occursAt pattern (left ++ middle) place = true →
      place + pattern.length ≤ left.length := by
    intro place occurs
    have inside := occursAt_length nonempty occurs
    rw [← occursAt_append_left inside.1] at occurs
    rcases apart place occurs with before | after
    · exact before
    · omega
  have kept : replaceAll pattern replacement middle = middle := by
    apply replaceAll_absent
    intro within
    rw [← occursIn_iff_consecutive, occursIn_iff_occursAt nonempty] at within
    obtain ⟨place, -, occurs⟩ := within
    rw [← occursAt_append_right left] at occurs
    have := fits _ occurs
    have := List.length_pos_iff.mpr nonempty
    omega
  rw [replaceAll_append nonempty, replaceAll_append nonempty, kept]
  · exact fun place occurs => .inl (fits place occurs)
  · intro place occurs
    rcases apart place occurs with before | after
    · rw [List.length_append]
      omega
    · exact .inr after

end Cut

/-! ### Several tokens -/

/-- No two occurrences of the tokens in a text overlap. -/
def Disjointly
    (tokens : List String)
    (text : String) : Prop :=
  ∀ first ∈ tokens, ∀ second ∈ tokens,
    ∀ place < text.toList.length, occursAt first.toList text.toList place = true →
    ∀ other < text.toList.length, occursAt second.toList text.toList other = true →
      place = other ∧ first = second ∨ place + first.toList.length ≤ other ∨
        other + second.toList.length ≤ place

/-- Putting a result in place of a token makes no token appear where there was none: the
text in front of it, with the same replacement made, is the text in front of an
occurrence there was. -/
def BringsNothing
    (tokens : List String)
    (token result text : String) : Prop :=
  ∀ other ∈ tokens, ∀ place < (replaceText token result text).toList.length,
    occursAt other.toList (replaceText token result text).toList place = true →
    ∃ earlier < text.toList.length, occursAt other.toList text.toList earlier = true ∧
      (replaceAll token.toList result.toList (text.toList.take earlier)).length = place

set_option synthInstance.maxSize 512 in
instance (tokens : List String) (text : String) : Decidable (Disjointly tokens text) := by
  unfold Disjointly
  infer_instance

instance (tokens : List String) (token result text : String) :
    Decidable (BringsNothing tokens token result text) := by
  unfold BringsNothing
  infer_instance

section Tokens

variable {tokens : List String} {token other result text : String} {place : Nat}

theorem Disjointly.mono {fewer : List String} (disjoint : Disjointly tokens text)
    (among : ∀ token ∈ fewer, token ∈ tokens) : Disjointly fewer text :=
  fun first member second member' =>
    disjoint first (among first member) second (among second member')

theorem containsText_iff_occursAt (nonempty : other ≠ "") :
    containsText other text = true ↔
      ∃ place < text.toList.length, occursAt other.toList text.toList place = true := by
  rw [containsText, occursIn_iff_occursAt]
  simpa using nonempty

theorem toList_replaceText :
    (replaceText token result text).toList =
      replaceAll token.toList result.toList text.toList := by
  rw [replaceText, String.toList_ofList]

/-- Occurrences of another token move with the text around them. -/
theorem Disjointly.around (disjoint : Disjointly tokens text) (nonempty : "" ∉ tokens)
    (replaced : token ∈ tokens) (member : other ∈ tokens) (distinct : other ≠ token)
    (occurs : occursAt other.toList text.toList place = true) (result : String) (count : Nat) :
    replaceAll token.toList result.toList
        (text.toList.take (place + other.toList.length + count)) =
      replaceAll token.toList result.toList (text.toList.take place) ++ other.toList ++
        replaceAll token.toList result.toList
          ((text.toList.drop (place + other.toList.length)).take count) := by
  have characters : ∀ {token : String}, token ∈ tokens → token.toList ≠ [] := by
    intro token member empty
    exact nonempty (String.toList_eq_nil_iff.mp empty ▸ member)
  have inside := occursAt_length (characters member) occurs
  have length : (text.toList.take place).length = place := by
    rw [List.length_take]
    omega
  have parts : text.toList.take (place + other.toList.length + count) =
      text.toList.take place ++ other.toList ++
        (text.toList.drop (place + other.toList.length)).take count := by
    rw [List.take_add, List.take_add]
    congr 2
    rw [occursAt_split.mp occurs, List.take_left]
  rw [parts]
  apply replaceAll_around (characters replaced)
  intro start here
  rw [← parts] at here
  have within := occursAt_length (characters replaced) here
  have everywhere : occursAt token.toList text.toList start = true := by
    rw [← List.take_append_drop (place + other.toList.length + count) text.toList,
      occursAt_append_left within.1]
    exact here
  have below := (occursAt_length (characters replaced) everywhere).2
  rw [List.length_append, length]
  rcases disjoint token replaced other member start below everywhere place inside.2 occurs
    with ⟨-, same⟩ | ends | starts
  · exact absurd same.symm distinct
  · exact .inl ends
  · exact .inr starts

/-- Another token is found in the text exactly if it was there before. -/
theorem Disjointly.containsText_replaced (disjoint : Disjointly tokens text)
    (nonempty : "" ∉ tokens) (nothing : BringsNothing tokens token result text)
    (replaced : token ∈ tokens) (member : other ∈ tokens) (distinct : other ≠ token) :
    containsText other (replaceText token result text) = containsText other text := by
  have present : other ≠ "" := fun empty => nonempty (empty ▸ member)
  rw [Bool.eq_iff_iff, containsText_iff_occursAt present, containsText_iff_occursAt present]
  constructor
  · rintro ⟨place, below, occurs⟩
    obtain ⟨earlier, inside, occurred, -⟩ := nothing other member place below occurs
    exact ⟨earlier, inside, occurred⟩
  · rintro ⟨place, below, occurs⟩
    have characters : other.toList ≠ [] := by simpa using present
    have around := disjoint.around nonempty replaced member distinct occurs result
      text.toList.length
    rw [List.take_of_length_le (by omega), ← toList_replaceText] at around
    have moved : occursAt other.toList (replaceText token result text).toList
        (replaceAll token.toList result.toList (text.toList.take place)).length = true := by
      rw [occursAt_iff, around, List.append_assoc, List.drop_left]
      exact List.prefix_append _ _
    exact ⟨_, (occursAt_length characters moved).2, moved⟩

/-- The occurrences of the other tokens still do not overlap. -/
theorem Disjointly.replaced {remaining : List String} (disjoint : Disjointly tokens text)
    (nonempty : "" ∉ tokens) (nothing : BringsNothing tokens token result text)
    (replaced : token ∈ tokens)
    (among : ∀ other ∈ remaining, other ∈ tokens ∧ other ≠ token) :
    Disjointly remaining (replaceText token result text) := by
  -- What lies between two occurrences is replaced on its own, so they cannot meet.
  have behind : ∀ {other : String} {start next : Nat}, other ∈ remaining →
      occursAt other.toList text.toList start = true → start + other.toList.length ≤ next →
      (replaceAll token.toList result.toList (text.toList.take start)).length +
          other.toList.length ≤
        (replaceAll token.toList result.toList (text.toList.take next)).length := by
    intro other start next member occurs after
    obtain ⟨count, rfl⟩ := Nat.exists_eq_add_of_le after
    rw [disjoint.around nonempty replaced (among other member).1 (among other member).2 occurs,
      List.length_append, List.length_append]
    omega
  intro first member second member' place below occurs other below' occurs'
  obtain ⟨start, inside, occurred, rfl⟩ :=
    nothing first (among first member).1 place below occurs
  obtain ⟨next, inside', occurred', rfl⟩ :=
    nothing second (among second member').1 other below' occurs'
  rcases disjoint first (among first member).1 second (among second member').1 start inside
      occurred next inside' occurred' with ⟨rfl, same⟩ | ends | starts
  · exact .inl ⟨rfl, same⟩
  · exact .inr (.inl (behind member occurred ends))
  · exact .inr (.inr (behind member' occurred' starts))

end Tokens

end DeferredText
