import DeferredText.Value.Basic

/-!
Contract: places in nested mappings.

A path of names leads through mappings to a value. A standard is completed with what is given:
what is given at a place of the standard stands there, and the standard stays at the others. What
is given is limited to the places of a standard by leaving everything else out.

Owns: values at paths, a standard with data laid over it, and data limited to a standard.

Does not own: which data are accepted (`Proofs.Decoded`).
-/

namespace DeferredText

/-! ### Values at paths -/

namespace Value

/-- What stands in a value at a path of keys. -/
def atPath? (value : Value) : List String → Option Value
  | [] => some value
  | key :: rest =>
      match value.dict? with
      | some entries => (Entries.getText? entries key).bind fun inner => inner.atPath? rest
      | Option.none => Option.none

theorem text?_eq_some_iff {value : Value} {content : String} :
    value.text? = some content ↔ value = .text content := by
  cases value <;> simp [text?]

theorem dict?_eq_some_iff {value : Value} {entries : Entries} :
    value.dict? = some entries ↔ value = .dict entries := by
  cases value <;> simp [dict?]

theorem same_text (content : String) (key : Value) :
    (Value.text content).same key = (key.text? == some content) := by
  cases key with
  | text other =>
      have swapped : (content == other) = (other == content) := BEq.comm
      simp [same, text?, swapped]
  | _ => simp [same, numeric?, text?]

end Value

namespace Entries

variable {entries : Entries} {name : String} {value : Value}

theorem getText?_cons (entry : Value × Value) (rest : Entries) (name : String) :
    getText? (entry :: rest) name =
      if entry.1.text? = some name then some entry.2 else getText? rest name := by
  unfold getText? get?
  by_cases isKey : entry.1.text? = some name
  · rw [if_pos isKey, List.find?_cons_of_pos (by rw [Value.same_text, beq_iff_eq, isKey]),
      Option.map_some]
  · rw [if_neg isKey, List.find?_cons_of_neg (by rwa [Value.same_text, beq_iff_eq])]

theorem mem_of_getText? (found : entries.getText? name = some value) :
    (.text name, value) ∈ entries := by
  induction entries with
  | nil => cases found
  | cons entry rest inductionHypothesis =>
      rw [getText?_cons] at found
      split at found
      · rename_i isKey
        cases found
        rw [← Value.text?_eq_some_iff.mp isKey]
        exact List.mem_cons_self
      · exact List.mem_cons_of_mem entry (inductionHypothesis found)

/-- The keys differ from each other. -/
def Distinct (entries : Entries) : Prop :=
  entries.Pairwise fun earlier later => later.1.same earlier.1 = false

instance (entries : Entries) : Decidable entries.Distinct :=
  inferInstanceAs (Decidable (List.Pairwise _ entries))

/-- Where keys differ, the entry of a name is the only one. -/
theorem getText?_of_mem (distinct : entries.Distinct)
    (member : (.text name, value) ∈ entries) : entries.getText? name = some value := by
  induction entries with
  | nil => cases member
  | cons entry rest inductionHypothesis =>
      obtain ⟨differs, restDistinct⟩ := List.pairwise_cons.mp distinct
      rw [getText?_cons]
      rcases List.mem_cons.mp member with rfl | further
      · exact if_pos rfl
      · have other := differs _ further
        rw [Value.same_text, beq_eq_false_iff_ne] at other
        rw [if_neg other]
        exact inductionHypothesis restDistinct further

end Entries

namespace Value

mutual

/-- Whether the keys of every mapping differ from each other, in the value and in the values of
its mappings. -/
def isKeyed : Value → Bool
  | .dict entries => Entries.Distinct entries && areKeyed entries
  | _ => true

def areKeyed : List (Value × Value) → Bool
  | [] => true
  | (_, value) :: rest => isKeyed value && areKeyed rest

end

theorem isKeyed_of_mem {entries : Entries} (keyed : areKeyed entries = true) {entry : Value × Value}
    (member : entry ∈ entries) : isKeyed entry.2 = true := by
  induction entries with
  | nil => cases member
  | cons first rest inductionHypothesis =>
      rw [areKeyed, Bool.and_eq_true] at keyed
      rcases List.mem_cons.mp member with rfl | further
      · exact keyed.1
      · exact inductionHypothesis keyed.2 further

end Value

/-! ### Data laid over a standard -/

namespace Value

mutual

/-- A standard with what is given laid over it: a given mapping is laid over a mapping key by
key, and its other keys are left out; any other value is taken as it is. -/
def completed (given : Value) : Value → Value
  | .dict parts =>
      match given with
      | .dict entries => .dict (completedEntries entries parts)
      | other => other
  | _ => given

def completedEntries (entries : Entries) : List (Value × Value) → Entries
  | [] => []
  | (key, standard) :: rest =>
      let part :=
        match entries.get? key with
        | some given => completed given standard
        | Option.none => standard
      (key, part) :: completedEntries entries rest

end

/-- What a standard has at a place, or what is given there. -/
theorem getText?_completedEntries (entries parts : Entries) (name : String) :
    Entries.getText? (completedEntries entries parts) name =
      (Entries.getText? parts name).map fun standard =>
        match Entries.getText? entries name with
        | some given => completed given standard
        | Option.none => standard := by
  induction parts with
  | nil => rfl
  | cons part rest inductionHypothesis =>
      obtain ⟨key, standard⟩ := part
      rw [completedEntries, Entries.getText?_cons, Entries.getText?_cons, inductionHypothesis]
      dsimp only
      by_cases isKey : key.text? = some name
      · rw [if_pos isKey, if_pos isKey, text?_eq_some_iff.mp isKey]
        rfl
      · rw [if_neg isKey, if_neg isKey]

/-- Where a standard has a mapping, nothing is given but a mapping or none. -/
def Suits (given standard : Value) : Prop :=
  ∀ path parts value, standard.atPath? path = some (.dict parts) →
    given.atPath? path = some value → value = .none ∨ ∃ entries, value = .dict entries

theorem atPath?_cons (value : Value) (key : String) (rest : List String) :
    value.atPath? (key :: rest) =
      (value.dict?.bind fun entries => Entries.getText? entries key).bind fun inner =>
        inner.atPath? rest := by
  rw [atPath?]
  cases value.dict? <;> rfl

/-- No mapping is below the leaves. -/
theorem not_mapping_of_leaf {value : Value} {path : List String} {parts : Entries}
    (leaf : value.dict? = Option.none) : value.atPath? path ≠ some (.dict parts) := by
  intro reached
  cases path with
  | nil =>
      cases reached
      cases leaf
  | cons key rest =>
      rw [atPath?_cons, leaf] at reached
      cases reached

/-- In a mapping of leaves, the only mapping is the whole. -/
theorem eq_nil_of_leaves {entries : Entries} {path : List String} {parts : Entries}
    (leaves : ∀ entry ∈ entries, entry.2.dict? = Option.none)
    (isMapping : (dict entries).atPath? path = some (.dict parts)) : path = [] := by
  cases path with
  | nil => rfl
  | cons key rest =>
      rw [atPath?_cons, dict?, Option.bind_some] at isMapping
      obtain ⟨value, found, inside⟩ := Option.bind_eq_some_iff.mp isMapping
      exact absurd inside (not_mapping_of_leaf (leaves _ (Entries.mem_of_getText? found)))

theorem completed_leaf {given standard : Value} (leaf : standard.dict? = Option.none) :
    completed given standard = given := by
  cases standard <;> first | rfl | cases leaf

theorem completedEntries_nil (parts : Entries) : completedEntries [] parts = parts := by
  induction parts with
  | nil => rfl
  | cons part rest inductionHypothesis =>
      rw [completedEntries, inductionHypothesis]
      rfl

/-- What is given at a place of the standard is there after the standard was laid under it. -/
theorem atPath?_completed_given {path : List String} :
    ∀ {given standard place value : Value}, standard.atPath? path = some place →
      given.atPath? path = some value → (place.dict? = Option.none ∨ value = .none) →
        (completed given standard).atPath? path = some value := by
  induction path with
  | nil =>
      intro given standard place value isPlace isGiven whole
      cases isPlace
      cases isGiven
      rw [atPath?]
      rcases whole with leaf | rfl
      · rw [completed_leaf leaf]
      · cases standard <;> rfl
  | cons key rest inductionHypothesis =>
      intro given standard place value isPlace isGiven whole
      rw [atPath?_cons] at isPlace isGiven ⊢
      obtain ⟨inner, reached, isInner⟩ := Option.bind_eq_some_iff.mp isPlace
      obtain ⟨parts, isParts, hasPart⟩ := Option.bind_eq_some_iff.mp reached
      obtain ⟨given', reached', isGiven'⟩ := Option.bind_eq_some_iff.mp isGiven
      obtain ⟨entries, isEntries, hasEntry⟩ := Option.bind_eq_some_iff.mp reached'
      cases dict?_eq_some_iff.mp isParts
      cases dict?_eq_some_iff.mp isEntries
      rw [completed, dict?, Option.bind_some, getText?_completedEntries, hasPart, hasEntry]
      exact inductionHypothesis isInner isGiven' whole

/-- Where nothing is given, the standard stays. -/
theorem atPath?_completed_absent {path : List String} :
    ∀ {given standard place : Value}, standard.atPath? path = some place →
      given.atPath? path = Option.none → given.Suits standard →
      (∀ before, before <+: path → given.atPath? before ≠ some .none) →
        (completed given standard).atPath? path = some place := by
  induction path with
  | nil =>
      intro given standard place isPlace isAbsent
      cases isAbsent
  | cons key rest inductionHypothesis =>
      intro given standard place isPlace isAbsent suits present
      rw [atPath?_cons] at isPlace isAbsent ⊢
      obtain ⟨inner, reached, isInner⟩ := Option.bind_eq_some_iff.mp isPlace
      obtain ⟨parts, isParts, found⟩ := Option.bind_eq_some_iff.mp reached
      cases dict?_eq_some_iff.mp isParts
      rcases suits [] parts given rfl rfl with rfl | ⟨entries, rfl⟩
      · exact absurd rfl (present [] (List.nil_prefix))
      · rw [completed, dict?, Option.bind_some, getText?_completedEntries, found]
        rw [dict?, Option.bind_some] at isAbsent
        cases found' : Entries.getText? entries key with
        | none => exact isInner
        | some given' =>
            rw [found', Option.bind_some] at isAbsent
            have deeper (path : List String) : (Value.dict entries).atPath? (key :: path) =
                given'.atPath? path := by
              rw [atPath?_cons, dict?, Option.bind_some, found', Option.bind_some]
            refine inductionHypothesis isInner isAbsent ?_ ?_
            · intro path parts' value isMapping isValue
              refine suits (key :: path) parts' value ?_ ((deeper path).trans isValue)
              rw [atPath?_cons, dict?, Option.bind_some, found]
              exact isMapping
            · intro before inFront
              rw [← deeper before]
              exact present (key :: before) (List.cons_prefix_cons.mpr ⟨rfl, inFront⟩)

end Value

/-! ### Data limited to a standard -/

namespace Value

mutual

/-- What is given at the places of a standard. -/
def limited : Value → Value → Value
  | .dict entries, .dict parts => .dict (limitedEntries entries parts)
  | given, _ => given

def limitedEntries : List (Value × Value) → Entries → Entries
  | [], _ => []
  | (key, given) :: rest, parts =>
      match key.text?.bind fun name => Entries.getText? parts name with
      | some standard => (key, limited given standard) :: limitedEntries rest parts
      | Option.none => limitedEntries rest parts

end

theorem limited_leaf {given standard : Value} (leaf : standard.dict? = Option.none) :
    limited given standard = given := by
  cases given <;> cases standard <;> first | rfl | cases leaf

theorem dict?_limited (given : Value) (parts : Entries) :
    (limited given (.dict parts)).dict? = given.dict?.map fun entries =>
      limitedEntries entries parts := by
  cases given <;> rfl

/-- At a place of the standard nothing is lost. -/
theorem getText?_limitedEntries (entries parts : Entries) (name : String) :
    Entries.getText? (limitedEntries entries parts) name =
      (Entries.getText? parts name).bind fun standard =>
        (Entries.getText? entries name).map fun given => limited given standard := by
  induction entries with
  | nil =>
      rw [limitedEntries]
      cases Entries.getText? parts name <;> rfl
  | cons entry rest inductionHypothesis =>
      obtain ⟨key, given⟩ := entry
      rw [limitedEntries, Entries.getText?_cons]
      dsimp only
      by_cases isKey : key.text? = some name
      · rw [if_pos isKey, isKey, Option.bind_some]
        cases known : Entries.getText? parts name with
        | none => rw [inductionHypothesis, known]; rfl
        | some standard =>
            rw [Entries.getText?_cons, if_pos isKey]
            rfl
      · rw [if_neg isKey]
        split
        · rw [Entries.getText?_cons, if_neg isKey]
          exact inductionHypothesis
        · exact inductionHypothesis

end Value

end DeferredText
