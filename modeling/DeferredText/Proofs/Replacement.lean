import DeferredText.Text.Search
import Mathlib.Data.List.Infix

/-!
Contract: what searching and replacing do to a text, by where the pattern occurs.

A pattern occurs where the text reads as something before it, the pattern, and
something after it. Replacement is described by the leftmost occurrence: a stretch in
which no occurrence starts is kept, an occurrence becomes the replacement.

Owns: occurrence as an equation, and the equations of replacement.

Does not own: which occurrences a text made of fragments has (`Proofs.Fragments`).
-/

namespace DeferredText

/-! ### Occurrence -/

theorem occursIn_iff_consecutive (pattern text : List Char) :
    occursIn pattern text = true ↔ pattern <:+: text := by
  induction text with
  | nil => simp [occursIn, List.isEmpty_iff]
  | cons head tail inductionHypothesis =>
      rw [occursIn, Bool.or_eq_true, List.isPrefixOf_iff_prefix, inductionHypothesis,
        List.infix_cons_iff]

theorem occursIn_iff (pattern text : List Char) :
    occursIn pattern text = true ↔ ∃ before after, text = before ++ pattern ++ after := by
  rw [occursIn_iff_consecutive]
  constructor
  · rintro ⟨before, after, split⟩
    exact ⟨before, after, split.symm⟩
  · rintro ⟨before, after, split⟩
    exact ⟨before, after, split.symm⟩

theorem containsText_iff (pattern text : String) :
    containsText pattern text = true ↔ ∃ before after, text = before ++ pattern ++ after := by
  rw [containsText, occursIn_iff]
  constructor
  · rintro ⟨before, after, split⟩
    refine ⟨String.ofList before, String.ofList after, ?_⟩
    apply String.toList_injective
    simp [split]
  · rintro ⟨before, after, rfl⟩
    exact ⟨before.toList, after.toList, by simp⟩

/-! ### Replacement -/

section Replacement

variable {pattern replacement : List Char}

theorem replaceFrom_eq_drop (skipped : Nat) (text : List Char) :
    replaceFrom pattern replacement skipped text =
      replaceAll pattern replacement (text.drop skipped) := by
  induction text generalizing skipped with
  | nil => cases skipped <;> simp [replaceFrom, replaceAll]
  | cons head tail inductionHypothesis =>
      cases skipped with
      | zero => rfl
      | succ skipped => rw [replaceFrom, inductionHypothesis, List.drop_succ_cons]

@[simp]
theorem replaceAll_nil : replaceAll pattern replacement [] = [] := by
  rfl

theorem replaceAll_occurrence (nonempty : pattern ≠ []) (rest : List Char) :
    replaceAll pattern replacement (pattern ++ rest) =
      replacement ++ replaceAll pattern replacement rest := by
  obtain ⟨head, tail, rfl⟩ := List.exists_cons_of_ne_nil nonempty
  have starts : (head :: tail).isPrefixOf (head :: (tail ++ rest)) = true := by
    rw [List.isPrefixOf_iff_prefix]
    exact ⟨rest, rfl⟩
  rw [List.cons_append, replaceAll, replaceFrom, if_pos starts, replaceFrom_eq_drop]
  simp

theorem replaceAll_cons (head : Char) (tail : List Char)
    (absent : ¬ pattern <+: head :: tail) :
    replaceAll pattern replacement (head :: tail) =
      head :: replaceAll pattern replacement tail := by
  have starts : ¬ pattern.isPrefixOf (head :: tail) = true := by
    rwa [List.isPrefixOf_iff_prefix]
  rw [replaceAll, replaceFrom, if_neg starts]
  rfl

/-- A stretch in which no occurrence starts is kept. -/
theorem replaceAll_stretch (stretch rest : List Char)
    (absent : ∀ before after, stretch = before ++ after → after ≠ [] →
      ¬ pattern <+: after ++ rest) :
    replaceAll pattern replacement (stretch ++ rest) =
      stretch ++ replaceAll pattern replacement rest := by
  induction stretch with
  | nil => rfl
  | cons head tail inductionHypothesis =>
      have here : ¬ pattern <+: head :: (tail ++ rest) :=
        absent [] (head :: tail) rfl (by simp)
      rw [List.cons_append, replaceAll_cons head (tail ++ rest) here, inductionHypothesis]
      · rfl
      · intro before after split nonempty
        exact absent (head :: before) after (by simp [split]) nonempty

theorem replaceAll_absent (text : List Char) (absent : ¬ pattern <:+: text) :
    replaceAll pattern replacement text = text := by
  have kept : replaceAll pattern replacement (text ++ []) =
      text ++ replaceAll pattern replacement [] := by
    apply replaceAll_stretch
    intro before after split _ starts
    rw [List.append_nil] at starts
    exact absent (split ▸ starts.isInfix.trans (List.suffix_append before after).isInfix)
  simpa using kept

end Replacement

/-! ### Replacement in strings -/

theorem replaceText_occurrence {pattern : String} (nonempty : pattern ≠ "")
    (replacement rest : String) :
    replaceText pattern replacement (pattern ++ rest) =
      replacement ++ replaceText pattern replacement rest := by
  apply String.toList_injective
  have characters : pattern.toList ≠ [] := by
    simpa using nonempty
  simp [replaceText, replaceAll_occurrence characters]

theorem replaceText_stretch {pattern : String} (replacement stretch rest : String)
    (absent : ∀ before after : String, stretch = before ++ after → after ≠ "" →
      ¬ ∃ further, after ++ rest = pattern ++ further) :
    replaceText pattern replacement (stretch ++ rest) =
      stretch ++ replaceText pattern replacement rest := by
  apply String.toList_injective
  simp only [replaceText, String.toList_ofList, String.toList_append]
  apply replaceAll_stretch
  rintro before after split nonempty ⟨further, starts⟩
  refine absent (String.ofList before) (String.ofList after) ?_ ?_ ⟨String.ofList further, ?_⟩
  · apply String.toList_injective
    simp [split]
  · intro empty
    apply nonempty
    simpa using congrArg String.toList empty
  · apply String.toList_injective
    simpa using starts.symm

theorem replaceText_absent {pattern text : String} (replacement : String)
    (absent : containsText pattern text = false) :
    replaceText pattern replacement text = text := by
  have notInfix : ¬ pattern.toList <:+: text.toList := by
    rw [← occursIn_iff_consecutive]
    simpa [containsText] using absent
  rw [replaceText, replaceAll_absent _ notInfix, String.ofList_toList]

end DeferredText
