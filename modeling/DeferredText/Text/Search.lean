/-!
Contract: finding, replacing and splitting runs of characters.

Texts are lists of characters here, so every operation is a recursion over the text.

Owns: occurrence, leftmost replacement of all occurrences, splitting and joining, and where a
stretch of accepted characters ends.

Does not own: patterns that are not fixed texts (`Placeholder.Shape`, `Template.Segment`).
-/

namespace DeferredText

/-- Whether `pattern` is a run of consecutive characters of the text. -/
def occursIn
    (pattern : List Char) : List Char → Bool
  | [] => pattern.isEmpty
  | head :: tail => pattern.isPrefixOf (head :: tail) || occursIn pattern tail

/-- Replaces the occurrences of a nonempty pattern, leftmost first and without
overlap; the next `skipped` characters belong to an occurrence already replaced. -/
def replaceFrom
    (pattern replacement : List Char) : Nat → List Char → List Char
  | _, [] => []
  | skipped + 1, _ :: tail => replaceFrom pattern replacement skipped tail
  | 0, head :: tail =>
      if pattern.isPrefixOf (head :: tail) then
        replacement ++ replaceFrom pattern replacement (pattern.length - 1) tail
      else head :: replaceFrom pattern replacement 0 tail

def replaceAll
    (pattern replacement text : List Char) : List Char :=
  replaceFrom pattern replacement 0 text

/-- The pieces of a text between the occurrences of a separator. -/
def splitOnChar
    (separator : Char) : List Char → List (List Char)
  | [] => [[]]
  | head :: tail =>
      match splitOnChar separator tail with
      | [] => [[head]]
      | first :: rest =>
          if head = separator then [] :: first :: rest else (head :: first) :: rest

/-- `occursIn` for strings. -/
def containsText
    (pattern text : String) : Bool :=
  occursIn pattern.toList text.toList

/-- `replaceAll` for strings. -/
def replaceText
    (pattern replacement text : String) : String :=
  String.ofList (replaceAll pattern.toList replacement.toList text.toList)

/-- Whether a text starts with another. -/
def startsWithText
    (start text : String) : Bool :=
  start.toList.isPrefixOf text.toList

section Stretches

variable {accepts : Char → Bool} {stretch rest : List Char} {ending : Char}

/-- A stretch of accepted characters ends at the first one that is not accepted. -/
theorem takeWhile_stretch (inside : ∀ character ∈ stretch, accepts character = true)
    (ends : accepts ending = false) : (stretch ++ ending :: rest).takeWhile accepts = stretch := by
  rw [List.takeWhile_append_of_pos inside, List.takeWhile_cons_of_neg (by simp [ends]),
    List.append_nil]

theorem dropWhile_stretch (inside : ∀ character ∈ stretch, accepts character = true)
    (ends : accepts ending = false) :
    (stretch ++ ending :: rest).dropWhile accepts = ending :: rest := by
  rw [List.dropWhile_append_of_pos inside, List.dropWhile_cons_of_neg (by simp [ends])]

theorem bne_of_notMem (absent : ending ∉ stretch) :
    ∀ character ∈ stretch, (character != ending) = true := by
  intro character member
  rw [bne_iff_ne]
  rintro rfl
  exact absent member

end Stretches

end DeferredText
