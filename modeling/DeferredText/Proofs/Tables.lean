import DeferredText.Registry.Table
import Mathlib.Data.List.Nodup

/-!
Contract: tables as mappings that keep an order.

Whatever is done to a table is described by what is kept under a name afterwards and by the
order of the names.

Owns: the laws of `Table.put` and `Table.remove`.

Does not own: the two tables of a registry (`Proofs.Ledger`).
-/

namespace DeferredText

namespace Table

variable {α : Type} {table : Table α} {name other : String} {value : α}

theorem get?_cons (row : String × α) (rest : Table α) (name : String) :
    get? (row :: rest : Table α) name = if row.1 = name then some row.2 else get? rest name := by
  unfold get?
  by_cases same : row.1 = name
  · rw [List.find?_cons_of_pos (by simpa using same), if_pos same]
    rfl
  · rw [List.find?_cons_of_neg (by simpa using same), if_neg same]

theorem names_cons (row : String × α) (rest : Table α) :
    names (row :: rest : Table α) = row.1 :: names rest :=
  rfl

/-- Something is kept under exactly the names of the table. -/
theorem mem_names_iff : name ∈ table.names ↔ (table.get? name).isSome = true := by
  induction table with
  | nil => simp [names, get?]
  | cons row rest inductionHypothesis =>
      rw [names_cons, List.mem_cons, inductionHypothesis, get?_cons]
      by_cases same : row.1 = name
      · simp [same]
      · rw [if_neg same]
        exact or_iff_right (Ne.symm same)

theorem get?_put (table : Table α) (name other : String) (value : α) :
    (table.put name value).get? other = if name = other then some value else table.get? other := by
  induction table with
  | nil => rw [put, get?_cons]
  | cons row rest inductionHypothesis =>
      rw [put]
      by_cases same : row.1 = name
      · rw [if_pos (by simpa using same), get?_cons, get?_cons, same]
        split <;> rfl
      · rw [if_neg (by simpa using same), get?_cons, get?_cons, inductionHypothesis]
        by_cases isOther : row.1 = other
        · rw [if_pos isOther, if_pos isOther, if_neg]
          exact fun named => same (isOther.trans named.symm)
        · rw [if_neg isOther, if_neg isOther]

/-- A name that is there keeps its place, and a new one comes last. -/
theorem names_put (table : Table α) (name : String) (value : α) :
    (table.put name value).names =
      if name ∈ table.names then table.names else table.names ++ [name] := by
  induction table with
  | nil => rfl
  | cons row rest inductionHypothesis =>
      rw [put, names_cons]
      by_cases same : row.1 = name
      · rw [if_pos (by simpa using same), names_cons, if_pos (by simp [same])]
      · rw [if_neg (by simpa using same), names_cons, inductionHypothesis]
        have member : name ∈ row.1 :: names rest ↔ name ∈ names rest := by
          rw [List.mem_cons]
          exact or_iff_right (Ne.symm same)
        simp only [member]
        split <;> rfl

theorem get?_remove (table : Table α) (name other : String) :
    (table.remove name).get? other = if name = other then none else table.get? other := by
  induction table with
  | nil => simp [remove, get?]
  | cons row rest inductionHypothesis =>
      unfold remove at inductionHypothesis ⊢
      rw [get?_cons]
      by_cases same : row.1 = name
      · rw [List.filter_cons_of_neg (by simpa using same), inductionHypothesis, same]
        split <;> rfl
      · rw [List.filter_cons_of_pos (by simpa using same), get?_cons, inductionHypothesis]
        by_cases isOther : row.1 = other
        · rw [if_pos isOther, if_pos isOther, if_neg]
          exact fun named => same (isOther.trans named.symm)
        · rw [if_neg isOther, if_neg isOther]

theorem names_remove (table : Table α) (name : String) :
    (table.remove name).names = table.names.filter fun other => other != name := by
  unfold names remove
  rw [List.filter_map]
  rfl

theorem nodup_put (distinct : table.names.Nodup) : (table.put name value).names.Nodup := by
  rw [names_put]
  by_cases present : name ∈ table.names
  · rwa [if_pos present]
  · rw [if_neg present, ← List.concat_eq_append]
    exact distinct.concat present

theorem nodup_remove (distinct : table.names.Nodup) : (table.remove name).names.Nodup := by
  rw [names_remove]
  exact distinct.filter _

/-- What a table lists, if nothing is listed twice. -/
theorem eq_filterMap (distinct : table.names.Nodup) :
    table = table.names.filterMap fun name => (table.get? name).map fun value => (name, value) := by
  induction table with
  | nil => rfl
  | cons row rest inductionHypothesis =>
      rw [names_cons, List.nodup_cons] at distinct
      rw [names_cons, List.filterMap_cons, get?_cons, if_pos rfl]
      congr 1
      refine (inductionHypothesis distinct.2).trans (List.filterMap_congr fun name member => ?_)
      rw [get?_cons, if_neg]
      rintro rfl
      exact distinct.1 member

end Table

end DeferredText
