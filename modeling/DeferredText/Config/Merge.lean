import DeferredText.Failure

/-!
Contract: laying one configuration mapping over another.

Mappings are merged key by key at every depth; any other value replaces what it is
laid over.

Owns: `Entries.merge`, and reading a value as a mapping or as a run of pairs.

Does not own: where the mappings come from (`Config.Loader`).
-/

namespace DeferredText

namespace Entries

mutual

/-- A value laid over the one that was there, if there was one. -/
def overlay
    (current : Option Value) : Value → Value
  | .dict override =>
      match current with
      | some (.dict base) => .dict (merge base override)
      | _ => .dict override
  | other => other

/-- A mapping with the entries of another laid over it. Known keys keep their place. -/
def merge
    (base : Entries) : List (Value × Value) → Entries
  | [] => base
  | (key, value) :: rest =>
      merge (base.insert key (overlay (base.get? key) value)) rest

end

/-- The entries of a value that has to be a mapping. -/
def ofValue (value : Value) : Outcome Entries :=
  match value with
  | .dict entries => .ok entries
  | other =>
      let described := other.typeName
      .error (.withMessage .missingAttribute s!"'{described}' object has no attribute 'items'")

/-- The items that a value gives one after the other. -/
def itemsOf? : Value → Option (List Value)
  | .list items => some items
  | .tuple items => some items
  | .dict entries => some (entries.map Prod.fst)
  | .text content =>
      some (content.toList.map fun character => .text (String.singleton character))
  | .bytes content => some (content.map fun byte => .int byte.toNat)
  | _ => none

/-- The key and the value that an item of a run of pairs consists of. -/
def pairOf
    (position : Nat)
    (item : Value) : Outcome (Value × Value) :=
  match itemsOf? item with
  | none =>
      .error (.wrongType
        s!"cannot convert dictionary update sequence element #{position} to a sequence")
  | some [key, value] =>
      match key.unhashable? with
      | some typeName => .error (.unhashable typeName)
      | none => .ok (key, value)
  | some parts =>
      let count := parts.length
      .error (.badValue
        s!"dictionary update sequence element #{position} has length {count}; 2 is required")

/-- A mapping made of a mapping or of a run of pairs. -/
def copyOf (value : Value) : Outcome Entries :=
  match value, itemsOf? value with
  | .dict entries, _ => .ok entries
  | _, some items => do
      let pairs ← items.zipIdx.mapM fun item => pairOf item.2 item.1
      return ofPairs pairs
  | other, none =>
      let described := other.typeName
      .error (.wrongType s!"'{described}' object is not iterable")

end Entries

end DeferredText
