import DeferredText.Resolve.Drain
import Mathlib.Data.List.Basic

/-!
Contract: the texts inside values and arguments.

The texts inside a value are searched for tokens and rewritten, except for those that
are part of a key of a mapping, which are neither searched nor rewritten.

Owns: the texts inside of values, and what searching and rewriting do to them.

Does not own: when arguments are searched and rewritten (`Resolve.Drain`).
-/

namespace DeferredText

namespace Value

mutual

/-- The texts inside a value, except for those inside of keys. -/
def contents : Value → List String
  | .text content => [content]
  | .list items => itemsContents items
  | .tuple items => itemsContents items
  | .dict entries => entriesContents entries
  | _ => []

def itemsContents : List Value → List String
  | [] => []
  | item :: rest => contents item ++ itemsContents rest

def entriesContents : List (Value × Value) → List String
  | [] => []
  | (_, value) :: rest => contents value ++ entriesContents rest

end

mutual

/-- The texts inside the keys of a value. -/
def keyContents : Value → List String
  | .list items => itemsKeyContents items
  | .tuple items => itemsKeyContents items
  | .dict entries => entriesKeyContents entries
  | _ => []

def itemsKeyContents : List Value → List String
  | [] => []
  | item :: rest => keyContents item ++ itemsKeyContents rest

def entriesKeyContents : List (Value × Value) → List String
  | [] => []
  | (key, value) :: rest =>
      contents key ++ keyContents key ++ keyContents value ++ entriesKeyContents rest

end

mutual

/-- A value mentions a token if one of its texts does; those inside of keys do not count. -/
theorem mentions_eq_any (token : String) :
    ∀ value : Value, value.mentions token = value.contents.any (containsText token)
  | .text content => by simp [mentions, contents]
  | .list items => itemsMention_eq_any token items
  | .tuple items => itemsMention_eq_any token items
  | .dict entries => entriesMention_eq_any token entries
  | .none | .bool _ | .int _ | .float _ | .complex _ _ | .bytes _ | .ellipsis | .object _ _
  | .exception _ _ | .opaqueOf _ => rfl

theorem itemsMention_eq_any (token : String) :
    ∀ items : List Value, itemsMention token items = (itemsContents items).any (containsText token)
  | [] => rfl
  | item :: rest => by
      rw [itemsMention, itemsContents, List.any_append, mentions_eq_any token item,
        itemsMention_eq_any token rest]

theorem entriesMention_eq_any (token : String) :
    ∀ entries : List (Value × Value),
      entriesMention token entries = (entriesContents entries).any (containsText token)
  | [] => rfl
  | (_, value) :: rest => by
      rw [entriesMention, entriesContents, List.any_append, mentions_eq_any token value,
        entriesMention_eq_any token rest]

end

mutual

theorem contents_substitute (results : Results) :
    ∀ value : Value, (value.substitute results).contents = value.contents.map results.applyTo
  | .text content => by simp [substitute, contents]
  | .list items => itemsContents_substitute results items
  | .tuple items => itemsContents_substitute results items
  | .dict entries => entriesContents_substitute results entries
  | .none | .bool _ | .int _ | .float _ | .complex _ _ | .bytes _ | .ellipsis | .object _ _
  | .exception _ _ | .opaqueOf _ => rfl

theorem itemsContents_substitute (results : Results) :
    ∀ items : List Value, itemsContents (substituteItems results items) =
      (itemsContents items).map results.applyTo
  | [] => rfl
  | item :: rest => by
      rw [substituteItems, itemsContents, itemsContents, List.map_append,
        contents_substitute results item, itemsContents_substitute results rest]

theorem entriesContents_substitute (results : Results) :
    ∀ entries : List (Value × Value), entriesContents (substituteEntries results entries) =
      (entriesContents entries).map results.applyTo
  | [] => rfl
  | (_, value) :: rest => by
      rw [substituteEntries, entriesContents, entriesContents, List.map_append,
        contents_substitute results value, entriesContents_substitute results rest]

end

mutual

theorem keyContents_substitute (results : Results) :
    ∀ value : Value, (value.substitute results).keyContents = value.keyContents
  | .list items => itemsKeyContents_substitute results items
  | .tuple items => itemsKeyContents_substitute results items
  | .dict entries => entriesKeyContents_substitute results entries
  | .text _ | .none | .bool _ | .int _ | .float _ | .complex _ _ | .bytes _ | .ellipsis
  | .object _ _ | .exception _ _ | .opaqueOf _ => rfl

theorem itemsKeyContents_substitute (results : Results) :
    ∀ items : List Value, itemsKeyContents (substituteItems results items) = itemsKeyContents items
  | [] => rfl
  | item :: rest => by
      rw [substituteItems, itemsKeyContents, itemsKeyContents, keyContents_substitute results item,
        itemsKeyContents_substitute results rest]

theorem entriesKeyContents_substitute (results : Results) :
    ∀ entries : List (Value × Value),
      entriesKeyContents (substituteEntries results entries) = entriesKeyContents entries
  | [] => rfl
  | (key, value) :: rest => by
      rw [substituteEntries, entriesKeyContents, entriesKeyContents,
        keyContents_substitute results value, entriesKeyContents_substitute results rest]

end

end Value

namespace Arguments

variable (results : Results) (arguments : Arguments)

/-- The texts inside of arguments, except for those inside of keys. -/
def contents : List String :=
  Value.itemsContents arguments.positional ++
    arguments.keywords.flatMap fun pair => pair.2.contents

/-- The texts inside the keys in arguments. -/
def keyContents : List String :=
  Value.itemsKeyContents arguments.positional ++
    arguments.keywords.flatMap fun pair => pair.2.keyContents

theorem mentions_eq_any (token : String) :
    arguments.mentions token = arguments.contents.any (containsText token) := by
  have keywords : (arguments.keywords.any fun pair => pair.2.mentions token) =
      (arguments.keywords.flatMap fun pair => pair.2.contents).any (containsText token) := by
    rw [List.any_flatMap]
    exact congrArg _ (funext fun pair => Value.mentions_eq_any token pair.2)
  rw [mentions, contents, List.any_append, Value.itemsMention_eq_any, keywords]

theorem mentions_iff {token : String} :
    arguments.mentions token = true ↔ ∃ text ∈ arguments.contents, containsText token text := by
  rw [mentions_eq_any, List.any_eq_true]

theorem contents_substitute :
    (arguments.substitute results).contents = arguments.contents.map results.applyTo := by
  rw [substitute, contents, contents, List.map_append, List.map_flatMap, List.flatMap_map,
    Value.itemsContents_substitute]
  simp only [Value.contents_substitute]

theorem keyContents_substitute :
    (arguments.substitute results).keyContents = arguments.keyContents := by
  rw [substitute, keyContents, keyContents, List.flatMap_map, Value.itemsKeyContents_substitute]
  simp only [Value.keyContents_substitute]

/-- No token occurs in a text inside of the arguments, be it in a key or not. -/
def Free (tokens : List String) : Prop :=
  ∀ text ∈ arguments.contents ++ arguments.keyContents, ∀ token ∈ tokens,
    containsText token text = false

end Arguments

namespace Results

variable {results : Results} {token result : String}

/-- The result of a token that has none yet comes last. -/
theorem set_of_notMem (fresh : token ∉ results.map Prod.fst) :
    results.set token result = results ++ [(token, result)] := by
  induction results with
  | nil => rfl
  | cons pair rest inductionHypothesis =>
      rw [List.map_cons, List.mem_cons, not_or] at fresh
      have distinct : (pair.1 == token) = false := by
        rw [beq_eq_false_iff_ne]
        exact Ne.symm fresh.1
      rw [set, distinct, inductionHypothesis fresh.2]
      rfl

theorem applyTo_append (text : String) :
    applyTo (results ++ [(token, result)]) text = replaceText token result (results.applyTo text) := by
  rw [applyTo, List.foldl_append]
  rfl

end Results

end DeferredText
