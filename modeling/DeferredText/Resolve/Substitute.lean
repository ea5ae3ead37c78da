import DeferredText.Text.Search
import DeferredText.Value.Basic

/-!
Contract: placeholder tokens inside the arguments of a call.

A token may stand in any text inside lists, tuples and the values of mappings.

Owns: whether a value mentions a token, and replacing tokens by result texts.

Does not own: which results there are (`Resolve.Drain`).
-/

namespace DeferredText

/-- Result texts of placeholder tokens, in the order they were made. -/
abbrev Results := List (String × String)

namespace Results

/-- Sets the result of a token, which keeps its place, or adds it at the end. -/
def set : Results → String → String → Results
  | [], token, result => [(token, result)]
  | pair :: rest, token, result =>
      if pair.1 == token then (token, result) :: rest else pair :: set rest token result

/-- Replaces the tokens in a text, one after the other. -/
def applyTo
    (results : Results)
    (text : String) : String :=
  results.foldl (fun current pair => replaceText pair.1 pair.2 current) text

end Results

namespace Value

mutual

/-- Whether a text inside the value contains the token. -/
def mentions (token : String) : Value → Bool
  | .text content => containsText token content
  | .list items => itemsMention token items
  | .tuple items => itemsMention token items
  | .dict entries => entriesMention token entries
  | _ => false

def itemsMention (token : String) : List Value → Bool
  | [] => false
  | item :: rest => mentions token item || itemsMention token rest

def entriesMention (token : String) : List (Value × Value) → Bool
  | [] => false
  | (_, value) :: rest => mentions token value || entriesMention token rest

end

mutual

/-- The value with tokens replaced in its texts; the keys of mappings stay. -/
def substitute (results : Results) : Value → Value
  | .text content => .text (results.applyTo content)
  | .list items => .list (substituteItems results items)
  | .tuple items => .tuple (substituteItems results items)
  | .dict entries => .dict (substituteEntries results entries)
  | value => value

def substituteItems (results : Results) : List Value → List Value
  | [] => []
  | item :: rest => substitute results item :: substituteItems results rest

def substituteEntries (results : Results) : List (Value × Value) → List (Value × Value)
  | [] => []
  | (key, value) :: rest => (key, substitute results value) :: substituteEntries results rest

end

end Value

end DeferredText
