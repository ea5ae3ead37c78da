import DeferredText.Yaml.Token
import DeferredText.Yaml.Schema

/-!
Contract: the nodes that a YAML text describes.

A node is a scalar, a sequence or a mapping with a tag. Names given to nodes stand
for them from then on.

Owns: the node type, the reading of nodes from tokens, and `Node.ofText?`, which
fails where the text breaks the rules.

Does not own: values of nodes (`Yaml.Value`).
-/

namespace DeferredText.Yaml

inductive Node where
  | scalar (tag : Tag) (text : List Char)
  | sequence (tag : Tag) (items : List Node)
  | mapping (tag : Tag) (pairs : List (Node × Node))
deriving Repr

/-- What the handles of tags stand for. -/
abbrev Handles := List (List Char × List Char)

namespace Handles

def standard : Handles :=
  [(['!'], ['!']), (['!', '!'], Tag.known)]

def get?
    (handles : Handles)
    (name : List Char) : Option (List Char) :=
  (List.find? (fun entry => entry.1 == name) handles).map Prod.snd

/-- The full name of a tag. -/
def resolve?
    (handles : Handles)
    (name : TagName) : Option (List Char) :=
  match name.handle with
  | none => some name.suffix
  | some handle => (handles.get? handle).map (· ++ name.suffix)

end Handles

namespace Node

/-- The empty scalar that stands for a missing node. -/
def empty : Node :=
  .scalar .null []

/-- Tokens still to read, and the nodes that have names. A name without a node is that
of a node still being read. -/
structure Reader where
  tokens : List Token
  named : List (List Char × Option Node)

abbrev Read := StateT Reader Option

/-- The next token. -/
def peek : Read Token := do
  return (← get).tokens.headD .finish

/-- Moves over the next token. -/
def skip : Read Unit :=
  modify fun reader => { reader with tokens := reader.tokens.tail }

/-- Moves over a token that has to be the next one. -/
def expect (token : Token) : Read Unit := do
  if (← peek) == token then skip else failure

/-- Moves over a token if it is the next one. -/
def accept (token : Token) : Read Bool := do
  if (← peek) == token then
    skip
    return true
  else return false

/-- The node of a name that is used again. -/
def namedNode (name : List Char) : Read Node := do
  match (← get).named.find? fun entry => entry.1 == name with
  | some (_, some node) => return node
  | _ => failure

/-- Announces a name, which no node may have yet. -/
def announce (name : List Char) : Read Unit := do
  let reader ← get
  if reader.named.any fun entry => entry.1 == name then failure
  else set { reader with named := (name, none) :: reader.named }

def bindName
    (name : List Char)
    (node : Node) : Read Unit :=
  modify fun reader =>
    { reader with
      named :=
        reader.named.map fun entry => if entry.1 == name then (name, some node) else entry }

/-- The name and the tag in front of a node, in either order. -/
def properties : Read (Option (List Char) × Option TagName) := do
  match ← peek with
  | .anchor name =>
      skip
      match ← peek with
      | .tag tag =>
          skip
          return (some name, some tag)
      | _ => return (some name, none)
  | .tag tag =>
      skip
      match ← peek with
      | .anchor name =>
          skip
          return (some name, some tag)
      | _ => return (none, some tag)
  | _ => return (none, none)

/-- The tag of a collection or a quoted scalar. -/
def tagOr
    (standard : Tag)
    (name : Option (List Char)) : Tag :=
  match name with
  | none => standard
  | some found => if found == ['!'] then standard else Tag.ofName found

/-- The tag of a scalar; a lone exclamation mark leaves it to the text. -/
def scalarTag
    (name : Option (List Char))
    (text : List Char)
    (isPlain : Bool) : Tag :=
  if isPlain || name.isSome then tagOr (Tag.ofPlain text) name else .string

def endsBlockItem (token : Token) : Bool :=
  token == .blockEntry || token == .blockEnd

def endsBlockPart (token : Token) : Bool :=
  token == .key || token == .value || token == .blockEnd

def endsFlowItem (token : Token) : Bool :=
  token == .flowEntry || token == .flowSequenceEnd

def endsFlowPart (token : Token) : Bool :=
  token == .flowEntry || token == .flowMappingEnd

mutual

/-- A node. Block collections are allowed where `isBlock` holds, and a sequence that is
not indented where `isPart` holds. -/
def node
    (handles : Handles)
    (isBlock isPart : Bool) : Nat → Read Node
  | 0 => failure
  | fuel + 1 => do
      match ← peek with
      | .alias name =>
          skip
          namedNode name
      | _ =>
          let (name, tagName) ← properties
          let tag ←
            match tagName with
            | none => pure none
            | some written =>
                match handles.resolve? written with
                | some resolved => pure (some resolved)
                | none => failure
          match name with
          | some announced => announce announced
          | none => pure ()
          let found ← content handles isBlock isPart tag (name.isSome || tag.isSome) fuel
          match name with
          | some announced => bindName announced found
          | none => pure ()
          return found

/-- A node behind its name and tag. -/
def content
    (handles : Handles)
    (isBlock isPart : Bool)
    (tag : Option (List Char))
    (mayBeEmpty : Bool) : Nat → Read Node
  | 0 => failure
  | fuel + 1 => do
      match ← peek with
      | .scalar text isPlain =>
          skip
          return .scalar (scalarTag tag text isPlain) text
      | .flowSequence =>
          skip
          return .sequence (tagOr .sequence tag) (← flowItems handles true fuel)
      | .flowMapping =>
          skip
          return .mapping (tagOr .mapping tag) (← flowPairs handles true fuel)
      | next =>
          if isPart && next == .blockEntry then
            return .sequence (tagOr .sequence tag) (← partItems handles fuel)
          else if isBlock && next == .blockSequence then
            skip
            return .sequence (tagOr .sequence tag) (← blockItems handles fuel)
          else if isBlock && next == .blockMapping then
            skip
            return .mapping (tagOr .mapping tag) (← blockPairs handles fuel)
          else if mayBeEmpty then return .scalar (scalarTag tag [] tag.isNone) []
          else failure

/-- A node, or the empty scalar in front of a token that ends its place. -/
def nodeUnless
    (handles : Handles)
    (isBlock isPart : Bool)
    (ends : Token → Bool) : Nat → Read Node
  | 0 => failure
  | fuel + 1 => do
      if ends (← peek) then return empty else node handles isBlock isPart fuel

/-- The items of an indented sequence, up to its end. -/
def blockItems (handles : Handles) : Nat → Read (List Node)
  | 0 => failure
  | fuel + 1 => do
      if ← accept .blockEntry then
        let item ← nodeUnless handles true false endsBlockItem fuel
        return item :: (← blockItems handles fuel)
      else
        expect .blockEnd
        return []

/-- The items of a sequence that is not indented. -/
def partItems (handles : Handles) : Nat → Read (List Node)
  | 0 => failure
  | fuel + 1 => do
      if ← accept .blockEntry then
        let item ←
          nodeUnless handles true false
            (fun token => token == .blockEntry || endsBlockPart token) fuel
        return item :: (← partItems handles fuel)
      else return []

/-- The entries of an indented mapping, up to its end. -/
def blockPairs (handles : Handles) : Nat → Read (List (Node × Node))
  | 0 => failure
  | fuel + 1 => do
      if ← accept .key then
        let key ← nodeUnless handles true true endsBlockPart fuel
        let value ←
          if ← accept .value then nodeUnless handles true true endsBlockPart fuel
          else pure empty
        return (key, value) :: (← blockPairs handles fuel)
      else
        expect .blockEnd
        return []

/-- The items of a sequence in brackets, up to its end. A key among them makes a mapping
with one entry. -/
def flowItems
    (handles : Handles)
    (isFirst : Bool) : Nat → Read (List Node)
  | 0 => failure
  | fuel + 1 => do
      if ← accept .flowSequenceEnd then return []
      else
        if !isFirst then expect .flowEntry
        if ← accept .key then
          let key ←
            nodeUnless handles false false (fun token => token == .value || endsFlowItem token) fuel
          let value ←
            if ← accept .value then nodeUnless handles false false endsFlowItem fuel
            else pure empty
          return .mapping .mapping [(key, value)] :: (← flowItems handles false fuel)
        else if ← accept .flowSequenceEnd then return []
        else
          let item ← node handles false false fuel
          return item :: (← flowItems handles false fuel)

/-- The entries of a mapping in braces, up to its end. -/
def flowPairs
    (handles : Handles)
    (isFirst : Bool) : Nat → Read (List (Node × Node))
  | 0 => failure
  | fuel + 1 => do
      if ← accept .flowMappingEnd then return []
      else
        if !isFirst then expect .flowEntry
        if ← accept .key then
          let key ←
            nodeUnless handles false false (fun token => token == .value || endsFlowPart token) fuel
          let value ←
            if ← accept .value then nodeUnless handles false false endsFlowPart fuel
            else pure empty
          return (key, value) :: (← flowPairs handles false fuel)
        else if ← accept .flowMappingEnd then return []
        else
          let key ← node handles false false fuel
          return (key, empty) :: (← flowPairs handles false fuel)

end

/-! ### Documents -/

/-- The handles that directives set, behind those of the standard. -/
def directives
    (hasVersion : Bool)
    (handles : Handles) : Nat → Read Handles
  | 0 => failure
  | fuel + 1 => do
      match ← peek with
      | .version major =>
          skip
          if hasVersion || major.dropWhile (· == '0') != ['1'] then failure
          else directives true handles fuel
      | .handle name target =>
          skip
          if (handles.get? name).isSome then failure
          else directives hasVersion ((name, target) :: handles) fuel
      | .remark =>
          skip
          directives hasVersion handles fuel
      | _ => return handles ++ Handles.standard

/-- Moves over marks of the end of a document. -/
def skipEnds : Nat → Read Unit
  | 0 => failure
  | fuel + 1 => do
      if ← accept .documentEnd then skipEnds fuel else return

/-- Whether a token stands where no document starts by itself. -/
def startsExplicitly (token : Token) : Bool :=
  match token with
  | .version _ => true
  | .handle _ _ => true
  | .remark => true
  | .documentStart => true
  | _ => false

def endsDocument (token : Token) : Bool :=
  startsExplicitly token || token == .documentEnd || token == .finish

/-- The only document, if there is one. -/
def document (fuel : Nat) : Read (Option Node) := do
  let first ← peek
  if first == .finish then return none
  else
    let root ←
      if startsExplicitly first then do
        let handles ← directives false [] fuel
        expect .documentStart
        nodeUnless handles true false endsDocument fuel
      else node Handles.standard true false fuel
    skipEnds fuel
    expect .finish
    return some root

/-- The root node of a text; none if the text holds no document. -/
def ofText? (text : List Char) : Option (Option Node) := do
  let tokens ← Token.ofText? text
  let (root, _) ← (document (4 * tokens.length + 4)).run ⟨tokens, []⟩
  return root

end Node

end DeferredText.Yaml
