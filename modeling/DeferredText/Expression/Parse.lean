import DeferredText.Expression.Embedded
import DeferredText.Expression.Syntax
import DeferredText.Expression.Token

/-!
Contract: reading an expression from its tokens.

Every reader takes the tokens left and returns what it read with the tokens after
it. The grammar is read with one token of lookahead, two for named arguments, so
each reader decides once and never goes back.

Owns: the whole expression grammar, including the constructs that templates refuse.

Does not own: which expressions templates accept (`Expression.Problem`).
-/

namespace DeferredText

namespace Parse

def symbolAhead (spelling : String) : List Token → Bool
  | .symbol found :: _ => found == spelling
  | _ => false

def reservedAhead (word : String) : List Token → Bool
  | .reserved found :: _ => found == word
  | _ => false

def afterSymbol?
    (spelling : String)
    (tokens : List Token) : Option (List Token) :=
  if symbolAhead spelling tokens then some (tokens.drop 1) else none

def afterReserved?
    (word : String)
    (tokens : List Token) : Option (List Token) :=
  if reservedAhead word tokens then some (tokens.drop 1) else none

/-- Binary operators from the weakest to the strongest binding. -/
def binaryLevels : List (List (String × BinaryOperator)) :=
  [ [("|", .pipe)],
    [("^", .beyond .bitXor)],
    [("&", .beyond .bitAnd)],
    [("<<", .beyond .leftShift), (">>", .beyond .rightShift)],
    [("+", .beyond .add), ("-", .beyond .subtract)],
    [("*", .beyond .multiply), ("/", .beyond .divide), ("//", .beyond .floorDivide),
      ("%", .beyond .modulo), ("@", .beyond .matrixMultiply)] ]

def operatorAhead?
    (operators : List (String × BinaryOperator)) : List Token → Option BinaryOperator
  | .symbol found :: _ => (operators.find? fun pair => pair.1 == found).map Prod.snd
  | _ => none

/-- A comparison operator at the front, and the tokens after it. -/
def comparison? : List Token → Option (Construct × List Token)
  | .symbol "==" :: rest => some (.equal, rest)
  | .symbol "!=" :: rest => some (.notEqual, rest)
  | .symbol "<=" :: rest => some (.lessEqual, rest)
  | .symbol "<" :: rest => some (.less, rest)
  | .symbol ">=" :: rest => some (.greaterEqual, rest)
  | .symbol ">" :: rest => some (.greater, rest)
  | .reserved "not" :: .reserved "in" :: rest => some (.notMember, rest)
  | .reserved "in" :: rest => some (.member, rest)
  | .reserved "is" :: .reserved "not" :: rest => some (.notIdentical, rest)
  | .reserved "is" :: rest => some (.identical, rest)
  | _ => none

def leadingTexts : List Token → List TextLiteral × List Token
  | .quoted literal :: rest =>
      let pair := leadingTexts rest
      (literal :: pair.1, pair.2)
  | tokens => ([], tokens)

mutual

/-- The expression as a place that is bound, if it can be one. -/
def asTarget? : Expr → Option Expr
  | .name identifier _ => some (.name identifier .bind)
  | .member base field _ => some (.member base field .bind)
  | .subscript base key _ => some (.subscript base key .bind)
  | .list items _ => (asTargets? items).map fun targets => .list targets .bind
  | .tuple items _ => (asTargets? items).map fun targets => .tuple targets .bind
  | .beyond .starred parts =>
      (asTargets? parts).map fun targets => .beyond .starred (targets ++ [Expr.mark .store])
  | _ => none

def asTargets? : List Expr → Option (List Expr)
  | [] => some []
  | item :: rest => do
      let target ← asTarget? item
      return target :: (← asTargets? rest)

end

/-- The parameters of an anonymous function as they are collected. -/
structure Parameters where
  positional : Nat
  defaults : List Expr
  sawSlash : Bool
  sawStar : Bool
  hasVariadic : Bool
  named : Nat
  namedDefaults : List Expr
  hasKeywords : Bool

def Parameters.none : Parameters :=
  ⟨0, [], false, false, false, 0, [], false⟩

def Parameters.node (parameters : Parameters) : Expr :=
  let marks (count : Nat) : List Expr := List.replicate count (Expr.mark .parameter)
  let flag (present : Bool) : List Expr := if present then marks 1 else []
  .beyond .parameters
    (marks parameters.positional ++ flag parameters.hasVariadic ++ marks parameters.named ++
      parameters.namedDefaults ++ flag parameters.hasKeywords ++ parameters.defaults)

/-- How far the arguments of a call have come: named arguments end the positional
ones, and an unpacked mapping ends the unpacked sequences. -/
inductive ArgumentStage where
  | positional
  | named
  | unpacked
deriving DecidableEq

mutual

def expression? : Nat → List Token → Option (Expr × List Token)
  | 0, _ => none
  | fuel + 1, tokens =>
      if reservedAhead "lambda" tokens then lambda? fuel (tokens.drop 1)
      else do
        let (body, afterBody) ← disjunction? fuel tokens
        if reservedAhead "if" afterBody then
          let (test, afterTest) ← disjunction? fuel (afterBody.drop 1)
          let (other, rest) ← expression? fuel (← afterReserved? "else" afterTest)
          return (.beyond .ifExp [test, body, other], rest)
        else return (body, afterBody)

/-- An expression, or a name given a value on the way. -/
def namedExpression? : Nat → List Token → Option (Expr × List Token)
  | 0, _ => none
  | fuel + 1, .name identifier :: .symbol ":=" :: rest => do
      let (value, after) ← expression? fuel rest
      return (.beyond .namedExpr [.name identifier .bind, value], after)
  | fuel + 1, tokens => do
      let (value, rest) ← expression? fuel tokens
      if symbolAhead ":=" rest then none else return (value, rest)

/-- An item of a display, which a star unpacks. -/
def displayItem? : Nat → List Token → Option (Expr × List Token)
  | 0, _ => none
  | fuel + 1, tokens =>
      if symbolAhead "*" tokens then do
        let (value, rest) ← binary? fuel binaryLevels (tokens.drop 1)
        return (.beyond .starred [value], rest)
      else namedExpression? fuel tokens

/-- Items separated by commas up to a closing bracket, which is read too. -/
def displayItems?
    (closer : String) : Nat → List Token → Option (List Expr × List Token)
  | 0, _ => none
  | fuel + 1, tokens =>
      match afterSymbol? closer tokens with
      | some rest => some ([], rest)
      | none => do
          let (item, afterItem) ← displayItem? fuel tokens
          match afterSymbol? closer afterItem with
          | some rest => return ([item], rest)
          | none =>
              let (items, rest) ← displayItems? closer fuel (← afterSymbol? "," afterItem)
              return (item :: items, rest)

/-- One expression or several separated by commas, which a star may unpack. -/
def starExpressions? : Nat → List Token → Option (Expr × List Token)
  | 0, _ => none
  | fuel + 1, tokens => do
      let (items, hasComma, rest) ← starExpressionItems? fuel tokens
      match items, hasComma with
      | [item], false => return (item, rest)
      | _, _ => return (.tuple items .read, rest)

def starExpressionItems? : Nat → List Token → Option (List Expr × Bool × List Token)
  | 0, _ => none
  | fuel + 1, tokens => do
      let (item, afterItem) ←
        if symbolAhead "*" tokens then do
          let (value, rest) ← binary? fuel binaryLevels (tokens.drop 1)
          pure (Expr.beyond .starred [value], rest)
        else expression? fuel tokens
      match afterSymbol? "," afterItem with
      | none => return ([item], false, afterItem)
      | some afterComma =>
          match starExpressionItems? fuel afterComma with
          | some (items, _, rest) => return (item :: items, true, rest)
          | none => return ([item], true, afterComma)

def yield? : Nat → List Token → Option (Expr × List Token)
  | 0, _ => none
  | fuel + 1, tokens =>
      if reservedAhead "from" tokens then do
        let (value, rest) ← expression? fuel (tokens.drop 1)
        return (.beyond .yieldFrom [value], rest)
      else if symbolAhead ")" tokens then return (.beyond .yield [], tokens)
      else do
        let (value, rest) ← starExpressions? fuel tokens
        return (.beyond .yield [value], rest)

def disjunction? : Nat → List Token → Option (Expr × List Token)
  | 0, _ => none
  | fuel + 1, tokens => do
      let (operands, rest) ← operands? "or" fuel tokens
      match operands with
      | [operand] => return (operand, rest)
      | _ => return (.beyond .boolOp (Expr.mark .or :: operands), rest)

def conjunction? : Nat → List Token → Option (Expr × List Token)
  | 0, _ => none
  | fuel + 1, tokens => do
      let (operands, rest) ← operands? "and" fuel tokens
      match operands with
      | [operand] => return (operand, rest)
      | _ => return (.beyond .boolOp (Expr.mark .and :: operands), rest)

/-- Operands joined by a logical word. -/
def operands?
    (word : String) : Nat → List Token → Option (List Expr × List Token)
  | 0, _ => none
  | fuel + 1, tokens => do
      let (operand, afterOperand) ←
        if word == "or" then conjunction? fuel tokens else inversion? fuel tokens
      match afterReserved? word afterOperand with
      | none => return ([operand], afterOperand)
      | some afterWord =>
          let (operands, rest) ← operands? word fuel afterWord
          return (operand :: operands, rest)

def inversion? : Nat → List Token → Option (Expr × List Token)
  | 0, _ => none
  | fuel + 1, tokens =>
      if reservedAhead "not" tokens then do
        let (operand, rest) ← inversion? fuel (tokens.drop 1)
        return (.unary (.beyond .not) operand, rest)
      else do
        let (left, afterLeft) ← binary? fuel binaryLevels tokens
        let (operators, comparators, rest) ← comparisons? fuel afterLeft
        if operators.isEmpty then return (left, rest)
        else return (.beyond .compare (left :: operators.map Expr.mark ++ comparators), rest)

def comparisons? : Nat → List Token → Option (List Construct × List Expr × List Token)
  | 0, _ => none
  | fuel + 1, tokens =>
      match comparison? tokens with
      | none => some ([], [], tokens)
      | some (operator, afterOperator) => do
          let (right, afterRight) ← binary? fuel binaryLevels afterOperator
          let (operators, comparators, rest) ← comparisons? fuel afterRight
          return (operator :: operators, right :: comparators, rest)

/-- Operands of the given levels and stronger ones, grouped to the left. -/
def binary? : Nat → List (List (String × BinaryOperator)) → List Token → Option (Expr × List Token)
  | 0, _, _ => none
  | fuel + 1, [], tokens => factor? fuel tokens
  | fuel + 1, operators :: stronger, tokens => do
      let (left, rest) ← binary? fuel stronger tokens
      binaryRest? fuel operators stronger left rest

def binaryRest? : Nat → List (String × BinaryOperator) →
    List (List (String × BinaryOperator)) → Expr → List Token → Option (Expr × List Token)
  | 0, _, _, _, _ => none
  | fuel + 1, operators, stronger, left, tokens =>
      match operatorAhead? operators tokens with
      | none => some (left, tokens)
      | some operator => do
          let (right, rest) ← binary? fuel stronger (tokens.drop 1)
          binaryRest? fuel operators stronger (.binary left operator right) rest

def factor? : Nat → List Token → Option (Expr × List Token)
  | 0, _ => none
  | fuel + 1, .symbol "+" :: rest => do
      let (operand, after) ← factor? fuel rest
      return (.unary .plus operand, after)
  | fuel + 1, .symbol "-" :: rest => do
      let (operand, after) ← factor? fuel rest
      return (.unary .minus operand, after)
  | fuel + 1, .symbol "~" :: rest => do
      let (operand, after) ← factor? fuel rest
      return (.unary (.beyond .invert) operand, after)
  | fuel + 1, tokens => do
      let (base, afterBase) ←
        if reservedAhead "await" tokens then do
          let (awaited, rest) ← primary? fuel (tokens.drop 1)
          pure (Expr.beyond .await [awaited], rest)
        else primary? fuel tokens
      match afterSymbol? "**" afterBase with
      | none => return (base, afterBase)
      | some afterPower =>
          let (exponent, rest) ← factor? fuel afterPower
          return (.binary base (.beyond .power) exponent, rest)

def primary? : Nat → List Token → Option (Expr × List Token)
  | 0, _ => none
  | fuel + 1, tokens => do
      let (base, rest) ← atom? fuel tokens
      trailers? fuel base rest

/-- Attributes, calls and subscripts after an atom. -/
def trailers? : Nat → Expr → List Token → Option (Expr × List Token)
  | 0, _, _ => none
  | fuel + 1, base, tokens =>
      match tokens with
      | .symbol "." :: .name field :: rest => trailers? fuel (.member base field .read) rest
      | .symbol "." :: _ => none
      | .symbol "(" :: rest => do
          let (arguments, keywords, after) ← arguments? fuel .positional true rest
          trailers? fuel (.call base arguments keywords) after
      | .symbol "[" :: rest => do
          let (key, after) ← subscriptKey? fuel rest
          trailers? fuel (.subscript base key .read) after
      | _ => some (base, tokens)

/-- The arguments of a call up to its closing bracket. A generator may stand alone
as the `isFirst` argument without brackets of its own. -/
def arguments? : Nat → ArgumentStage → Bool → List Token →
    Option (List Expr × List (Option String × Expr) × List Token)
  | 0, _, _, _ => none
  | fuel + 1, stage, isFirst, tokens =>
      match tokens with
      | .symbol ")" :: rest => some ([], [], rest)
      | .symbol "*" :: rest => do
          if stage = .unpacked then none
          let (value, after) ← expression? fuel rest
          let (arguments, keywords, final) ← moreArguments? fuel stage after
          return (.beyond .starred [value] :: arguments, keywords, final)
      | .symbol "**" :: rest => do
          let (value, after) ← expression? fuel rest
          let (arguments, keywords, final) ← moreArguments? fuel .unpacked after
          return (arguments, (none, value) :: keywords, final)
      | .name keyword :: .symbol "=" :: rest => do
          let (value, after) ← expression? fuel rest
          let laterStage := if stage = .unpacked then ArgumentStage.unpacked else .named
          let (arguments, keywords, final) ← moreArguments? fuel laterStage after
          return (arguments, (some keyword, value) :: keywords, final)
      | _ => do
          let (value, after) ← namedExpression? fuel tokens
          if reservedAhead "for" after || reservedAhead "async" after then
            if !isFirst then none
            let (clauses, afterClauses) ← clauses? fuel after
            let rest ← afterSymbol? ")" afterClauses
            return ([.beyond .generatorExp (value :: clauses)], [], rest)
          else
            if stage ≠ .positional then none
            let (arguments, keywords, final) ← moreArguments? fuel stage after
            return (value :: arguments, keywords, final)

/-- What follows an argument: the closing bracket, or a comma and further arguments. -/
def moreArguments? : Nat → ArgumentStage → List Token →
    Option (List Expr × List (Option String × Expr) × List Token)
  | 0, _, _ => none
  | fuel + 1, stage, tokens =>
      match tokens with
      | .symbol ")" :: rest => some ([], [], rest)
      | .symbol "," :: rest => arguments? fuel stage false rest
      | _ => none

/-- What stands in the brackets of a subscript, with the closing bracket. -/
def subscriptKey? : Nat → List Token → Option (Expr × List Token)
  | 0, _ => none
  | fuel + 1, tokens => do
      let (items, hasComma, rest) ← subscriptItems? fuel tokens
      match items, hasComma with
      | [.beyond .starred parts], false => return (.tuple [.beyond .starred parts] .read, rest)
      | [item], false => return (item, rest)
      | _, _ => return (.tuple items .read, rest)

def subscriptItems? : Nat → List Token → Option (List Expr × Bool × List Token)
  | 0, _ => none
  | fuel + 1, tokens => do
      let (item, afterItem) ←
        if symbolAhead "*" tokens then do
          let (value, rest) ← expression? fuel (tokens.drop 1)
          pure (Expr.beyond .starred [value], rest)
        else slice? fuel tokens
      match afterItem with
      | .symbol "]" :: rest => return ([item], false, rest)
      | .symbol "," :: .symbol "]" :: rest => return ([item], true, rest)
      | .symbol "," :: rest =>
          let (items, _, final) ← subscriptItems? fuel rest
          return (item :: items, true, final)
      | _ => none

def slice? : Nat → List Token → Option (Expr × List Token)
  | 0, _ => none
  | fuel + 1, tokens =>
      if symbolAhead ":" tokens then sliceRest? fuel [] (tokens.drop 1)
      else do
        let (lower, rest) ← namedExpression? fuel tokens
        if symbolAhead ":" rest then
          match lower with
          | .beyond .namedExpr _ =>
              if symbolAhead "(" tokens then sliceRest? fuel [lower] (rest.drop 1) else none
          | _ => sliceRest? fuel [lower] (rest.drop 1)
        else return (lower, rest)

/-- A slice after its first colon. -/
def sliceRest? : Nat → List Expr → List Token → Option (Expr × List Token)
  | 0, _, _ => none
  | fuel + 1, bounds, tokens => do
      let (upper, afterUpper) ← sliceBound? fuel tokens
      match afterSymbol? ":" afterUpper with
      | none => return (.beyond .slice (bounds ++ upper), afterUpper)
      | some afterColon =>
          let (step, rest) ← sliceBound? fuel afterColon
          return (.beyond .slice (bounds ++ upper ++ step), rest)

/-- A bound that may be left out. -/
def sliceBound? : Nat → List Token → Option (List Expr × List Token)
  | 0, _ => none
  | fuel + 1, tokens =>
      if symbolAhead ":" tokens || symbolAhead "]" tokens || symbolAhead "," tokens then
        some ([], tokens)
      else do
        let (bound, rest) ← expression? fuel tokens
        return ([bound], rest)

def atom? : Nat → List Token → Option (Expr × List Token)
  | 0, _ => none
  | fuel + 1, tokens =>
      match tokens with
      | .name identifier :: rest => some (.name identifier .read, rest)
      | .reserved "True" :: rest => some (.constant (.bool true), rest)
      | .reserved "False" :: rest => some (.constant (.bool false), rest)
      | .reserved "None" :: rest => some (.constant .none, rest)
      | .symbol "..." :: rest => some (.constant .ellipsis, rest)
      | .number value :: rest => some (.constant value, rest)
      | .quoted _ :: _ => do
          let (literals, rest) := leadingTexts tokens
          let value ← texts? fuel literals
          return (value, rest)
      | .symbol "(" :: rest => parenthesised? fuel rest
      | .symbol "[" :: rest => listDisplay? fuel rest
      | .symbol "\x7b" :: rest => braceDisplay? fuel rest
      | _ => none

/-- A group, a tuple or a generator, after the opening bracket. -/
def parenthesised? : Nat → List Token → Option (Expr × List Token)
  | 0, _ => none
  | fuel + 1, tokens =>
      if symbolAhead ")" tokens then some (.tuple [] .read, tokens.drop 1)
      else if reservedAhead "yield" tokens then do
        let (value, rest) ← yield? fuel (tokens.drop 1)
        return (value, ← afterSymbol? ")" rest)
      else do
        let (first, afterFirst) ← displayItem? fuel tokens
        let isStarred := symbolAhead "*" tokens
        match afterFirst with
        | .symbol ")" :: rest => if isStarred then none else return (first, rest)
        | .symbol "," :: rest =>
            let (others, final) ← displayItems? ")" fuel rest
            return (.tuple (first :: others) .read, final)
        | _ =>
            if isStarred then none
            let (clauses, afterClauses) ← clauses? fuel afterFirst
            return (.beyond .generatorExp (first :: clauses), ← afterSymbol? ")" afterClauses)

/-- A list or a list comprehension, after the opening bracket. -/
def listDisplay? : Nat → List Token → Option (Expr × List Token)
  | 0, _ => none
  | fuel + 1, tokens =>
      if symbolAhead "]" tokens then some (.list [] .read, tokens.drop 1)
      else do
        let (first, afterFirst) ← displayItem? fuel tokens
        match afterFirst with
        | .symbol "]" :: rest => return (.list [first] .read, rest)
        | .symbol "," :: rest =>
            let (others, final) ← displayItems? "]" fuel rest
            return (.list (first :: others) .read, final)
        | _ =>
            if symbolAhead "*" tokens then none
            let (clauses, afterClauses) ← clauses? fuel afterFirst
            return (.beyond .listComp (first :: clauses), ← afterSymbol? "]" afterClauses)

/-- A mapping, a set, or a comprehension of either, after the opening brace. -/
def braceDisplay? : Nat → List Token → Option (Expr × List Token)
  | 0, _ => none
  | fuel + 1, tokens =>
      if symbolAhead "\x7d" tokens then some (.dict [], tokens.drop 1)
      else if symbolAhead "**" tokens then do
        let (entries, rest) ← dictEntries? fuel tokens
        return (.dict entries, rest)
      else do
        let (first, afterFirst) ← displayItem? fuel tokens
        let isStarred := symbolAhead "*" tokens
        match afterFirst with
        | .symbol ":" :: rest =>
            let isAssigned :=
              match tokens with
              | .name _ :: .symbol ":=" :: _ => true
              | _ => false
            if isStarred || isAssigned then none
            let (value, afterValue) ← expression? fuel rest
            match afterValue with
            | .symbol "\x7d" :: final => return (.dict [(some first, value)], final)
            | .symbol "," :: more =>
                let (entries, final) ← dictEntries? fuel more
                return (.dict ((some first, value) :: entries), final)
            | _ =>
                let (clauses, afterClauses) ← clauses? fuel afterValue
                return (.beyond .dictComp (first :: value :: clauses),
                  ← afterSymbol? "\x7d" afterClauses)
        | .symbol "\x7d" :: rest => return (.beyond .setDisplay [first], rest)
        | .symbol "," :: rest =>
            let (others, final) ← displayItems? "\x7d" fuel rest
            return (.beyond .setDisplay (first :: others), final)
        | _ =>
            if isStarred then none
            let (clauses, afterClauses) ← clauses? fuel afterFirst
            return (.beyond .setComp (first :: clauses), ← afterSymbol? "\x7d" afterClauses)

/-- Entries of a mapping up to the closing brace, which is read too. -/
def dictEntries? : Nat → List Token → Option (List (Option Expr × Expr) × List Token)
  | 0, _ => none
  | fuel + 1, tokens =>
      if symbolAhead "\x7d" tokens then some ([], tokens.drop 1)
      else do
        let (entry, afterEntry) ←
          if symbolAhead "**" tokens then do
            let (value, rest) ← binary? fuel binaryLevels (tokens.drop 1)
            pure ((none, value), rest)
          else do
            let (key, afterKey) ← expression? fuel tokens
            let (value, rest) ← expression? fuel (← afterSymbol? ":" afterKey)
            pure ((some key, value), rest)
        match afterEntry with
        | .symbol "\x7d" :: rest => return ([entry], rest)
        | .symbol "," :: rest =>
            let (entries, final) ← dictEntries? fuel rest
            return (entry :: entries, final)
        | _ => none

/-- The clauses of a comprehension, at least one. -/
def clauses? : Nat → List Token → Option (List Expr × List Token)
  | 0, _ => none
  | fuel + 1, tokens => do
      let afterAsync := if reservedAhead "async" tokens then tokens.drop 1 else tokens
      let (target, afterTarget) ← targets? fuel (← afterReserved? "for" afterAsync)
      let (source, afterSource) ← disjunction? fuel (← afterReserved? "in" afterTarget)
      let (conditions, afterConditions) ← conditions? fuel afterSource
      let clause := Expr.beyond .comprehension (target :: source :: conditions)
      if reservedAhead "for" afterConditions || reservedAhead "async" afterConditions then
        let (clauses, rest) ← clauses? fuel afterConditions
        return (clause :: clauses, rest)
      else return ([clause], afterConditions)

def conditions? : Nat → List Token → Option (List Expr × List Token)
  | 0, _ => none
  | fuel + 1, tokens =>
      match afterReserved? "if" tokens with
      | none => some ([], tokens)
      | some afterIf => do
          let (condition, afterCondition) ← disjunction? fuel afterIf
          let (conditions, rest) ← conditions? fuel afterCondition
          return (condition :: conditions, rest)

/-- The place or places a comprehension binds. -/
def targets? : Nat → List Token → Option (Expr × List Token)
  | 0, _ => none
  | fuel + 1, tokens => do
      let (items, hasComma, rest) ← targetItems? fuel tokens
      match items, hasComma with
      | [item], false => return (item, rest)
      | _, _ => return (.tuple items .bind, rest)

def targetItems? : Nat → List Token → Option (List Expr × Bool × List Token)
  | 0, _ => none
  | fuel + 1, tokens => do
      let isStarred := symbolAhead "*" tokens
      let (place, afterPlace) ← primary? fuel (if isStarred then tokens.drop 1 else tokens)
      let target ← asTarget? (if isStarred then .beyond .starred [place] else place)
      match afterSymbol? "," afterPlace with
      | none => return ([target], false, afterPlace)
      | some afterComma =>
          if reservedAhead "in" afterComma then return ([target], true, afterComma)
          else
            let (targets, _, rest) ← targetItems? fuel afterComma
            return (target :: targets, true, rest)

/-- An anonymous function after its first word. -/
def lambda? : Nat → List Token → Option (Expr × List Token)
  | 0, _ => none
  | fuel + 1, tokens => do
      let (parameters, afterParameters) ← parameters? fuel .none tokens
      let (body, rest) ← expression? fuel (← afterSymbol? ":" afterParameters)
      return (.beyond .lambda [parameters.node, body], rest)

def parameters? : Nat → Parameters → List Token → Option (Parameters × List Token)
  | 0, _, _ => none
  | fuel + 1, found, tokens =>
      match tokens with
      | .symbol ":" :: _ => some (found, tokens)
      | .symbol "/" :: rest =>
          if found.sawSlash || found.sawStar || found.positional = 0 then none
          else moreParameters? fuel { found with sawSlash := true } rest
      | .symbol "**" :: .name _ :: rest =>
          let after := if symbolAhead "," rest then rest.drop 1 else rest
          if symbolAhead ":" after then some ({ found with hasKeywords := true }, after) else none
      | .symbol "*" :: .name _ :: rest =>
          if found.sawStar then none
          else moreParameters? fuel { found with sawStar := true, hasVariadic := true } rest
      | .symbol "*" :: .symbol "," :: .name parameter :: rest =>
          if found.sawStar then none
          else parameters? fuel { found with sawStar := true } (.name parameter :: rest)
      | .name _ :: .symbol "=" :: rest => do
          let (value, after) ← expression? fuel rest
          let extended :=
            if found.sawStar then
              { found with
                named := found.named + 1
                namedDefaults := found.namedDefaults ++ [value] }
            else
              { found with
                positional := found.positional + 1
                defaults := found.defaults ++ [value] }
          moreParameters? fuel extended after
      | .name _ :: rest =>
          if found.sawStar then moreParameters? fuel { found with named := found.named + 1 } rest
          else if found.defaults.isEmpty then
            moreParameters? fuel { found with positional := found.positional + 1 } rest
          else none
      | _ => none

/-- What follows a parameter: the colon, or a comma and further parameters. -/
def moreParameters? : Nat → Parameters → List Token → Option (Parameters × List Token)
  | 0, _, _ => none
  | fuel + 1, found, tokens =>
      match tokens with
      | .symbol ":" :: _ => some (found, tokens)
      | .symbol "," :: rest => parameters? fuel found rest
      | _ => none

/-- Adjacent quoted texts as one expression. -/
def texts? : Nat → List TextLiteral → Option Expr
  | 0, _ => none
  | fuel + 1, literals =>
      if literals.any fun literal => literal.isFormatted then do
        let parts ← textParts? fuel literals
        return .beyond .joinedText parts
      else (TextLiteral.joined? literals).map .constant

def textParts? : Nat → List TextLiteral → Option (List Expr)
  | 0, _ => none
  | _, [] => some []
  | fuel + 1, literal :: rest => do
      if literal.isBytes then none
      let parts ←
        if literal.isFormatted then do
          let (parts, left) ← embedded? fuel literal.isRaw 0 literal.body
          if left.isEmpty then pure parts else none
        else (literal.decode?).map fun _ => []
      return parts ++ (← textParts? fuel rest)

/-- The embedded expressions of a text, up to its end or to the brace that ends it. -/
def embedded? : Nat → Bool → Nat → List Char → Option (List Expr × List Char)
  | 0, _, _, _ => none
  | fuel + 1, isRaw, depth, text => do
      let piece ← Embedded.piece? isRaw depth text
      let literal : TextLiteral := ⟨isRaw, false, true, piece.literal⟩
      let _ ← literal.decode?
      if piece.isDoubled then embedded? fuel isRaw depth piece.rest
      else
        match piece.rest with
        | [] => if depth = 0 then return ([], []) else none
        | head :: rest =>
            if head = '\x7d' then return ([], head :: rest)
            else
              let (value, afterValue) ← embeddedValue? fuel isRaw depth rest
              let (values, final) ← embedded? fuel isRaw depth afterValue
              return (value :: values, final)

/-- One embedded expression with its conversion and format, after the opening brace. -/
def embeddedValue? : Nat → Bool → Nat → List Char → Option (Expr × List Char)
  | 0, _, _, _ => none
  | fuel + 1, isRaw, depth, text => do
      if 2 ≤ depth then none
      let (source, afterSource) ← Embedded.extent? none [] 0 text
      if source.all Embedded.isFiller then none
      let tokens ← Token.ofText? ('(' :: source ++ [')'])
      let (value, leftover) ← starExpressions? fuel tokens
      if !leftover.isEmpty then none
      let afterSign :=
        if afterSource.head? = some '=' then
          (afterSource.drop 1).dropWhile Embedded.isBlankAfterSign
        else afterSource
      let afterConversion ←
        match afterSign with
        | '!' :: mark :: rest =>
            if mark = 's' ∨ mark = 'r' ∨ mark = 'a' then some rest else none
        | '!' :: [] => none
        | _ => some afterSign
      match afterConversion with
      | ':' :: [] => none
      | ':' :: rest =>
          let (parts, afterFormat) ← embedded? fuel isRaw (depth + 1) rest
          match afterFormat with
          | _ :: final =>
              return (.beyond .formattedValue [value, .beyond .joinedText parts], final)
          | [] => none
      | '\x7d' :: final => return (.beyond .formattedValue [value], final)
      | _ => none

end

/-- Expressions separated by commas make a tuple at the outermost level too. -/
def wholeItems? : Nat → Nat → List Token → Option (List Expr × Bool × List Token)
  | 0, _, _ => none
  | count + 1, fuel, tokens => do
      let (item, afterItem) ← expression? fuel tokens
      match afterSymbol? "," afterItem with
      | none => return ([item], false, afterItem)
      | some [] => return ([item], true, [])
      | some (.lineEnd :: rest) => return ([item], true, .lineEnd :: rest)
      | some afterComma =>
          let (items, _, rest) ← wholeItems? count fuel afterComma
          return (item :: items, true, rest)

def isLineEnd : Token → Bool
  | .lineEnd => true
  | _ => false

end Parse

/-- Reads a whole text as one expression. -/
def Expr.ofText? (text : List Char) : Option Expr := do
  let tokens ← Token.ofText? text
  let fuel := 40 * (text.length + 4)
  let (items, hasComma, rest) ← Parse.wholeItems? (tokens.length + 1) fuel tokens
  if !rest.all Parse.isLineEnd then none
  match items, hasComma with
  | [item], false => return item
  | _, _ => return .tuple items .read

end DeferredText
