import DeferredText.Cache.Register
import DeferredText.Proofs.Delimited
import DeferredText.Proofs.Registrations
import DeferredText.Proofs.Wording

/-!
Contract: calls of registered helpers in templates.

A registry takes dotted names whose parts are identifiers. An expression reads such a name as
tokens, where a reserved word is no name and a name stands for its normal form, and as accesses of
attributes, of which the private ones are refused. All other names come back as they were
registered.

Owns: the tokens and the tree of a dotted name, and rendering the call of a registered helper.

Does not own: which names can be registered (`Registry.Table`).
-/

namespace DeferredText

/-! ### Dotted texts -/

/-- Parts joined by dots. -/
def joinParts
    (first : List Char)
    (others : List (List Char)) : List Char :=
  first ++ others.flatMap ('.' :: ·)

theorem splitOnChar_ne_nil (separator : Char) (text : List Char) :
    splitOnChar separator text ≠ [] := by
  cases text with
  | nil => exact List.cons_ne_nil _ _
  | cons head tail =>
      rw [splitOnChar]
      split
      · exact List.cons_ne_nil _ _
      · split <;> exact List.cons_ne_nil _ _

/-- The parts between the dots, joined again, are the text. -/
theorem joinParts_of_splitOnChar {text first : List Char} {others : List (List Char)}
    (parts : splitOnChar '.' text = first :: others) : joinParts first others = text := by
  induction text generalizing first others with
  | nil =>
      cases parts
      rfl
  | cons head tail inductionHypothesis =>
      obtain ⟨next, rest, split⟩ := List.exists_cons_of_ne_nil (splitOnChar_ne_nil '.' tail)
      have joined := inductionHypothesis split
      rw [splitOnChar, split] at parts
      dsimp only at parts
      split at parts
      · rename_i isDot
        cases parts
        rw [← joined, isDot]
        rfl
      · cases parts
        rw [← joined]
        rfl

/-! ### Names as tokens -/

theorem startsName_of_identifier {character : Char} (starts : isIdentifierStart character = true) :
    Token.startsName character = true := by
  rw [isIdentifierStart] at starts
  rw [Token.startsName, Bool.or_eq_true, decide_eq_true_eq]
  split at starts
  · exact .inl starts
  · exact .inr (by omega)

theorem continuesName_of_identifier {character : Char}
    (continues : isIdentifierContinue character = true) :
    NumberLiteral.continuesName character = true := by
  rw [isIdentifierContinue] at continues
  rw [NumberLiteral.continuesName, Bool.or_eq_true, decide_eq_true_eq]
  split at continues
  · exact .inl continues
  · exact .inr (by omega)

theorem continuesName_of_starts {character : Char} (starts : Token.startsName character = true) :
    NumberLiteral.continuesName character = true := by
  rw [Token.startsName] at starts
  rw [NumberLiteral.continuesName, Char.isAlphanum]
  simp only [Bool.or_eq_true] at starts ⊢
  tauto

/-- The blank characters outside ASCII, by their code points. -/
def wideBlanks : List Nat :=
  [0x85, 0xA0, 0x1680, 0x2000, 0x2001, 0x2002, 0x2003, 0x2004, 0x2005, 0x2006, 0x2007, 0x2008,
    0x2009, 0x200A, 0x2028, 0x2029, 0x202F, 0x205F, 0x3000]

set_option maxRecDepth 40000 in
theorem blankless_identifierStartTable :
    (identifierStartTable.all fun run => wideBlanks.all fun code => !run.holds code) = true := by
  rw [show identifierStartTable = _ from CodeTable.ofText_ofList _]
  decide +kernel

theorem isBlank_of_identifier {character : Char} (starts : isIdentifierStart character = true) :
    isBlank character = false := by
  rw [Bool.eq_false_iff]
  intro blank
  rw [isIdentifierStart] at starts
  split at starts
  · simp only [Char.isAlpha, Char.isUpper, Char.isLower, Char.toNat,
      UInt32.le_iff_toNat_le, Bool.or_eq_true, Bool.and_eq_true, decide_eq_true_eq, beq_iff_eq,
      ge_iff_le, isBlank] at starts blank
    have upperStart : 'A'.val.toNat = 65 := rfl
    have lowerStart : 'a'.val.toNat = 97 := rfl
    have underscore : '_'.val.toNat = 95 := rfl
    rename_i low
    have : character.val.toNat < 128 := low
    rcases starts with starts | rfl <;> omega
  · have wide : character.toNat ∈ wideBlanks := by
      simp only [isBlank, Bool.or_eq_true, Bool.and_eq_true, decide_eq_true_eq, beq_iff_eq] at blank
      simp only [wideBlanks, List.mem_cons, List.not_mem_nil, or_false]
      omega
    rw [CodeTable.contains, List.any_eq_true] at starts
    obtain ⟨run, member, holds⟩ := starts
    have none := List.all_eq_true.mp (List.all_eq_true.mp blankless_identifierStartTable run member) _ wide
    rw [holds] at none
    cases none
/-- Part of a name that is read as it is spelled. -/
structure Token.IsPart (part : List Char) : Prop where
  identifier : isIdentifier part = true
  unreserved : String.ofList part ∉ reservedWords
  normal : normalizeIdentifier part = part

namespace Token

variable {part rest : List Char} {marker : Char}

/-- A character that ends a name and cannot begin a text literal. -/
def endsName (character : Char) : Bool :=
  !NumberLiteral.continuesName character && character != '"' && character != '\''

theorem IsPart.split (isPart : IsPart part) :
    ∃ head tail, part = head :: tail ∧ startsName head = true ∧
      ∀ character ∈ part, NumberLiteral.continuesName character = true := by
  have identifier := isPart.identifier
  cases part with
  | nil => cases identifier
  | cons head tail =>
      rw [isIdentifier, Bool.and_eq_true] at identifier
      have starts := startsName_of_identifier identifier.1
      refine ⟨head, tail, rfl, starts, fun character member => ?_⟩
      rcases List.mem_cons.mp member with rfl | later
      · exact continuesName_of_starts starts
      · exact continuesName_of_identifier (List.all_eq_true.mp identifier.2 character later)

/-- A part of a name is one token. -/
theorem IsPart.next? (isPart : IsPart part) (ends : endsName marker = true) :
    Token.next? (part ++ marker :: rest) =
      some (.name (String.ofList part), marker :: rest) := by
  obtain ⟨head, tail, split, starts, continues⟩ := isPart.split
  rw [endsName, Bool.and_eq_true, Bool.and_eq_true, Bool.not_eq_true'] at ends
  obtain ⟨⟨stops, noDouble⟩, noSingle⟩ := ends
  have taken : (part ++ marker :: rest).takeWhile NumberLiteral.continuesName = part := by
    rw [List.takeWhile_append_of_pos continues, List.takeWhile_cons_of_neg (by simp [stops]),
      List.append_nil]
  have dropped : (part ++ marker :: rest).dropWhile NumberLiteral.continuesName =
      marker :: rest := by
    rw [List.dropWhile_append_of_pos continues, List.dropWhile_cons_of_neg (by simp [stops])]
  have word : word? part = some (.name (String.ofList part)) := by
    rw [word?, if_neg (by simpa using isPart.unreserved), if_pos isPart.identifier, isPart.normal]
  rw [split, List.cons_append, Token.next?, if_pos starts, ← List.cons_append, ← split, taken,
    dropped]
  simp_all

/-- A character that is no blank, comment or line end, and joins no lines. -/
def isVisible (character : Char) : Bool :=
  character != '\\' && !isGap character && character != '#' && character != '\n'

/-- Characters that start names differ from all others. -/
theorem ne_of_starts {head : Char} (starts : startsName head = true) (other : Char)
    (startsNone : startsName other = false) : head ≠ other := by
  rintro rfl
  rw [startsNone] at starts
  cases starts

theorem toNat_of_starts {head : Char} (starts : startsName head = true) : head.toNat ≠ 12 := by
  intro isFeed
  refine ne_of_starts starts (Char.ofNat 12) (by decide) ?_
  rw [← isFeed, Char.ofNat_toNat]

theorem isVisible_of_starts {head : Char} (starts : startsName head = true) :
    isVisible head = true := by
  have noFeed := toNat_of_starts starts
  simp [isVisible, isGap, noFeed, ne_of_starts starts '\\' (by decide),
    ne_of_starts starts ' ' (by decide), ne_of_starts starts '\t' (by decide),
    ne_of_starts starts '#' (by decide), ne_of_starts starts '\n' (by decide)]

/-- One token, and what follows it. -/
theorem inLine_next {openBrackets stillOpen : List Char} {head : Char} {token : Token}
    {after : List Char} (fuel : Nat) (visible : isVisible head = true)
    (reads : Token.next? (head :: rest) = some (token, after))
    (opens : openAfter? openBrackets token = some stillOpen) :
    inLine openBrackets (fuel + 1) (head :: rest) =
      (inLine stillOpen fuel after).map (token :: ·) := by
  rw [isVisible] at visible
  simp only [Bool.and_eq_true, bne_iff_ne, ne_eq, Bool.not_eq_true'] at visible
  obtain ⟨⟨⟨noJoin, noGap⟩, noComment⟩, noLineEnd⟩ := visible
  rw [inLine, noGap, if_neg Bool.false_ne_true, if_neg noComment, if_neg noLineEnd, reads]
  · dsimp only
    rw [opens]
  · exact noJoin

/-- A symbol of several characters that begins with a dot goes on with one. -/
theorem dotted_longSymbols : (longSymbols.all fun spelling =>
    match spelling.toList with
    | first :: second :: _ => first != '.' || second == '.'
    | _ => false) = true := by
  decide

theorem symbol?_dot {head : Char} (noDot : head ≠ '.') :
    symbol? ('.' :: head :: rest) = some (.symbol ".", head :: rest) := by
  have noLong : longSymbols.find? (fun spelling =>
      spelling.toList.isPrefixOf ('.' :: head :: rest)) = none := by
    rw [List.find?_eq_none]
    intro spelling member starts
    have dotted := List.all_eq_true.mp dotted_longSymbols spelling member
    rw [List.isPrefixOf_iff_prefix] at starts
    obtain ⟨more, spells⟩ := starts
    rcases symbol : spelling.toList with _ | ⟨first, _ | ⟨second, others⟩⟩
    · simp [symbol] at dotted
    · simp [symbol] at dotted
    · rw [symbol] at spells dotted
      obtain ⟨rfl, rfl, -⟩ : first = '.' ∧ second = head ∧ others ++ more = rest := by
        simpa using spells
      exact noDot (by simpa using dotted)
  rw [symbol?, noLong]
  rfl

theorem next?_dot {head : Char} (starts : startsName head = true) :
    Token.next? ('.' :: head :: rest) = some (.symbol ".", head :: rest) := by
  have noDigit : head.isDigit = false := by
    rw [Bool.eq_false_iff]
    intro isDigit
    simp only [startsName, Char.isAlpha, Char.isUpper, Char.isLower, Char.isDigit, Char.toNat,
      UInt32.le_iff_toNat_le, Bool.or_eq_true, Bool.and_eq_true, decide_eq_true_eq, beq_iff_eq,
      ge_iff_le] at starts isDigit
    have nine : '9'.val.toNat = 57 := rfl
    have upperStart : 'A'.val.toNat = 65 := rfl
    have lowerStart : 'a'.val.toNat = 97 := rfl
    have underscore : '_'.val.toNat = 95 := rfl
    rcases starts with (starts | rfl) | starts <;> omega
  rw [Token.next?, if_neg (by decide), if_neg (by decide), if_neg (by simp [noDigit])]
  exact symbol?_dot (ne_of_starts starts '.' (by decide))

/-- The tokens behind the first part of a dotted name. -/
def trail : List (List Char) → List Token
  | [] => []
  | part :: rest => .symbol "." :: .name (String.ofList part) :: trail rest

/-- The tokens of an empty pair of brackets. -/
def emptyCall : List Token :=
  [.symbol "(", .symbol ")"]

theorem inLine_emptyCall (fuel : Nat) : inLine [] (fuel + 3) ['(', ')'] = some emptyCall := by
  rfl

/-- What follows a part of a called name. -/
def behindPart (others : List (List Char)) : List Char :=
  others.flatMap ('.' :: ·) ++ ['(', ')']

theorem inLine_part (isPart : IsPart part) (others : List (List Char)) (fuel : Nat) :
    inLine [] (fuel + 1) (part ++ behindPart others) =
      (inLine [] fuel (behindPart others)).map (.name (String.ofList part) :: ·) := by
  obtain ⟨marker, rest, behind, ends⟩ : ∃ marker rest, behindPart others = marker :: rest ∧
      endsName marker = true := by
    cases others with
    | nil => exact ⟨'(', [')'], rfl, by decide⟩
    | cons next further => exact ⟨'.', _, rfl, by decide⟩
  obtain ⟨head, tail, split, starts, -⟩ := isPart.split
  have reads : Token.next? (part ++ marker :: rest) =
      some (.name (String.ofList part), marker :: rest) := isPart.next? ends
  rw [behind]
  rw [split, List.cons_append] at reads ⊢
  exact inLine_next fuel (isVisible_of_starts starts) reads rfl

/-- The parts behind the first one, and the brackets of a call, one after the other. -/
theorem inLine_trail {others : List (List Char)} (areParts : ∀ part ∈ others, IsPart part)
    (fuel : Nat) :
    inLine [] (2 * others.length + (fuel + 3)) (behindPart others) =
      some (trail others ++ emptyCall) := by
  induction others with
  | nil =>
      rw [List.length_nil, Nat.zero_add]
      exact inLine_emptyCall fuel
  | cons part rest inductionHypothesis =>
      have isPart := areParts part List.mem_cons_self
      have further := inductionHypothesis fun other member =>
        areParts other (List.mem_cons_of_mem part member)
      obtain ⟨head, tail, split, starts, -⟩ := isPart.split
      have dot : Token.next? ('.' :: (part ++ behindPart rest)) =
          some (.symbol ".", part ++ behindPart rest) := by
        rw [split, List.cons_append]
        exact next?_dot starts
      have count : 2 * (part :: rest).length + (fuel + 3) =
          2 * rest.length + (fuel + 3) + 1 + 1 := by
        rw [List.length_cons]
        omega
      have text : behindPart (part :: rest) = '.' :: (part ++ behindPart rest) := by
        simp [behindPart]
      rw [count, text, inLine_next _ (by decide) dot rfl, inLine_part isPart, further]
      rfl

/-- The tokens of the call of a dotted name without arguments. -/
def callTokens
    (first : List Char)
    (others : List (List Char)) : List Token :=
  .name (String.ofList first) :: trail others ++ emptyCall

theorem unifyLineEnds_of_absent {text : List Char} (absent : '\r' ∉ text) :
    unifyLineEnds text = text := by
  induction text with
  | nil => rfl
  | cons head tail inductionHypothesis =>
      rw [List.mem_cons, not_or] at absent
      rw [unifyLineEnds, inductionHypothesis absent.2]
      · rintro rest rfl
        exact (absent.1 rfl).elim
      · rintro rfl
        exact (absent.1 rfl).elim

theorem length_behindPart (others : List (List Char)) :
    others.length + 2 ≤ (behindPart others).length := by
  induction others with
  | nil => exact Nat.le_refl 2
  | cons part rest inductionHypothesis =>
      simp only [behindPart, List.flatMap_cons, List.length_append, List.length_cons] at *
      omega

theorem lineStart_of_starts {head : Char} (starts : startsName head = true) :
    lineStart 0 0 (head :: rest) = some (0, head :: rest) := by
  have noFeed := toNat_of_starts starts
  rw [lineStart, if_neg noFeed, if_pos rfl]
  · exact ne_of_starts starts ' ' (by decide)
  · exact ne_of_starts starts '\t' (by decide)
  · exact fun _ _ joins => (ne_of_starts starts '\\' (by decide) joins).elim
  · exact ne_of_starts starts '\\' (by decide)

theorem ofText?_call {first : List Char} {others : List (List Char)} (isPart : IsPart first)
    (areParts : ∀ part ∈ others, IsPart part) (absent : '\r' ∉ first ++ behindPart others) :
    Token.ofText? (first ++ behindPart others) = some (callTokens first others) := by
  obtain ⟨head, tail, split, starts, -⟩ := isPart.split
  have long := length_behindPart others
  have pieces : 0 < first.length := by
    rw [split]
    exact Nat.succ_pos _
  obtain ⟨slack, fuel⟩ : ∃ slack, 2 * (first ++ behindPart others).length + 2 =
      2 * others.length + (slack + 3) + 1 + 1 := by
    refine ⟨2 * (first ++ behindPart others).length - 2 * others.length - 3, ?_⟩
    rw [List.length_append]
    omega
  have reads := inLine_part isPart others (2 * others.length + (slack + 3))
  rw [inLine_trail areParts] at reads
  rw [Token.ofText?, unifyLineEnds_of_absent absent, fuel, atLineStart]
  rw [split, List.cons_append] at reads ⊢
  rw [lineStart_of_starts starts]
  dsimp only
  rw [if_neg (ne_of_starts starts '#' (by decide)), if_neg (ne_of_starts starts '\n' (by decide)),
    if_neg (by decide), reads]
  rfl

end Token

/-! ### Names as trees -/

/-- The tree of a dotted name. -/
def Expr.path
    (base : Expr)
    (others : List (List Char)) : Expr :=
  others.foldl (fun inner part => .member inner (String.ofList part) .read) base

namespace Parse

open Token

variable {expression : Expr} {identifier : String} {tokens : List Token}

theorem trailers?_path (base : Expr) (others : List (List Char)) (fuel : Nat) :
    trailers? (others.length + (fuel + 2)) base (trail others ++ emptyCall) =
      some (.call (base.path others) [] [], []) := by
  induction others generalizing base with
  | nil =>
      rw [List.length_nil, Nat.zero_add]
      rfl
  | cons part rest inductionHypothesis =>
      have count : (part :: rest).length + (fuel + 2) = rest.length + (fuel + 2) + 1 := by
        rw [List.length_cons]
        omega
      rw [count, trail, List.cons_append, List.cons_append, trailers?, inductionHypothesis]
      rfl

section Operand

/-! An operand that begins with a name and that nothing follows is the whole of every construct it
may begin. -/

variable {fuel : Nat}

theorem reservedAhead_name (word : String) :
    reservedAhead word (.name identifier :: tokens) = false := rfl

theorem factor?_of_primary?
    (reads : primary? fuel (.name identifier :: tokens) = some (expression, [])) :
    factor? (fuel + 1) (.name identifier :: tokens) = some (expression, []) := by
  rw [factor?, reservedAhead_name, if_neg Bool.false_ne_true, reads]
  · rfl
  all_goals rintro _ ⟨⟩

theorem binary?_of_factor? (levels : List (List (String × BinaryOperator)))
    (reads : factor? fuel tokens = some (expression, [])) :
    binary? (fuel + levels.length + 1) levels tokens = some (expression, []) := by
  induction levels with
  | nil =>
      rw [binary?]
      exact reads
  | cons operators stronger inductionHypothesis =>
      rw [List.length_cons, ← Nat.add_assoc, binary?, inductionHypothesis]
      rfl

theorem inversion?_of_binary?
    (reads : binary? (fuel + 1) binaryLevels (.name identifier :: tokens) =
      some (expression, [])) :
    inversion? (fuel + 2) (.name identifier :: tokens) = some (expression, []) := by
  rw [inversion?, reservedAhead_name, if_neg Bool.false_ne_true, reads]
  rfl

theorem conjunction?_of_inversion? (reads : inversion? fuel tokens = some (expression, [])) :
    conjunction? (fuel + 2) tokens = some (expression, []) := by
  rw [conjunction?, operands?, if_neg (by decide), reads]
  rfl

theorem disjunction?_of_conjunction? (reads : conjunction? fuel tokens = some (expression, [])) :
    disjunction? (fuel + 2) tokens = some (expression, []) := by
  rw [disjunction?, operands?, if_pos (by decide), reads]
  rfl

theorem expression?_of_disjunction?
    (reads : disjunction? fuel (.name identifier :: tokens) = some (expression, [])) :
    expression? (fuel + 1) (.name identifier :: tokens) = some (expression, []) := by
  rw [expression?, reservedAhead_name, if_neg Bool.false_ne_true, reads]
  rfl

theorem expression?_of_primary?
    (reads : primary? fuel (.name identifier :: tokens) = some (expression, [])) :
    expression? (fuel + 14) (.name identifier :: tokens) = some (expression, []) :=
  expression?_of_disjunction? (disjunction?_of_conjunction? (conjunction?_of_inversion?
    (inversion?_of_binary? (binary?_of_factor? binaryLevels (factor?_of_primary? reads)))))

end Operand

/-- The tokens of a call make its tree. -/
theorem expression?_call (first : List Char) (others : List (List Char)) (fuel : Nat) :
    expression? (others.length + (fuel + 17)) (callTokens first others) =
      some (.call (.path (.name (String.ofList first) .read) others) [] [], []) := by
  have reads : primary? (others.length + (fuel + 2) + 1) (callTokens first others) =
      some (.call (.path (.name (String.ofList first) .read) others) [] [], []) := by
    have atom : atom? (others.length + (fuel + 2)) (callTokens first others) =
        some (.name (String.ofList first) .read, trail others ++ emptyCall) := by
      rw [← Nat.add_assoc]
      rfl
    rw [primary?, atom]
    exact trailers?_path _ others fuel
  exact expression?_of_primary? reads

end Parse

/-- The call of a dotted name is read as the call of its tree. -/
theorem Expr.ofText?_call {first : List Char} {others : List (List Char)}
    (isPart : Token.IsPart first) (areParts : ∀ part ∈ others, Token.IsPart part)
    (absent : '\r' ∉ first ++ Token.behindPart others) :
    Expr.ofText? (first ++ Token.behindPart others) =
      some (.call (.path (.name (String.ofList first) .read) others) [] []) := by
  obtain ⟨slack, fuel⟩ : ∃ slack, 40 * ((first ++ Token.behindPart others).length + 4) =
      others.length + (slack + 17) := by
    have long := Token.length_behindPart others
    refine ⟨40 * ((first ++ Token.behindPart others).length + 4) - others.length - 17, ?_⟩
    rw [List.length_append]
    omega
  rw [Expr.ofText?, Token.ofText?_call isPart areParts absent]
  dsimp only [Option.bind_eq_bind, Option.bind_some]
  rw [fuel, Parse.wholeItems?, Parse.expression?_call]
  rfl

/-! ### Calls as texts -/

namespace Token

variable {first : List Char} {others : List (List Char)}

/-- The call of a name has no characters but those of its parts, dots and brackets. -/
theorem absent_of_call (isPart : IsPart first) (areParts : ∀ part ∈ others, IsPart part)
    {character : Char} (stops : NumberLiteral.continuesName character = false)
    (isOther : character ∉ ['.', '(', ')']) : character ∉ first ++ behindPart others := by
  have notIn {part : List Char} (partIs : IsPart part) : character ∉ part := by
    intro member
    obtain ⟨-, -, -, -, continues⟩ := partIs.split
    rw [continues character member] at stops
    cases stops
  simp only [List.mem_cons, List.not_mem_nil, or_false, not_or] at isOther
  simp only [behindPart, List.mem_append, List.mem_flatMap, List.mem_cons, List.not_mem_nil,
    or_false]
  rintro (inFirst | ⟨part, member, isDot | inPart⟩ | isOpen | isClose)
  · exact notIn isPart inFirst
  · exact isOther.1 isDot
  · exact notIn (areParts part member) inPart
  · exact isOther.2.1 isOpen
  · exact isOther.2.2 isClose

/-- The call of a name has no blanks around it. -/
theorem trimBlank_call (isPart : IsPart first) :
    trimBlank (first ++ behindPart others) = first ++ behindPart others := by
  have identifier := isPart.identifier
  cases first with
  | nil => cases identifier
  | cons head tail =>
      rw [isIdentifier, Bool.and_eq_true] at identifier
      have visible := isBlank_of_identifier identifier.1
      rw [trimBlank, List.cons_append, List.dropWhile_cons_of_neg (by simp [visible])]
      simp [behindPart, isBlank]

end Token

namespace Expr

/-- A path spells its parts, joined by dots. -/
theorem dottedName?_path {base : Expr} {spelled : String} (others : List (List Char))
    (spells : base.dottedName? = some spelled) :
    (base.path others).dottedName? =
      some (spelled ++ String.ofList (others.flatMap ('.' :: ·))) := by
  induction others generalizing base spelled with
  | nil => simp [path, spells]
  | cons part rest inductionHypothesis =>
      have next : (Expr.member base (String.ofList part) .read).dottedName? =
          some (spelled ++ "." ++ String.ofList part) := by
        rw [dottedName?, spells]
        rfl
      have spelledRest := inductionHypothesis next
      rw [path, List.foldl_cons, ← path, spelledRest, Option.some.injEq]
      apply String.toList_injective
      simp

theorem accepted_path {base : Expr} {others : List (List Char)} (accepted : base.Accepted)
    (isPublic : ∀ part ∈ others, isPrivateName (String.ofList part) = false) :
    (base.path others).Accepted := by
  induction others generalizing base with
  | nil => exact accepted
  | cons part rest inductionHypothesis =>
      exact inductionHypothesis (.member (isPublic part List.mem_cons_self) accepted)
        fun other member => isPublic other (List.mem_cons_of_mem part member)

end Expr

/-- The tree of the call of a dotted name. -/
def Expr.callOf
    (first : List Char)
    (others : List (List Char)) : Expr :=
  .call (.path (.name (String.ofList first) .read) others) [] []

section Calls

variable {first : List Char} {others : List (List Char)}

theorem Expr.dottedName?_callee (first : List Char) (others : List (List Char)) :
    (Expr.path (.name (String.ofList first) .read) others).dottedName? =
      some (String.ofList (joinParts first others)) := by
  rw [dottedName?_path others rfl, joinParts, String.ofList_append]

/-- The call of a dotted name whose parts are read as they are spelled, and whose attributes are
not private, is accepted. -/
theorem Template.readExpression_call (isPart : Token.IsPart first)
    (areParts : ∀ part ∈ others, Token.IsPart part)
    (isPublic : ∀ part ∈ others, isPrivateName (String.ofList part) = false) :
    readExpression (String.ofList (first ++ Token.behindPart others)) =
      .ok (Expr.callOf first others) := by
  have noNull : Char.ofNat 0 ∉ first ++ Token.behindPart others :=
    Token.absent_of_call isPart areParts (by decide) (by decide)
  have reads := Expr.ofText?_call isPart areParts
    (Token.absent_of_call isPart areParts (by decide) (by decide))
  have accepted : (Expr.callOf first others).Accepted :=
    .call (Expr.dottedName?_callee first others) (Expr.accepted_path (.name _) isPublic)
      nofun nofun nofun
  rw [readExpression, String.toList_ofList, Token.trimBlank_call isPart, syntaxOf,
    if_neg (by simpa using noNull), reads]
  dsimp only [bind, Except.bind]
  rw [← Expr.callOf, Expr.problems_eq_nil_iff.mpr accepted]
  rfl

/-- The value of a call without arguments is what the helper of this name returns. -/
theorem Evaluate.value_callOf {σ : Type} {engine : Engine σ} {scope : Scope σ} {source : String}
    {operation : Operation σ}
    (found : scope.helpers (String.ofList (joinParts first others)) = some operation) :
    value engine scope source (Expr.callOf first others) = operation .none := by
  rw [Expr.callOf, value, Expr.dottedName?_callee, helper, Option.bind_some, found, items,
    namedItems]
  simp only [pure_bind]
  rfl

end Calls

/-! ### Registered helpers -/

namespace Cache

/-- The helpers that a look-up without a name gives out, as operations of a template. -/
def memberOperations
    (limits : Limits)
    (current : Option Nat)
    (members : List (String × Callable))
    (name : String) : Option (Operation CacheState) :=
  (members.find? fun found => found.1 == name).map fun found arguments =>
    found.2.call (runRoutine limits current) current arguments

theorem memberOperations_view (limits : Limits) (current : Option Nat) (registry : Registry) :
    memberOperations limits current registry.view = templateHelpers limits current registry := by
  funext name
  rw [memberOperations, templateHelpers, Registry.view, Registry.callable?, Table.get?,
    Option.map_map]
  rfl

theorem registry_register {name : String} (registrable : isHelperName name = true)
    (callable : Callable) (before : CacheState) :
    (register false (.text name) (.callable callable) before).2.registry =
      before.registry.store ⟨name, callable, false, none⟩ := by
  have granted := (granted?_text name callable).trans (if_pos registrable)
  rw [(register_granted false granted).2, registry_store]
  rfl

end Cache

/-- The parts of a name that can be registered, if they are read as they are spelled. -/
theorem exists_parts {name : String} (registrable : isHelperName name = true)
    (unreserved : ∀ part ∈ splitOnChar '.' name.toList, String.ofList part ∉ Token.reservedWords)
    (normal : ∀ part ∈ splitOnChar '.' name.toList, normalizeIdentifier part = part) :
    ∃ first others, splitOnChar '.' name.toList = first :: others ∧ Token.IsPart first ∧
      ∀ part ∈ others, Token.IsPart part := by
  rw [isHelperName, Bool.and_eq_true, List.all_eq_true] at registrable
  have areParts : ∀ part ∈ splitOnChar '.' name.toList, Token.IsPart part := fun part member =>
    ⟨registrable.2 part member, unreserved part member, normal part member⟩
  obtain ⟨first, others, split⟩ := List.exists_cons_of_ne_nil (splitOnChar_ne_nil '.' name.toList)
  rw [split, List.forall_mem_cons] at areParts
  exact ⟨first, others, split, areParts⟩

/-- A helper that is registered under a name without reserved words, in normal form, and without
private attributes is called by an expression that spells the name, and its result stands in the
text. -/
theorem render_registered {name : String} (registrable : isHelperName name = true)
    (unreserved : ∀ part ∈ splitOnChar '.' name.toList, String.ofList part ∉ Token.reservedWords)
    (normal : ∀ part ∈ splitOnChar '.' name.toList, normalizeIdentifier part = part)
    (isPublic : ∀ part ∈ (splitOnChar '.' name.toList).tail,
      isPrivateName (String.ofList part) = false)
    (callable : Callable) (limits : Limits) (current : Option Nat) (engine : Engine CacheState)
    (entries : Entries) (before : CacheState) :
    ∃ members,
      Cache.lookup (Cache.register false (.text name) (.callable callable) before).2.registry
        .none = .ok (.group members) ∧
      engine.render ⟨.dict entries, Cache.memberOperations limits current members⟩
          (.text (Template.delimited (name ++ "()"))) = do
        let result ← Action.mapFailure (Evaluate.nameExpression (name ++ "()"))
          (callable.call (runRoutine limits current) current .none)
        let inserted ← Action.ofOutcome (Engine.insertedText result)
        return ⟨inserted, [name ++ "()"]⟩ := by
  obtain ⟨first, others, split, isPart, areParts⟩ := exists_parts registrable unreserved normal
  rw [split, List.tail_cons] at isPublic
  have joined := joinParts_of_splitOnChar split
  have characters : (name ++ "()").toList = first ++ Token.behindPart others := by
    rw [String.toList_append, ← joined]
    simp [Token.behindPart, joinParts]
  have text : String.ofList (first ++ Token.behindPart others) = name ++ "()" := by
    rw [← characters, String.ofList_toList]
  have reads := Template.readExpression_call isPart areParts isPublic
  have whole : Template.trimmed (name ++ "()") = name ++ "()" := by
    rw [Template.trimmed, characters, Token.trimBlank_call isPart, text]
  have absent : containsText "\x7d\x7d" (name ++ "()") = false := by
    have noBrace : '\x7d' ∉ first ++ Token.behindPart others :=
      Token.absent_of_call isPart areParts (by decide) (by decide)
    rw [containsText, characters, Bool.eq_false_iff, ne_eq, occursIn_iff_consecutive]
    exact fun inside => noBrace (inside.subset List.mem_cons_self)
  refine ⟨_, rfl, ?_⟩
  rw [Cache.registry_register registrable, Cache.memberOperations_view,
    Engine.render_delimited absent, whole, Engine.renderValue, Engine.evaluate, ← text, reads]
  have helper : templateHelpers limits current (before.registry.store ⟨name, callable, false, none⟩)
      (String.ofList (joinParts first others)) = some fun arguments =>
        callable.call (runRoutine limits current) current arguments := by
    rw [joined, String.ofList_toList, templateHelpers,
      Registry.callable?_store before.registry ⟨name, callable, false, none⟩]
    rfl
  dsimp only [Action.ofOutcome]
  rw [pure_bind, Evaluate.value_callOf helper, text, whole]

namespace Sample

/-- A function without parameters that returns a value. -/
def giving (value : Value) : Callable :=
  .helper ⟨"f", .function, .plain fun _ => .finish value⟩

/-- A cache in which nothing is registered yet. -/
def blank : CacheState :=
  .initial .standard false false none

/-- The engine of templates without filters. -/
def plainEngine : Engine CacheState :=
  ⟨[], false⟩

theorem registered_heading :
    isHelperName "mdu.heading" = true ∧
      (∀ part ∈ splitOnChar '.' "mdu.heading".toList,
        String.ofList part ∉ Token.reservedWords ∧ normalizeIdentifier part = part) ∧
      (∀ part ∈ (splitOnChar '.' "mdu.heading".toList).tail,
        isPrivateName (String.ofList part) = false) ∧
      ∃ members,
        Cache.lookup (Cache.register false (.text "mdu.heading") (.callable (giving (.int 7)))
          blank).2.registry .none = .ok (.group members) ∧
        (plainEngine.render ⟨.dict [], Cache.memberOperations ⟨1, 1⟩ none members⟩
          (.text "\x7b\x7b mdu.heading() \x7d\x7d") blank).1.toOption =
            some ⟨"7", ["mdu.heading()"]⟩ := by
  have parts : splitOnChar '.' "mdu.heading".toList = ["mdu".toList, "heading".toList] := by
    decide +kernel
  have registrable : isHelperName "mdu.heading" = true := by
    decide +kernel
  have spelled : ∀ part ∈ splitOnChar '.' "mdu.heading".toList,
      String.ofList part ∉ Token.reservedWords ∧ normalizeIdentifier part = part := by
    rw [parts]
    decide +kernel
  have isPublic : ∀ part ∈ (splitOnChar '.' "mdu.heading".toList).tail,
      isPrivateName (String.ofList part) = false := by
    rw [parts]
    decide +kernel
  obtain ⟨members, looksUp, renders⟩ := render_registered registrable
    (fun part member => (spelled part member).1) (fun part member => (spelled part member).2)
    isPublic (giving (.int 7)) ⟨1, 1⟩ none plainEngine [] blank
  refine ⟨registrable, spelled, isPublic, members, looksUp, ?_⟩
  rw [show "\x7b\x7b mdu.heading() \x7d\x7d" = Template.delimited ("mdu.heading" ++ "()") by rfl,
    renders]
  decide +kernel

/-- Whether a helper of this name that returns a value is called by the expression that spells its
name, and the text that is rendered. -/
def calledAs
    (name : String)
    (value : Value) : Nat × Option String :=
  let registry := (Cache.register false (.text name) (.callable (giving value)) blank).2.registry
  let (result, after) := plainEngine.render ⟨.dict [], templateHelpers ⟨1, 1⟩ none registry⟩
    (.text (Template.delimited (name ++ "()"))) blank
  (after.calls.length, result.toOption.map Rendered.text)

/-- A private attribute and a reserved word can be registered and are never called, and a helper
that returns nothing leaves no trace, though nothing has a text. -/
theorem uncalled_names :
    isHelperName "a._b" = true ∧ calledAs "a._b" (.int 7) = (0, none) ∧
      isHelperName "class" = true ∧ calledAs "class" (.int 7) = (0, none) ∧
      calledAs "f" .none = (1, some "") ∧ Value.none.display = .ok "None" := by
  refine ⟨?_, ?_, ?_, ?_, ?_, rfl⟩ <;> decide +kernel

end Sample

end DeferredText
