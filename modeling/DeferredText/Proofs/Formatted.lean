import DeferredText.Format.Message
import DeferredText.Text.Search

/-!
Contract: message templates as they are written, and what they are filled in with.

A well-formed template is a run of literals and slots. A slot names a place in the context: an
argument, and steps from its value to attributes and items. It may convert the value, and it may
have a pattern, which may hold slots itself; these have patterns without slots.

Filling a written template in follows the run from left to right and stops at the first slot that
cannot be filled in. Literals come out as they were before their braces were doubled, and what a
slot is filled in with is not read again.

Owns: well-formed templates, their written form and their meaning.

Does not own: reports made from filled templates (`Proofs.Reported`).
-/

namespace DeferredText

/-! ### Places -/

/-- A step into a value: by a name behind a dot, or by a name in brackets. -/
inductive PlaceStep where
  | dotted (name : List Char)
  | bracketed (name : List Char)

/-- A character that does not end a name. -/
def isWordCharacter (character : Char) : Bool :=
  !(['.', '[', '\x7b', '\x7d', ':', '!'].contains character)

theorem isWordCharacter_iff {character : Char} : isWordCharacter character = true ↔
    character ≠ '.' ∧ character ≠ '[' ∧ character ≠ '\x7b' ∧ character ≠ '\x7d' ∧ character ≠ ':' ∧
      character ≠ '!' := by
  simp [isWordCharacter]

namespace PlaceStep

def written : PlaceStep → List Char
  | .dotted name => '.' :: name
  | .bracketed name => '[' :: (name ++ [']'])

/-- What the step asks for. -/
def accessor : PlaceStep → Accessor
  | .dotted name => .attribute name
  | .bracketed name => Accessor.ofBracketed name

/-- The step has a name, which ends where it is meant to. -/
def Proper : PlaceStep → Prop
  | .dotted name => name ≠ [] ∧ ∀ character ∈ name, isWordCharacter character = true
  | .bracketed name => name ≠ [] ∧ ']' ∉ name

end PlaceStep

/-- A place in a context. The argument is a name, a number, or empty. -/
structure MessagePlace where
  argument : List Char
  steps : List PlaceStep

namespace MessagePlace

def written (place : MessagePlace) : List Char :=
  place.argument ++ place.steps.flatMap PlaceStep.written

structure Proper (place : MessagePlace) : Prop where
  argument : ∀ character ∈ place.argument, isWordCharacter character = true
  steps : ∀ step ∈ place.steps, step.Proper

/-- What the context holds at a place. Nothing stands at a number, and nothing where no argument
is written. -/
def value (context : Entries) (place : MessagePlace) : Outcome Value :=
  let missing (position : Nat) : Failure :=
    .withMessage .outOfRange
      s!"Replacement index {position} out of range for positional args tuple"
  match Accessor.position? place.argument with
  | none => .error (.badValue Accessor.tooManyDigits)
  | some (some position) => .error (missing position)
  | some none =>
      if place.argument.isEmpty then .error (missing 0)
      else do
        let base ← Format.entry context (.text (String.ofList place.argument))
        Format.follow base (place.steps.map PlaceStep.accessor)

end MessagePlace

/-! ### Slots and parts -/

/-- A place whose value is filled in, after a conversion and laid out by a pattern. -/
structure MessageSlot (Pattern : Type) where
  place : MessagePlace
  conversion : Option Char
  pattern : Option Pattern

inductive MessagePart (Pattern : Type) where
  | literal (text : List Char)
  | slot (hole : MessageSlot Pattern)

namespace MessageSlot

variable {Pattern : Type}

/-- What stands between the braces of a slot. -/
def inside (write : Pattern → List Char) (slot : MessageSlot Pattern) : List Char :=
  slot.place.written ++ ((slot.conversion.map fun character => ['!', character]).getD [] ++
    (slot.pattern.map fun pattern => ':' :: write pattern).getD [])

/-- What a slot is filled in with. -/
def fill (context : Entries) (fillPattern : Pattern → Outcome (List Char))
    (slot : MessageSlot Pattern) : Outcome (List Char) := do
  let found ← slot.place.value context
  let shown ←
    match slot.conversion with
    | some conversion => Format.convert conversion found
    | none => pure found
  let pattern ←
    match slot.pattern with
    | some pattern => fillPattern pattern
    | none => pure []
  Format.value shown pattern

end MessageSlot

namespace MessagePart

variable {Pattern : Type}

/-- A literal with its braces doubled. -/
def doubled (text : List Char) : List Char :=
  text.flatMap fun character =>
    if Piece.isBrace character then [character, character] else [character]

def written (write : Pattern → List Char) : MessagePart Pattern → List Char
  | .literal text => doubled text
  | .slot hole => '\x7b' :: (hole.inside write ++ ['\x7d'])

def fill (context : Entries) (fillPattern : Pattern → Outcome (List Char)) :
    MessagePart Pattern → Outcome (List Char)
  | .literal text => .ok text
  | .slot hole => hole.fill context fillPattern

/-- The parts one behind the other; the first one that cannot be filled in decides. -/
def fillAll (context : Entries) (fillPattern : Pattern → Outcome (List Char)) :
    List (MessagePart Pattern) → Outcome (List Char)
  | [] => .ok []
  | part :: rest => do
      let first ← part.fill context fillPattern
      return first ++ (← fillAll context fillPattern rest)

end MessagePart

/-! ### Reading a field -/

namespace Field

variable {place : MessagePlace} {rest : List Char}

theorem splitName_word {word : List Char}
    (isWord : ∀ character ∈ word, isWordCharacter character = true) :
    splitName false (word ++ rest) = (word ++ (splitName false rest).1, (splitName false rest).2) := by
  induction word with
  | nil => rfl
  | cons character word inductionHypothesis =>
      obtain ⟨first, others⟩ := List.forall_mem_cons.mp isWord
      have differs := isWordCharacter_iff.mp first
      have unbracketed : (character == '[') = false := beq_eq_false_iff_ne.mpr differs.2.1
      rw [List.cons_append, splitName, if_neg (by simp [differs]), unbracketed,
        inductionHypothesis others]
      rfl

/-- Between brackets only the closing one counts. -/
theorem splitName_bracketed {name : List Char} (closed : ']' ∉ name) :
    splitName true (name ++ ']' :: rest) =
      (name ++ ']' :: (splitName false rest).1, (splitName false rest).2) := by
  induction name with
  | nil => rfl
  | cons character name inductionHypothesis =>
      rw [List.mem_cons, not_or] at closed
      have further : (character != ']') = true := bne_iff_ne.mpr (Ne.symm closed.1)
      rw [List.cons_append, splitName, further, inductionHypothesis closed.2]
      rfl

theorem splitName_step {step : PlaceStep} (proper : step.Proper) :
    splitName false (step.written ++ rest) =
      (step.written ++ (splitName false rest).1, (splitName false rest).2) := by
  cases step with
  | dotted name =>
      rw [PlaceStep.written, List.cons_append, splitName, if_neg (by decide)]
      have dot : ('.' == '[') = false := rfl
      rw [dot, splitName_word proper.2]
      rfl
  | bracketed name =>
      rw [PlaceStep.written, List.cons_append, splitName, if_neg (by decide)]
      have bracket : ('[' == '[') = true := rfl
      rw [bracket, List.append_assoc, List.singleton_append, splitName_bracketed proper.2]
      simp

/-- The name of a field ends at the first of its marks that is not between brackets. -/
theorem splitName_written (proper : place.Proper) {ending : Char}
    (ends : ['\x7b', '\x7d', ':', '!'].contains ending = true) :
    splitName false (place.written ++ ending :: rest) = (place.written, ending :: rest) := by
  obtain ⟨argument, steps⟩ := place
  have stop : splitName false (ending :: rest) = ([], ending :: rest) := by
    rw [splitName, if_pos ends]
  have walked (steps : List PlaceStep) (allProper : ∀ step ∈ steps, step.Proper) :
      splitName false (steps.flatMap PlaceStep.written ++ ending :: rest) =
        (steps.flatMap PlaceStep.written, ending :: rest) := by
    induction steps with
    | nil => exact stop
    | cons step steps inductionHypothesis =>
        obtain ⟨first, others⟩ := List.forall_mem_cons.mp allProper
        rw [List.flatMap_cons, List.append_assoc, splitName_step first,
          inductionHypothesis others]
  rw [MessagePlace.written, List.append_assoc, splitName_word proper.argument,
    walked steps proper.steps]

/-- How many braces are open behind a text, if no brace is closed in it that was not open. -/
def openBehind : Nat → List Char → Option Nat
  | depth, [] => some depth
  | depth, character :: rest =>
      if character = '\x7b' then openBehind (depth + 1) rest
      else if character = '\x7d' then
        match depth with
        | 0 => none
        | depth + 1 => openBehind depth rest
      else openBehind depth rest

/-- Every brace that is opened in the text is closed in it. -/
def Balanced (text : List Char) : Prop :=
  openBehind 0 text = some 0

instance (text : List Char) : Decidable (Balanced text) :=
  inferInstanceAs (Decidable (openBehind 0 text = some 0))

/-- Reading a pattern goes on behind a text with the braces that are open there. -/
theorem splitPattern_append {text : List Char} {depth left : Nat}
    (opens : openBehind depth text = some left) (rest : List Char) :
    splitPattern depth (text ++ rest) =
      (splitPattern left rest).map fun pair => (text ++ pair.1, pair.2) := by
  induction text generalizing depth with
  | nil =>
      cases opens
      simp
  | cons character text inductionHypothesis =>
      rw [openBehind.eq_def] at opens
      rw [List.cons_append, splitPattern.eq_def]
      dsimp only at opens ⊢
      by_cases isOpening : character = '\x7b'
      · rw [if_pos isOpening] at opens ⊢
        rw [inductionHypothesis opens, splitPattern.prepend, Option.map_map]
        rfl
      · rw [if_neg isOpening] at opens ⊢
        by_cases isClosing : character = '\x7d'
        · rw [if_pos isClosing] at opens ⊢
          cases depth with
          | zero => cases opens
          | succ depth =>
              dsimp only at opens ⊢
              rw [inductionHypothesis opens, splitPattern.prepend, Option.map_map]
              rfl
        · rw [if_neg isClosing] at opens ⊢
          rw [inductionHypothesis opens, splitPattern.prepend, Option.map_map]
          rfl

/-- A text without braces is balanced, and a balanced one without an opening brace has none. -/
theorem balanced_of_braceless {text : List Char}
    (braceless : ∀ character ∈ text, Piece.isBrace character = false) : Balanced text := by
  unfold Balanced
  induction text with
  | nil => rfl
  | cons character text inductionHypothesis =>
      obtain ⟨first, others⟩ := List.forall_mem_cons.mp braceless
      simp only [Piece.isBrace, Bool.or_eq_false_iff, beq_eq_false_iff_ne] at first
      rw [openBehind.eq_def]
      dsimp only
      rw [if_neg first.1, if_neg first.2]
      exact inductionHypothesis others

theorem Balanced.braceless {text : List Char} (balanced : Balanced text)
    (unopened : '\x7b' ∉ text) : ∀ character ∈ text, Piece.isBrace character = false := by
  unfold Balanced at balanced
  induction text with
  | nil => exact nofun
  | cons character text inductionHypothesis =>
      rw [List.mem_cons, not_or] at unopened
      rw [openBehind.eq_def] at balanced
      dsimp only at balanced
      rw [if_neg (Ne.symm unopened.1)] at balanced
      by_cases isClosing : character = '\x7d'
      · rw [if_pos isClosing] at balanced
        cases balanced
      · rw [if_neg isClosing] at balanced
        refine List.forall_mem_cons.mpr ⟨?_, inductionHypothesis balanced unopened.2⟩
        simp [Piece.isBrace, Ne.symm unopened.1, isClosing]

/-- A pattern ends at the brace that closes its field. -/
theorem readPattern_balanced {name pattern : List Char} {conversion : Option Char}
    (balanced : Balanced pattern) :
    readPattern name conversion (pattern ++ '\x7d' :: rest) =
      .ok (⟨name, conversion, pattern, pattern.contains '\x7b'⟩, rest) := by
  have ends : splitPattern 0 ('\x7d' :: rest) = some ([], rest) := by
    rw [splitPattern, if_neg (by decide), if_pos rfl]
  rw [readPattern, splitPattern_append balanced, ends, Option.map_some]
  dsimp only
  rw [List.append_nil]

end Field

namespace MessageSlot

variable {Pattern : Type} {write : Pattern → List Char} {hole : MessageSlot Pattern}

/-- The field that a slot is read as. -/
def field (write : Pattern → List Char) (hole : MessageSlot Pattern) : Field :=
  let pattern := (hole.pattern.map write).getD []
  { name := hole.place.written
    conversion := hole.conversion
    pattern := pattern
    nested := pattern.contains '\x7b' }

/-- The place of a slot ends where it is meant to, and so does its pattern. -/
structure Closed (write : Pattern → List Char) (hole : MessageSlot Pattern) : Prop where
  place : hole.place.Proper
  pattern : ∀ pattern ∈ hole.pattern, Field.Balanced (write pattern)

/-- A written slot is read back, up to its brace. -/
theorem Closed.read_inside (closed : hole.Closed write) (rest : List Char) :
    Field.read (hole.inside write ++ '\x7d' :: rest) = .ok (hole.field write, rest) := by
  obtain ⟨place, conversion, pattern⟩ := hole
  unfold inside Field.read
  cases conversion with
  | none =>
      cases pattern with
      | none =>
          simp only [Option.map_none, Option.getD_none, List.append_nil]
          rw [Field.splitName_written closed.place (by decide)]
          rfl
      | some pattern =>
          simp only [Option.map_none, Option.getD_none, List.nil_append, Option.map_some,
            Option.getD_some, List.append_assoc, List.cons_append]
          rw [Field.splitName_written closed.place (by decide)]
          dsimp only
          rw [if_neg (by decide), if_pos rfl, Field.readPattern_balanced (closed.pattern pattern rfl)]
          rfl
  | some conversion =>
      cases pattern with
      | none =>
          simp only [Option.map_none, Option.getD_none, List.append_nil, Option.map_some,
            Option.getD_some, List.append_assoc, List.cons_append, List.nil_append]
          rw [Field.splitName_written closed.place (by decide)]
          rfl
      | some pattern =>
          simp only [Option.map_some, Option.getD_some, List.append_assoc, List.cons_append,
            List.nil_append]
          rw [Field.splitName_written closed.place (by decide)]
          dsimp only
          rw [if_neg (by decide), if_neg (by decide), if_pos rfl, if_neg (by decide), if_pos rfl,
            Field.readPattern_balanced (closed.pattern pattern rfl)]
          rfl

/-- The brace before a slot is no doubled one. -/
theorem Closed.inside_head (closed : hole.Closed write) (rest : List Char) : ∃ next behind,
    hole.inside write ++ '\x7d' :: rest = next :: behind ∧ next ≠ '\x7b' := by
  obtain ⟨⟨argument, steps⟩, conversion, pattern⟩ := hole
  unfold inside MessagePlace.written
  cases argument with
  | cons character argument =>
      have isWord := closed.place.argument character List.mem_cons_self
      exact ⟨_, _, rfl, (isWordCharacter_iff.mp isWord).2.2.1⟩
  | nil =>
      cases steps with
      | cons step steps => cases step <;> exact ⟨_, _, rfl, by decide⟩
      | nil =>
          cases conversion with
          | some conversion => exact ⟨_, _, rfl, by decide⟩
          | none => cases pattern <;> exact ⟨_, _, rfl, by decide⟩

end MessageSlot

/-! ### The path of a field -/

namespace Accessor

variable {steps : List PlaceStep}

theorem isStart_of_word {character : Char} (isWord : isWordCharacter character = true) :
    (!isStart character) = true := by
  have differs := isWordCharacter_iff.mp isWord
  simp [isStart, differs.1, differs.2.1]

/-- A word ends where a step begins. -/
theorem takeWhile_steps {word : List Char}
    (isWord : ∀ character ∈ word, isWordCharacter character = true) :
    (word ++ steps.flatMap PlaceStep.written).takeWhile (fun character => !isStart character) =
      word := by
  have start : (steps.flatMap PlaceStep.written).takeWhile
      (fun character => !isStart character) = [] := by
    cases steps with
    | nil => rfl
    | cons step steps => cases step <;> rfl
  rw [List.takeWhile_append_of_pos fun character member => isStart_of_word (isWord character member),
    start, List.append_nil]

theorem pathWithin_steps (proper : ∀ step ∈ steps, step.Proper) (fuel : Nat)
    (enough : (steps.flatMap PlaceStep.written).length ≤ fuel) :
    pathWithin fuel (steps.flatMap PlaceStep.written) = steps.map PlaceStep.accessor := by
  induction steps generalizing fuel with
  | nil => cases fuel <;> rfl
  | cons step steps inductionHypothesis =>
      obtain ⟨first, others⟩ := List.forall_mem_cons.mp proper
      cases step with
      | dotted name =>
          rw [List.flatMap_cons, PlaceStep.written, List.cons_append, List.length_cons,
            List.length_append] at enough
          obtain ⟨fuel, rfl⟩ := Nat.exists_eq_add_one_of_ne_zero (show fuel ≠ 0 by omega)
          have nonempty : name.isEmpty = false := List.isEmpty_eq_false_iff.mpr first.1
          rw [List.flatMap_cons, PlaceStep.written, List.cons_append, pathWithin, if_pos rfl]
          dsimp only
          rw [takeWhile_steps first.2, nonempty, List.drop_left,
            inductionHypothesis others fuel (by omega)]
          rfl
      | bracketed name =>
          rw [List.flatMap_cons, PlaceStep.written, List.cons_append, List.length_cons,
            List.append_assoc, List.length_append, List.length_append] at enough
          obtain ⟨fuel, rfl⟩ := Nat.exists_eq_add_one_of_ne_zero (show fuel ≠ 0 by omega)
          rw [List.flatMap_cons, PlaceStep.written, List.cons_append, pathWithin,
            if_neg (by decide), if_pos rfl, List.append_assoc, List.singleton_append]
          dsimp only
          rw [takeWhile_stretch (bne_of_notMem first.2) (bne_self_eq_false _), List.drop_left]
          dsimp only
          rw [inductionHypothesis others fuel (by omega)]
          rfl

end Accessor

namespace MessageSlot

variable {Pattern : Type} {write : Pattern → List Char} {hole : MessageSlot Pattern}

theorem path_field (proper : hole.place.Proper) :
    (hole.field write).path = (hole.place.argument, hole.place.steps.map PlaceStep.accessor) := by
  have first : hole.place.written.takeWhile (fun character => !Accessor.isStart character) =
      hole.place.argument := Accessor.takeWhile_steps proper.argument
  unfold Field.path field
  dsimp only
  rw [first, MessagePlace.written, List.drop_left,
    Accessor.pathWithin_steps proper.steps _ (Nat.le_refl _)]

/-- What a field finds is what the context holds at the place of the slot. -/
theorem lookUp_field (proper : hole.place.Proper) (context : Entries) :
    Format.lookUp context (hole.field write) = hole.place.value context := by
  unfold Format.lookUp MessagePlace.value
  rw [path_field proper]
  dsimp only
  cases Accessor.position? hole.place.argument with
  | none => rfl
  | some found =>
      cases found with
      | some position => rfl
      | none => rfl

/-- The pattern of a field is filled in after its value was found and converted. -/
theorem fillPiece_eq (expand : List Char → Outcome (List Char)) (context : Entries) (field : Field) :
    Format.fillPiece expand context (.field field) = (do
      let found ← Format.lookUp context field
      let shown ←
        match field.conversion with
        | some conversion => Format.convert conversion found
        | none => pure found
      let pattern ← (if field.nested then expand field.pattern else .ok field.pattern : Outcome _)
      Format.value shown pattern) := by
  obtain ⟨name, conversion, pattern, nested⟩ := field
  rw [Format.fillPiece]
  cases nested <;> rfl

/-- A field is filled in like the slot that it is read from. -/
theorem fillPiece_field (proper : hole.place.Proper) (context : Entries)
    {expand : List Char → Outcome (List Char)} {fillPattern : Pattern → Outcome (List Char)}
    (fills : ∀ pattern ∈ hole.pattern,
      (if (write pattern).contains '\x7b' then expand (write pattern) else .ok (write pattern)) =
        fillPattern pattern) :
    Format.fillPiece expand context (.field (hole.field write)) = hole.fill context fillPattern := by
  rw [fillPiece_eq, lookUp_field proper]
  obtain ⟨place, conversion, pattern⟩ := hole
  cases pattern with
  | none => rfl
  | some pattern =>
      have filled : (if (field write ⟨place, conversion, some pattern⟩).nested then
          expand (field write ⟨place, conversion, some pattern⟩).pattern
        else .ok (field write ⟨place, conversion, some pattern⟩).pattern) = fillPattern pattern :=
        fills pattern rfl
      rw [filled]
      rfl

end MessageSlot

/-! ### Filling a written run in -/

namespace MessagePart

section Filling

variable {expand : List Char → Outcome (List Char)} {context : Entries}

/-- The pieces of a text filled in, with at most `fuel` braces cut. -/
def fillCut (expand : List Char → Outcome (List Char)) (context : Entries) (fuel : Nat)
    (text : List Char) : Outcome (List Char) :=
  Format.fillPieces expand context (Piece.cutWithin fuel text)

theorem fillPieces_literal (text : List Char) (rest : List Piece) :
    Format.fillPieces expand context (.literal text :: rest) = do
      let further ← Format.fillPieces expand context rest
      return text ++ further := rfl

theorem fillCut_nil (fuel : Nat) : fillCut expand context (fuel + 1) [] = .ok [] := rfl

/-- A character that is no brace comes out as it is. -/
theorem fillCut_cons {character : Char} (isOther : Piece.isBrace character = false) (fuel : Nat)
    (text : List Char) : fillCut expand context (fuel + 1) (character :: text) = do
      let further ← fillCut expand context (fuel + 1) text
      return character :: further := by
  have further (pieces : List Piece) (start : List Char) :
      Format.fillPieces expand context (.literal (character :: start) :: pieces) = do
        let rest ← Format.fillPieces expand context (.literal start :: pieces)
        return character :: rest := by
    rw [fillPieces_literal, fillPieces_literal]
    cases Format.fillPieces expand context pieces <;> rfl
  unfold fillCut
  rw [Piece.cutWithin, Piece.cutWithin, List.takeWhile_cons_of_pos (by simp [isOther]),
    List.dropWhile_cons_of_pos (by simp [isOther])]
  split
  · exact further _ _
  · rfl
  · split
    · exact further _ _
    · split
      · rfl
      · split
        · rfl
        · exact further _ _

/-- A doubled brace comes out as one. -/
theorem fillCut_doubled {brace : Char} (isBrace : Piece.isBrace brace = true) (fuel : Nat)
    (text : List Char) : fillCut expand context (fuel + 1) (brace :: brace :: text) = do
      let further ← fillCut expand context fuel text
      return brace :: further := by
  unfold fillCut
  rw [Piece.cutWithin, List.takeWhile_cons_of_neg (by simp [isBrace]),
    List.dropWhile_cons_of_neg (by simp [isBrace])]
  dsimp only
  rw [if_pos rfl, fillPieces_literal]
  rfl

theorem fillCut_field {next : Char} {behind further : List Char} {found : Field}
    (single : next ≠ '\x7b') (reads : Field.read (next :: behind) = .ok (found, further))
    (fuel : Nat) : fillCut expand context (fuel + 1) ('\x7b' :: next :: behind) = do
      let first ← Format.fillPiece expand context (.field found)
      let rest ← fillCut expand context fuel further
      return first ++ rest := by
  unfold fillCut
  rw [Piece.cutWithin, List.takeWhile_cons_of_neg (by decide),
    List.dropWhile_cons_of_neg (by decide)]
  dsimp only
  rw [if_neg (Ne.symm single), if_neg (by decide), reads]
  dsimp only
  rw [fillPieces_literal, Format.fillPieces]
  cases Format.fillPiece expand context (.field found) with
  | error failure => rfl
  | ok first =>
      cases Format.fillPieces expand context (Piece.cutWithin fuel further) <;>
        simp [bind, Except.bind, pure, Except.pure]

/-- A literal comes out as it was before its braces were doubled. -/
theorem fillCut_literal (text rest : List Char) (fuel : Nat)
    (enough : (doubled text ++ rest).length < fuel) :
    ∃ left, rest.length < left ∧ fillCut expand context fuel (doubled text ++ rest) = do
      let further ← fillCut expand context left rest
      return text ++ further := by
  induction text generalizing fuel with
  | nil =>
      refine ⟨fuel, enough, ?_⟩
      exact (bind_pure _).symm
  | cons character text inductionHypothesis =>
      obtain ⟨fuel, rfl⟩ := Nat.exists_eq_add_one_of_ne_zero (Nat.ne_zero_of_lt enough)
      by_cases isBrace : Piece.isBrace character = true
      · -- The brace stands there twice, and cutting it takes one of the fuel.
        have start : doubled (character :: text) ++ rest =
            character :: character :: (doubled text ++ rest) := by
          simp [doubled, isBrace]
        rw [start, List.length_cons, List.length_cons] at enough
        obtain ⟨left, more, filled⟩ := inductionHypothesis fuel (by omega)
        refine ⟨left, more, ?_⟩
        rw [start, fillCut_doubled isBrace, filled]
        cases fillCut expand context left rest <;> rfl
      · rw [Bool.not_eq_true] at isBrace
        have start : doubled (character :: text) ++ rest =
            character :: (doubled text ++ rest) := by
          simp [doubled, isBrace]
        rw [start, List.length_cons] at enough
        obtain ⟨left, more, filled⟩ := inductionHypothesis (fuel + 1) (by omega)
        refine ⟨left, more, ?_⟩
        rw [start, fillCut_cons isBrace, filled]
        cases fillCut expand context left rest <;> rfl

variable {Pattern : Type} {write : Pattern → List Char} {fillPattern : Pattern → Outcome (List Char)}

/-- A slot comes out as what it is filled in with. -/
theorem fillCut_slot {hole : MessageSlot Pattern} (closed : hole.Closed write)
    (fills : ∀ pattern ∈ hole.pattern,
      (if (write pattern).contains '\x7b' then expand (write pattern) else .ok (write pattern)) =
        fillPattern pattern) (rest : List Char) (fuel : Nat) :
    fillCut expand context (fuel + 1) (written write (.slot hole) ++ rest) = do
      let first ← hole.fill context fillPattern
      let further ← fillCut expand context fuel rest
      return first ++ further := by
  have start : written write (.slot hole) ++ rest =
      '\x7b' :: (hole.inside write ++ '\x7d' :: rest) := by
    simp [written]
  obtain ⟨next, behind, same, single⟩ := closed.inside_head rest
  have reads := closed.read_inside rest
  rw [same] at start reads
  rw [start, fillCut_field single reads, MessageSlot.fillPiece_field closed.place context fills]

/-- A written run comes out as its parts do, one behind the other. -/
theorem fillCut_written {parts : List (MessagePart Pattern)}
    (closed : ∀ hole, .slot hole ∈ parts → hole.Closed write)
    (fills : ∀ hole, .slot hole ∈ parts → ∀ pattern ∈ hole.pattern,
      (if (write pattern).contains '\x7b' then expand (write pattern) else .ok (write pattern)) =
        fillPattern pattern) (fuel : Nat)
    (enough : (parts.flatMap (written write)).length < fuel) :
    fillCut expand context fuel (parts.flatMap (written write)) =
      fillAll context fillPattern parts := by
  induction parts generalizing fuel with
  | nil =>
      obtain ⟨fuel, rfl⟩ := Nat.exists_eq_add_one_of_ne_zero (Nat.ne_zero_of_lt enough)
      exact fillCut_nil fuel
  | cons part parts inductionHypothesis =>
      have others := inductionHypothesis
        (fun hole member => closed hole (List.mem_cons_of_mem _ member))
        (fun hole member => fills hole (List.mem_cons_of_mem _ member))
      rw [List.flatMap_cons] at enough ⊢
      rw [fillAll]
      cases part with
      | literal text =>
          obtain ⟨left, more, filled⟩ := fillCut_literal text _ fuel enough
          rw [written, filled, others left more]
          rfl
      | slot hole =>
          obtain ⟨fuel, rfl⟩ := Nat.exists_eq_add_one_of_ne_zero (Nat.ne_zero_of_lt enough)
          -- The braces of the slot alone are more than the one that cutting it takes.
          have shorter : (parts.flatMap (written write)).length < fuel := by
            simp only [written, List.length_cons, List.length_append] at enough
            omega
          rw [fillCut_slot (closed hole List.mem_cons_self) (fills hole List.mem_cons_self),
            others fuel shorter]
          rfl

end Filling

end MessagePart

/-! ### Patterns and templates -/

/-- The pattern of a slot, which may hold slots with patterns of plain characters. -/
abbrev MessagePattern := List (MessagePart (List Char))

namespace MessagePattern

variable {context : Entries} {pattern : MessagePattern}

def written (pattern : MessagePattern) : List Char :=
  pattern.flatMap (MessagePart.written id)

def fill (context : Entries) (pattern : MessagePattern) : Outcome (List Char) :=
  MessagePart.fillAll context .ok pattern

/-- A pattern ends where it is meant to only if it is balanced as a whole. -/
structure Proper (pattern : MessagePattern) : Prop where
  balanced : Field.Balanced pattern.written
  places : ∀ hole, .slot hole ∈ pattern → hole.place.Proper
  plain : ∀ hole, .slot hole ∈ pattern → ∀ raw ∈ hole.pattern,
    ∀ character ∈ raw, Piece.isBrace character = false

/-- A written pattern is filled in as it is meant to be. -/
theorem fillWithin_written (proper : pattern.Proper) :
    Format.fillWithin context 1 pattern.written = pattern.fill context := by
  refine MessagePart.fillCut_written ?_ ?_ _ (Nat.lt_succ_self _)
  · intro hole member
    exact ⟨proper.places hole member,
      fun raw isPattern => Field.balanced_of_braceless (proper.plain hole member raw isPattern)⟩
  · intro hole member raw isPattern
    have unopened : ¬ (id raw).contains '\x7b' = true := by
      intro opens
      have isBrace := proper.plain hole member raw isPattern '\x7b' (List.contains_iff_mem.mp opens)
      cases isBrace
    rw [if_neg unopened]
    rfl

theorem eq_of_doubled_braceless {text : List Char}
    (braceless : ∀ character ∈ MessagePart.doubled text, Piece.isBrace character = false) :
    MessagePart.doubled text = text := by
  induction text with
  | nil => rfl
  | cons character text inductionHypothesis =>
      unfold MessagePart.doubled at braceless inductionHypothesis ⊢
      rw [List.flatMap_cons, List.forall_mem_append] at braceless
      rw [List.flatMap_cons, inductionHypothesis braceless.2]
      by_cases isBrace : Piece.isBrace character = true
      · rw [if_pos isBrace] at braceless
        rw [braceless.1 character List.mem_cons_self] at isBrace
        cases isBrace
      · rw [if_neg isBrace]
        rfl

/-- A run without braces stays as it is written. -/
theorem fill_of_braceless
    (braceless : ∀ character ∈ pattern.written, Piece.isBrace character = false) :
    pattern.fill context = .ok pattern.written := by
  unfold fill
  induction pattern with
  | nil => rfl
  | cons part pattern inductionHypothesis =>
      unfold written at braceless ⊢
      rw [List.flatMap_cons, List.forall_mem_append] at braceless
      cases part with
      | slot hole =>
          have isBrace := braceless.1 '\x7b' List.mem_cons_self
          cases isBrace
      | literal text =>
          rw [MessagePart.fillAll, inductionHypothesis braceless.2, List.flatMap_cons,
            MessagePart.written, eq_of_doubled_braceless braceless.1]
          rfl

end MessagePattern

/-- A well-formed message template. -/
structure MessageText where
  parts : List (MessagePart MessagePattern)
  places : ∀ hole, .slot hole ∈ parts → hole.place.Proper
  patterns : ∀ hole, .slot hole ∈ parts → ∀ pattern ∈ hole.pattern, pattern.Proper

namespace MessageText

/-- The template as it is written. -/
def written (text : MessageText) : String :=
  String.ofList (text.parts.flatMap (MessagePart.written MessagePattern.written))

/-- The text that the template stands for in a context. -/
def filled (context : Entries) (text : MessageText) : Outcome String :=
  String.ofList <$> MessagePart.fillAll context (MessagePattern.fill context) text.parts

/-- A written template is filled in as it is meant to be. -/
theorem message_written (context : Entries) (text : MessageText) :
    Format.message context text.written = text.filled context := by
  have whole : Format.fillWithin context 2 text.written.toList =
      MessagePart.fillAll context (MessagePattern.fill context) text.parts := by
    rw [written, String.toList_ofList]
    refine MessagePart.fillCut_written ?_ ?_ _ (Nat.lt_succ_self _)
    · intro hole member
      exact ⟨text.places hole member,
        fun pattern isPattern => (text.patterns hole member pattern isPattern).balanced⟩
    · intro hole member pattern isPattern
      have proper := text.patterns hole member pattern isPattern
      by_cases opens : pattern.written.contains '\x7b' = true
      · rw [if_pos opens]
        exact MessagePattern.fillWithin_written proper
      · rw [if_neg opens]
        rw [List.contains_iff_mem] at opens
        exact (MessagePattern.fill_of_braceless (proper.balanced.braceless opens)).symm
  rw [Format.message, whole, filled]
  cases MessagePart.fillAll context (MessagePattern.fill context) text.parts <;> rfl

end MessageText

end DeferredText
