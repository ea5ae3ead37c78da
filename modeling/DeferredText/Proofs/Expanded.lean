import DeferredText.Config.Loader
import DeferredText.Text.Search

/-!
Contract: references to environment variables are replaced in one pass.

A text is woven from literals in which no reference opens, and from references. It is cut at
exactly these places, whatever the pieces look like next to each other: a name may hold the
characters that open a reference, and so may a default. What is put in place of a reference is
not cut again. The first reference that has nothing to be replaced by decides what is reported.

A value is expanded text by text. The texts of a configuration file are all texts in its lists
and in the values of its mappings.

Owns: woven texts and their expansion, the texts of a value, and expansion in a loaded file.

Does not own: what is read from the expanded data (`Proofs.Decoded`).
-/

namespace DeferredText

/-! ### Written references -/

namespace Reference

variable {reference : Reference} {environment : Environment} {rest : List Char}

/-- The text behind the mark of a fallback. -/
def argument (reference : Reference) : List Char :=
  match reference.fallback with
  | .required => []
  | .default text => text
  | .complaint message => message

/-- The mark of a fallback behind a colon. -/
def marked (reference : Reference) : List Char :=
  match reference.fallback with
  | .required => []
  | .default text => ':' :: '-' :: text
  | .complaint message => ':' :: '?' :: message

/-- A reference as it stands in a text. -/
def written (reference : Reference) : List Char :=
  '$' :: '\x7b' :: (reference.name ++ reference.marked ++ ['\x7d'])

/-- The name and the argument end where they are meant to. -/
structure Proper (reference : Reference) : Prop where
  named : reference.name ≠ []
  nameEnds : ∀ character ∈ reference.name, isNameCharacter character = true
  argumentEnds : '\x7d' ∉ reference.argument

/-- A written reference is read back, and reading stops behind its brace. -/
theorem read?_written (proper : reference.Proper) :
    read? (reference.name ++ reference.marked ++ '\x7d' :: rest) = some (reference, rest) := by
  have named : reference.name.isEmpty = false := List.isEmpty_eq_false_iff.mpr proper.named
  obtain ⟨name, fallback⟩ := reference
  have nameEnds : ∀ character ∈ name, isNameCharacter character = true := proper.nameEnds
  cases fallback with
  | required =>
      have ends : isNameCharacter '\x7d' = false := rfl
      rw [marked, List.append_nil, read?, takeWhile_stretch nameEnds ends,
        dropWhile_stretch nameEnds ends, named]
      rfl
  | default text =>
      have ends : isNameCharacter ':' = false := rfl
      rw [marked, List.append_assoc, List.cons_append, List.cons_append, read?,
        takeWhile_stretch nameEnds ends, dropWhile_stretch nameEnds ends, named]
      have closed : ∀ character ∈ text, (character != '\x7d') = true :=
        bne_of_notMem proper.argumentEnds
      simp only [takeWhile_stretch closed (bne_self_eq_false _),
        dropWhile_stretch closed (bne_self_eq_false _)]
      rfl
  | complaint message =>
      have ends : isNameCharacter ':' = false := rfl
      rw [marked, List.append_assoc, List.cons_append, List.cons_append, read?,
        takeWhile_stretch nameEnds ends, dropWhile_stretch nameEnds ends, named]
      have closed : ∀ character ∈ message, (character != '\x7d') = true :=
        bne_of_notMem proper.argumentEnds
      simp only [takeWhile_stretch closed (bne_self_eq_false _),
        dropWhile_stretch closed (bne_self_eq_false _)]
      rfl

end Reference

/-! ### Woven texts -/

namespace EnvironmentPart

/-- The beginning of a reference. -/
def openingPair : List Char :=
  ['$', '\x7b']

theorem partsFrom_eq_drop (skipped : Nat) (text : List Char) :
    partsFrom skipped text = partsOf (text.drop skipped) := by
  induction text generalizing skipped with
  | nil => cases skipped <;> rfl
  | cons head tail inductionHypothesis =>
      cases skipped with
      | zero => rfl
      | succ skipped => rw [partsFrom, inductionHypothesis, List.drop_succ_cons]

/-- A character at which no reference opens stays as it is. -/
theorem partsOf_cons {head : Char} {tail : List Char} (unopened : ¬ openingPair <+: head :: tail) :
    partsOf (head :: tail) = .plain head :: partsOf tail := by
  rw [partsOf, partsFrom]
  · rfl
  · rintro inner rfl rfl
    exact unopened ⟨inner, rfl⟩

/-- A text in which no reference opens stays as it is, if no brace follows it. -/
theorem partsOf_literal {text rest : List Char} (unopened : ¬ openingPair <:+: text)
    (further : rest.head? ≠ some '\x7b') :
    partsOf (text ++ rest) = text.map .plain ++ partsOf rest := by
  induction text with
  | nil => rfl
  | cons head tail inductionHypothesis =>
      rw [List.infix_cons_iff, not_or] at unopened
      rw [List.cons_append, List.map_cons, List.cons_append, ← inductionHypothesis unopened.2]
      apply partsOf_cons
      rintro ⟨others, same⟩
      obtain ⟨isDollar, brace⟩ := List.cons.inj same
      cases tail with
      | nil =>
          -- The brace would be the first character behind the text.
          rw [List.nil_append] at brace
          rw [← brace] at further
          exact further rfl
      | cons second tail =>
          obtain ⟨isBrace, -⟩ := List.cons.inj brace
          exact unopened.1 ⟨tail, by rw [← isDollar, ← isBrace]; rfl⟩

theorem partsOf_reference {reference : Reference} (proper : reference.Proper) (rest : List Char) :
    partsOf (reference.written ++ rest) = .lookup reference :: partsOf rest := by
  have opened : '\x7b' :: (reference.name ++ reference.marked ++ '\x7d' :: rest) =
      '\x7b' :: (reference.name ++ reference.marked ++ ['\x7d']) ++ rest := by
    simp
  rw [Reference.written, List.cons_append, ← opened, partsOf, partsFrom]
  simp only [Reference.read?_written proper]
  rw [partsFrom_eq_drop, opened, List.length_append, Nat.add_sub_cancel, List.drop_left]

end EnvironmentPart

namespace Environment

/-- Text in which no reference opens. -/
structure Literal where
  characters : List Char
  unopened : ¬ EnvironmentPart.openingPair <:+: characters

/-- A reference and the literal behind it. -/
structure Slot where
  reference : Reference
  proper : reference.Proper
  literal : Literal

/-- A literal, and references with literals behind them. -/
def woven (first : Literal) : List Slot → List Char
  | [] => first.characters
  | slot :: rest => first.characters ++ (slot.reference.written ++ woven slot.literal rest)

/-- The text that takes the place of a reference: the value of its variable, or the default. -/
def replacement (environment : Environment) (reference : Reference) : List Char :=
  match environment.get? (String.ofList reference.name), reference.fallback with
  | some value, _ => value.toList
  | none, .default text => text
  | none, _ => []

/-- The literals with the replacements between them. -/
def filled (environment : Environment) (first : Literal) : List Slot → List Char
  | [] => first.characters
  | slot :: rest =>
      first.characters ++ (environment.replacement slot.reference ++
        filled environment slot.literal rest)

/-- There is something to replace a reference by. -/
def Provides (environment : Environment) (reference : Reference) : Prop :=
  (∃ value, environment.get? (String.ofList reference.name) = some value) ∨
    ∃ text, reference.fallback = .default text

end Environment

/-- What is reported if there is nothing to replace a reference by. -/
def Reference.objection (reference : Reference) : String :=
  match reference.fallback with
  | .complaint message =>
      if message = [] then missing (String.ofList reference.name) else String.ofList message
  | _ => missing (String.ofList reference.name)

namespace Environment

variable {environment : Environment}

theorem expand_of_provides {reference : Reference} (provides : environment.Provides reference) :
    reference.expand environment = .ok (environment.replacement reference) := by
  unfold Reference.expand replacement
  dsimp only
  cases isSet : environment.get? (String.ofList reference.name) with
  | some value => rfl
  | none =>
      rcases provides with ⟨value, found⟩ | ⟨text, isDefault⟩
      · rw [isSet] at found
        cases found
      · rw [isDefault]

theorem expand_of_not_provides {reference : Reference} (lacks : ¬ environment.Provides reference) :
    reference.expand environment = .error (.reported (.configInvalid reference.objection)) := by
  unfold Reference.expand Reference.objection
  dsimp only
  cases isSet : environment.get? (String.ofList reference.name) with
  | some value => exact absurd (.inl ⟨value, isSet⟩) lacks
  | none =>
      cases isFallback : reference.fallback with
      | default text => exact absurd (.inr ⟨text, isFallback⟩) lacks
      | required => rfl
      | complaint message => simp

/-- The parts of a text, expanded and joined. -/
def expandParts (environment : Environment) (parts : List EnvironmentPart) : Outcome (List Char) := do
  let pieces ← parts.mapM (EnvironmentPart.expand environment)
  return pieces.flatten

theorem expandParts_cons (part : EnvironmentPart) (rest : List EnvironmentPart) :
    environment.expandParts (part :: rest) = do
      let piece ← part.expand environment
      let further ← environment.expandParts rest
      return piece ++ further := by
  unfold expandParts
  rw [List.mapM_cons]
  cases part.expand environment with
  | error failure => rfl
  | ok piece => cases rest.mapM (EnvironmentPart.expand environment) <;> rfl

theorem expandParts_plain (text : List Char) (rest : List EnvironmentPart) :
    environment.expandParts (text.map EnvironmentPart.plain ++ rest) = do
      let further ← environment.expandParts rest
      return text ++ further := by
  induction text with
  | nil => exact (bind_pure _).symm
  | cons character text inductionHypothesis =>
      rw [List.map_cons, List.cons_append, expandParts_cons, inductionHypothesis,
        EnvironmentPart.expand]
      cases environment.expandParts rest <;> rfl

/-- What a text is expanded to. -/
def expandText (environment : Environment) (text : List Char) : Outcome (List Char) :=
  environment.expandParts (EnvironmentPart.partsOf text)

theorem expand_eq (text : String) :
    environment.expand text = String.ofList <$> environment.expandText text.toList := by
  unfold expand expandText expandParts
  cases (EnvironmentPart.partsOf text.toList).mapM (EnvironmentPart.expand environment) <;> rfl

theorem expandText_literal (literal : Literal) :
    environment.expandText literal.characters = .ok literal.characters := by
  have parts : EnvironmentPart.partsOf (literal.characters ++ []) = _ :=
    EnvironmentPart.partsOf_literal literal.unopened (by simp)
  rw [List.append_nil] at parts
  rw [expandText, parts, expandParts_plain]
  exact congrArg Except.ok (List.append_nil _)

/-- A literal stays, a reference is looked up once, and the rest is expanded for itself. -/
theorem expandText_woven (first : Literal) (slot : Slot) (rest : List Slot) :
    environment.expandText (woven first (slot :: rest)) = do
      let piece ← slot.reference.expand environment
      let further ← environment.expandText (woven slot.literal rest)
      return first.characters ++ (piece ++ further) := by
  rw [expandText, woven, EnvironmentPart.partsOf_literal first.unopened (by simp [Reference.written]),
    EnvironmentPart.partsOf_reference slot.proper, expandParts_plain, expandParts_cons,
    EnvironmentPart.expand]
  unfold expandText
  cases slot.reference.expand environment with
  | error failure => rfl
  | ok piece =>
      cases environment.expandParts (EnvironmentPart.partsOf (woven slot.literal rest)) <;> rfl

theorem expandText_filled {slots : List Slot}
    (provides : ∀ slot ∈ slots, environment.Provides slot.reference) (first : Literal) :
    environment.expandText (woven first slots) = .ok (environment.filled first slots) := by
  induction slots generalizing first with
  | nil => exact expandText_literal first
  | cons slot rest inductionHypothesis =>
      obtain ⟨provided, others⟩ := List.forall_mem_cons.mp provides
      rw [expandText_woven, expand_of_provides provided, inductionHypothesis others slot.literal]
      rfl

/-- The first reference without a replacement decides what is reported. -/
theorem expandText_lacking {before after : List Slot} {slot : Slot}
    (provides : ∀ earlier ∈ before, environment.Provides earlier.reference)
    (lacks : ¬ environment.Provides slot.reference) (first : Literal) :
    environment.expandText (woven first (before ++ slot :: after)) =
      .error (.reported (.configInvalid slot.reference.objection)) := by
  induction before generalizing first with
  | nil =>
      rw [List.nil_append, expandText_woven, expand_of_not_provides lacks]
      rfl
  | cons earlier before inductionHypothesis =>
      obtain ⟨provided, others⟩ := List.forall_mem_cons.mp provides
      rw [List.cons_append, expandText_woven, expand_of_provides provided,
        inductionHypothesis others earlier.literal]
      rfl

end Environment

/-! ### Texts in values -/

namespace Value

mutual

/-- The texts in a value, in lists and in the values of mappings at any depth. -/
def texts : Value → List String
  | .text content => [content]
  | .list items => textsOfItems items
  | .dict entries => textsOfEntries entries
  | _ => []

def textsOfItems : List Value → List String
  | [] => []
  | item :: rest => texts item ++ textsOfItems rest

def textsOfEntries : List (Value × Value) → List String
  | [] => []
  | (_, value) :: rest => texts value ++ textsOfEntries rest

end

mutual

/-- A value with its texts changed, and everything else as it was. -/
def mapTexts (change : String → String) : Value → Value
  | .text content => .text (change content)
  | .list items => .list (mapItems change items)
  | .dict entries => .dict (mapEntries change entries)
  | other => other

def mapItems (change : String → String) : List Value → List Value
  | [] => []
  | item :: rest => mapTexts change item :: mapItems change rest

def mapEntries (change : String → String) : List (Value × Value) → Entries
  | [] => []
  | (key, value) :: rest => (key, mapTexts change value) :: mapEntries change rest

end

end Value

namespace Environment

variable {environment : Environment} {change : String → String}

mutual

/-- Where every text can be expanded, only the texts change. -/
theorem expandValue_eq_ok : ∀ value : Value,
    (∀ text ∈ value.texts, environment.expand text = .ok (change text)) →
      environment.expandValue value = .ok (value.mapTexts change)
  | .text content, expands => by
      rw [expandValue, expands content List.mem_cons_self]
      rfl
  | .list items, expands => by
      rw [expandValue, expandItems_eq_ok items expands]
      rfl
  | .dict entries, expands => by
      rw [expandValue, expandEntries_eq_ok entries expands]
      rfl
  | .none, _ | .bool _, _ | .int _, _ | .float _, _ | .complex _ _, _ | .bytes _, _ | .ellipsis, _
  | .tuple _, _ | .object _ _, _ | .exception _ _, _ | .opaqueOf _, _ => rfl

theorem expandItems_eq_ok : ∀ items : List Value,
    (∀ text ∈ Value.textsOfItems items, environment.expand text = .ok (change text)) →
      environment.expandItems items = .ok (Value.mapItems change items)
  | [], _ => rfl
  | item :: rest, expands => by
      obtain ⟨first, others⟩ := List.forall_mem_append.mp expands
      rw [expandItems, expandValue_eq_ok item first, expandItems_eq_ok rest others]
      rfl

theorem expandEntries_eq_ok : ∀ entries : List (Value × Value),
    (∀ text ∈ Value.textsOfEntries entries, environment.expand text = .ok (change text)) →
      environment.expandEntries entries = .ok (Value.mapEntries change entries)
  | [], _ => rfl
  | (_, value) :: rest, expands => by
      obtain ⟨first, others⟩ := List.forall_mem_append.mp expands
      rw [expandEntries, expandValue_eq_ok value first, expandEntries_eq_ok rest others]
      rfl

end

/-- A text in the middle of two runs of texts is in the first of them, or in the second one
behind the whole first one. -/
theorem append_eq_middle {α : Type} {first second before after : List α} {middle : α}
    (same : first ++ second = before ++ middle :: after) :
    (∃ rest, first = before ++ middle :: rest) ∨
      ∃ start, before = first ++ start ∧ second = start ++ middle :: after := by
  rcases List.append_eq_append_iff.mp same with ⟨start, isBefore, isSecond⟩ | ⟨rest, isFirst, further⟩
  · exact .inr ⟨start, isBefore, isSecond⟩
  · cases rest with
    | nil => exact .inr ⟨[], by simp [isFirst], further.symm⟩
    | cons head rest =>
        obtain ⟨rfl, -⟩ := List.cons.inj further
        exact .inl ⟨rest, isFirst⟩

variable {text : String} {failure : Failure}

mutual

/-- The first text that cannot be expanded decides the failure. -/
theorem expandValue_eq_error (fails : environment.expand text = .error failure) :
    ∀ (value : Value) (before after : List String), value.texts = before ++ text :: after →
      (∀ earlier ∈ before, environment.expand earlier = .ok (change earlier)) →
        environment.expandValue value = .error failure
  | .text content, before, after, same, _ => by
      have only : content = text := by
        cases before with
        | nil => exact (List.cons.inj same).1
        | cons first before => simp [Value.texts] at same
      rw [expandValue, only, fails]
      rfl
  | .list items, before, after, same, expands => by
      rw [expandValue, expandItems_eq_error fails items before after same expands]
      rfl
  | .dict entries, before, after, same, expands => by
      rw [expandValue, expandEntries_eq_error fails entries before after same expands]
      rfl
  | .none, _, _, same, _ | .bool _, _, _, same, _ | .int _, _, _, same, _ | .float _, _, _, same, _
  | .complex _ _, _, _, same, _ | .bytes _, _, _, same, _ | .ellipsis, _, _, same, _
  | .tuple _, _, _, same, _ | .object _ _, _, _, same, _ | .exception _ _, _, _, same, _
  | .opaqueOf _, _, _, same, _ => absurd same.symm (by simp [Value.texts])

theorem expandItems_eq_error (fails : environment.expand text = .error failure) :
    ∀ (items : List Value) (before after : List String),
      Value.textsOfItems items = before ++ text :: after →
      (∀ earlier ∈ before, environment.expand earlier = .ok (change earlier)) →
        environment.expandItems items = .error failure
  | [], _, _, same, _ => absurd same.symm (by simp [Value.textsOfItems])
  | item :: rest, before, after, same, expands => by
      rcases append_eq_middle same with ⟨behind, inFirst⟩ | ⟨start, rfl, inRest⟩
      · rw [expandItems, expandValue_eq_error fails item before behind inFirst expands]
        rfl
      · obtain ⟨first, others⟩ := List.forall_mem_append.mp expands
        rw [expandItems, expandValue_eq_ok item first,
          expandItems_eq_error fails rest start after inRest others]
        rfl

theorem expandEntries_eq_error (fails : environment.expand text = .error failure) :
    ∀ (entries : List (Value × Value)) (before after : List String),
      Value.textsOfEntries entries = before ++ text :: after →
      (∀ earlier ∈ before, environment.expand earlier = .ok (change earlier)) →
        environment.expandEntries entries = .error failure
  | [], _, _, same, _ => absurd same.symm (by simp [Value.textsOfEntries])
  | (_, value) :: rest, before, after, same, expands => by
      rcases append_eq_middle same with ⟨behind, inFirst⟩ | ⟨start, rfl, inRest⟩
      · rw [expandEntries, expandValue_eq_error fails value before behind inFirst expands]
        rfl
      · obtain ⟨first, others⟩ := List.forall_mem_append.mp expands
        rw [expandEntries, expandValue_eq_ok value first,
          expandEntries_eq_error fails rest start after inRest others]
        rfl

end

end Environment

/-! ### Texts in a file -/

/-- A request for a file finds one that exists, and there is a mapping in it. -/
structure Surroundings.Holds (surroundings : Surroundings) (path : Option String)
    (existing : PathName) (data : Entries) : Prop where
  found : match path with
    | some text => existing = PathName.ofText text
    | none => surroundings.configFile? = .ok (some existing)
  isFile : surroundings.files.contains existing = true
  mapping : ∃ content, surroundings.fileText existing = .ok content ∧
    Yaml.valueOf content = .ok (.dict data)

namespace LoadRequest

variable {surroundings : Surroundings} {path : Option String} {existing : PathName} {data : Entries}

theorem readMapping_of_holds (holds : surroundings.Holds path existing data) :
    surroundings.readMapping existing = surroundings.environment.expandEntries data := by
  obtain ⟨content, isContent, isMapping⟩ := holds.mapping
  unfold Surroundings.readMapping
  rw [isContent]
  simp only [bind, Except.bind, isMapping]
  cases data <;> rfl

/-- The mapping in a file is expanded before anything is laid over it. -/
theorem answer_of_holds (holds : surroundings.Holds path existing data) (usesStandard : Bool)
    (overrides : Entries) :
    (file path usesStandard (.dict overrides)).answer surroundings = do
      let expanded ← surroundings.environment.expandEntries data
      let settings ← Settings.ofValue (.dict (Entries.merge expanded overrides))
      return ⟨settings, some existing⟩ := by
  have isFile : (some existing).filter surroundings.files.contains = some existing := by
    simp [holds.isFile]
  have found := holds.found
  rw [answer]
  unfold fromFile
  cases path with
  | some text =>
      cases found
      simp only [bind, Except.bind, pure, Except.pure, isFile, readMapping_of_holds holds]
      cases surroundings.environment.expandEntries data with
      | error failure => rfl
      | ok expanded => cases overrides <;> rfl
  | none =>
      simp only [bind, Except.bind, found, isFile, readMapping_of_holds holds]
      cases surroundings.environment.expandEntries data with
      | error failure => rfl
      | ok expanded => cases overrides <;> rfl

end LoadRequest

/-- Expansion is one pass: literals stay, every reference is replaced by the value of its variable
or by its default, and the first one that has neither decides the report. In a value exactly the
texts are expanded, in lists and in the values of mappings, and so they are in a loaded file. -/
theorem expansion_single_pass (environment : Environment) :
    (∀ (first : Environment.Literal) (slots : List Environment.Slot),
      (∀ slot ∈ slots, environment.Provides slot.reference) →
        environment.expand (String.ofList (Environment.woven first slots)) =
          .ok (String.ofList (environment.filled first slots))) ∧
    (∀ (first : Environment.Literal) (before after : List Environment.Slot)
        (slot : Environment.Slot),
      (∀ earlier ∈ before, environment.Provides earlier.reference) →
      ¬ environment.Provides slot.reference →
        environment.expand (String.ofList (Environment.woven first (before ++ slot :: after))) =
          .error (.reported (.configInvalid slot.reference.objection))) ∧
    (∀ (change : String → String) (value : Value),
      (∀ text ∈ value.texts, environment.expand text = .ok (change text)) →
        environment.expandValue value = .ok (value.mapTexts change)) ∧
    (∀ (change : String → String) (value : Value) (before after : List String) (text : String)
        (failure : Failure), value.texts = before ++ text :: after →
      (∀ earlier ∈ before, environment.expand earlier = .ok (change earlier)) →
      environment.expand text = .error failure → environment.expandValue value = .error failure) ∧
    ∀ (files : FileTree) (path : Option String) (existing : PathName) (data overrides : Entries)
        (usesStandard : Bool), Surroundings.Holds ⟨files, environment⟩ path existing data →
      (∀ change : String → String,
        (∀ text ∈ (Value.dict data).texts, environment.expand text = .ok (change text)) →
          (LoadRequest.file path usesStandard (.dict overrides)).answer ⟨files, environment⟩ = do
            let expanded := Value.mapEntries change data
            let settings ← Settings.ofValue (.dict (Entries.merge expanded overrides))
            return ⟨settings, some existing⟩) ∧
      (∀ (change : String → String) (before after : List String) (text : String)
          (failure : Failure), (Value.dict data).texts = before ++ text :: after →
        (∀ earlier ∈ before, environment.expand earlier = .ok (change earlier)) →
        environment.expand text = .error failure →
          (LoadRequest.file path usesStandard (.dict overrides)).answer ⟨files, environment⟩ =
            .error failure) := by
  refine ⟨?_, ?_, ?_, ?_, ?_⟩
  · intro first slots provides
    rw [Environment.expand_eq, String.toList_ofList, Environment.expandText_filled provides]
    rfl
  · intro first before after slot provides lacks
    rw [Environment.expand_eq, String.toList_ofList, Environment.expandText_lacking provides lacks]
    rfl
  · exact fun change value => Environment.expandValue_eq_ok value
  · exact fun change value before after text failure split expands fails =>
      Environment.expandValue_eq_error fails value before after split expands
  · intro files path existing data overrides usesStandard holds
    rw [LoadRequest.answer_of_holds holds]
    constructor
    · intro change expands
      rw [Environment.expandEntries_eq_ok data expands]
      rfl
    · intro change before after text failure split expands fails
      rw [Environment.expandEntries_eq_error fails data before after split expands]
      rfl

namespace Sample

/-- The value of one variable reads like a reference to the other. -/
def visitor : Environment :=
  [("GREETING", "$\x7bNAME\x7d"), ("NAME", "Ada")]

def nothing : Environment.Literal :=
  ⟨[], by decide⟩

/-- A reference without a fallback, and one with a default that reads like a reference. -/
def greetingSlots : List Environment.Slot :=
  [⟨⟨['G', 'R', 'E', 'E', 'T', 'I', 'N', 'G'], .required⟩,
      ⟨by decide, List.all_eq_true.mp (by decide), by decide⟩, ⟨['$', '$'], by decide⟩⟩,
    ⟨⟨['$', '\x7b', 'X'], .default ['$', '\x7b', 'Y']⟩,
      ⟨by decide, List.all_eq_true.mp (by decide), by decide⟩, nothing⟩]

/-- Neither the value that is put in nor the default is expanded again. -/
theorem greeting_expanded :
    visitor.expand "$\x7bGREETING\x7d$$$\x7b$\x7bX:-$\x7bY\x7d" = .ok "$\x7bNAME\x7d$$$\x7bY" := by
  refine (expansion_single_pass visitor).1 nothing greetingSlots ?_
  intro slot member
  rcases List.mem_cons.mp member with rfl | further
  · exact .inl ⟨_, rfl⟩
  · rw [List.mem_singleton.mp further]
    exact .inr ⟨_, rfl⟩

end Sample

end DeferredText
