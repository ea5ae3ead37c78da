import DeferredText.Proofs.Permitted
import DeferredText.Proofs.Replacement
import Mathlib.Data.List.DropRight

/-!
Contract: expressions between braces.

The end of an expression is found without reading it: it is the first closing pair. So an
expression can be written in a template exactly if it has no such pair inside, and then the
template renders to the text of its value.

Owns: the segment that an expression between braces is cut into, and evaluations whose failures
mention different texts.

Does not own: templates of several expressions (`Template.Segment`).
-/

namespace DeferredText

/-! ### Closing pairs -/

namespace Segment

/-- The end of an expression. -/
def closingPair : List Char :=
  ['\x7d', '\x7d']

variable {text body rest : List Char}

/-- What stands before a closing pair is cut off, if no pair is in it and none begins at its end. -/
theorem untilClosed?_closed (absent : ¬ closingPair <:+: text)
    (ended : text.getLast? ≠ some '\x7d') :
    untilClosed? (text ++ '\x7d' :: '\x7d' :: rest) = some text := by
  induction text with
  | nil => rfl
  | cons head tail inductionHypothesis =>
      have noPair : ¬ (head = '\x7d' ∧
          (tail ++ '\x7d' :: '\x7d' :: rest).head? = some '\x7d') := by
        rintro ⟨rfl, next⟩
        cases tail with
        | nil => exact ended rfl
        | cons second others =>
            obtain rfl := Option.some.inj next
            exact absent ⟨[], others, rfl⟩
      have further : ¬ closingPair <:+: tail := fun inside =>
        absent (List.infix_cons_iff.mpr (.inr inside))
      have tailEnded : tail.getLast? ≠ some '\x7d' := by
        cases tail with
        | nil => nofun
        | cons second others => rwa [List.getLast?_cons_cons] at ended
      rw [List.cons_append, untilClosed?, if_neg noPair, inductionHypothesis further tailEnded]
      rfl

/-- A text without a closing pair is cut off behind a blank. -/
theorem untilClosed?_append (absent : ¬ closingPair <:+: text) :
    untilClosed? (text ++ ' ' :: '\x7d' :: '\x7d' :: rest) = some (text ++ [' ']) := by
  have padded : ¬ closingPair <:+: text ++ [' '] := by
    rw [List.infix_concat_iff]
    rintro (⟨front, whole⟩ | inside)
    · have lasts := congrArg List.getLast? whole
      simp [closingPair] at lasts
    · exact absent inside
  have ended : (text ++ [' ']).getLast? ≠ some '\x7d' := by simp
  have closed := @untilClosed?_closed _ rest padded ended
  rwa [List.append_assoc] at closed

theorem untilClosed?_isSome (text rest : List Char) :
    (untilClosed? (text ++ '\x7d' :: '\x7d' :: rest)).isSome = true := by
  induction text with
  | nil => rfl
  | cons head tail inductionHypothesis =>
      rw [List.cons_append, untilClosed?]
      split
      · rfl
      · rw [Option.isSome_map, inductionHypothesis]

/-- What is cut off ends at a closing pair and has none inside. -/
theorem of_untilClosed? (closed : untilClosed? text = some body) :
    ∃ rest, text = body ++ '\x7d' :: '\x7d' :: rest ∧ ¬ closingPair <:+: body := by
  induction text generalizing body with
  | nil => cases closed
  | cons head tail inductionHypothesis =>
      rw [untilClosed?] at closed
      split at closed
      · rename_i isPair
        obtain ⟨rfl, next⟩ := isPair
        obtain rfl := Option.some.inj closed
        obtain ⟨rest, rfl⟩ := List.head?_eq_some_iff.mp next
        refine ⟨rest, rfl, fun inside => ?_⟩
        cases List.infix_nil.mp inside
      · rename_i noPair
        obtain ⟨inner, closedTail, rfl⟩ := Option.map_eq_some_iff.mp closed
        obtain ⟨rest, rfl, absent⟩ := inductionHypothesis closedTail
        refine ⟨rest, rfl, fun inside => ?_⟩
        rcases List.infix_cons_iff.mp inside with ⟨after, here⟩ | later
        · obtain ⟨rfl, next⟩ := List.cons.inj here
          refine noPair ⟨rfl, ?_⟩
          rw [← next]
          rfl
        · exact absent later

theorem cutFrom_eq_drop (skipped : Nat) (text : List Char) :
    cutFrom skipped text = cut (text.drop skipped) := by
  induction text generalizing skipped with
  | nil => cases skipped <;> rfl
  | cons head tail inductionHypothesis =>
      cases skipped with
      | zero => rfl
      | succ skipped => rw [cutFrom, inductionHypothesis, List.drop_succ_cons]

/-- An expression at the beginning of a text is cut off, whatever stands behind it. -/
theorem cut_opened {first : Char} (closed : untilClosed? text = some body) :
    cut ('\x7b' :: '\x7b' :: first :: text) =
      .expression (first :: body) :: cut (text.drop (body.length + 2)) := by
  have opens : opened? ('\x7b' :: '\x7b' :: first :: text) = some (first :: body) := by
    rw [opened?, closed]
    rfl
  rw [cut, cutFrom, opens]
  dsimp only
  rw [cutFrom_eq_drop]
  rfl

end Segment

/-! ### Blanks around an expression -/

theorem trimBlank_padded (text : List Char) : trimBlank (' ' :: text ++ [' ']) = trimBlank text := by
  have front : (' ' :: text ++ [' ']).dropWhile isBlank = (text ++ [' ']).dropWhile isBlank := rfl
  rw [trimBlank, front, List.dropWhile_append]
  split
  · rename_i allBlank
    rw [trimBlank, List.isEmpty_iff.mp allBlank]
    rfl
  · rw [List.reverse_append]
    rfl

/-- What is left of a text begins with something visible. -/
theorem dropWhile_trimBlank (text : List Char) :
    (trimBlank text).dropWhile isBlank = trimBlank text := by
  obtain ⟨behind, split⟩ : trimBlank text <+: text.dropWhile isBlank :=
    List.rdropWhile_prefix isBlank _
  rw [List.dropWhile_eq_self_iff]
  intro nonempty
  have visible := List.dropWhile_get_zero_not (p := isBlank) text
    (by rw [← split, List.length_append]; omega)
  simpa only [← split, List.get_eq_getElem, List.getElem_append_left nonempty] using visible

theorem trimBlank_trimBlank (text : List Char) : trimBlank (trimBlank text) = trimBlank text := by
  rw [trimBlank, dropWhile_trimBlank]
  exact List.rdropWhile_idempotent isBlank _

/-- Trimming takes away blanks only. -/
theorem count_trimBlank {character : Char} (visible : isBlank character = false) (text : List Char) :
    (trimBlank text).count character = text.count character := by
  have dropped (run : List Char) : (run.dropWhile isBlank).count character = run.count character := by
    induction run with
    | nil => rfl
    | cons head tail inductionHypothesis =>
        rw [List.dropWhile_cons]
        split
        · rename_i blank
          have other : head ≠ character := by
            rintro rfl
            rw [visible] at blank
            cases blank
          rw [inductionHypothesis, List.count_cons_of_ne other]
        · rfl
  rw [trimBlank, List.count_reverse, dropped, List.count_reverse, dropped]

namespace Template

/-- An expression between braces. -/
def delimited (expression : String) : String :=
  "\x7b\x7b " ++ expression ++ " \x7d\x7d"

/-- An expression without the blanks around it. -/
def trimmed (expression : String) : String :=
  String.ofList (trimBlank expression.toList)

variable {expression : String}

theorem trimmed_trimmed (expression : String) : trimmed (trimmed expression) = trimmed expression := by
  rw [trimmed, trimmed, String.toList_ofList, trimBlank_trimBlank]

theorem toList_delimited (expression : String) :
    (delimited expression).toList =
      '\x7b' :: '\x7b' :: ' ' :: (expression.toList ++ ' ' :: '\x7d' :: '\x7d' :: []) := by
  rw [delimited, String.toList_append, String.toList_append]
  rfl

theorem closingPair_toList : "\x7d\x7d".toList = Segment.closingPair := rfl

/-- An expression without a closing pair is the only segment. -/
theorem cut_delimited (absent : containsText "\x7d\x7d" expression = false) :
    Segment.cut (delimited expression).toList =
      [.expression (' ' :: expression.toList ++ [' '])] := by
  have noPair : ¬ Segment.closingPair <:+: expression.toList := by
    rw [← closingPair_toList, ← occursIn_iff_consecutive]
    exact Bool.eq_false_iff.mp absent
  rw [toList_delimited, Segment.cut_opened (Segment.untilClosed?_append noPair),
    List.drop_eq_nil_of_le (by simp)]
  rfl

/-- An expression that is cut out whole has no closing pair. -/
theorem closingPair_absent (whole : expressions (delimited expression) = [trimmed expression]) :
    containsText "\x7d\x7d" expression = false := by
  have closes : (Segment.untilClosed?
      (expression.toList ++ ' ' :: '\x7d' :: '\x7d' :: [])).isSome = true := by
    simpa using Segment.untilClosed?_isSome (expression.toList ++ [' ']) []
  obtain ⟨body, closed⟩ := Option.isSome_iff_exists.mp closes
  obtain ⟨rest, split, noPair⟩ := Segment.of_untilClosed? closed
  have sameText : trimBlank (' ' :: body) = trimBlank expression.toList := by
    rw [expressions, toList_delimited, Segment.cut_opened closed] at whole
    simp only [List.filterMap_cons, Segment.body?, Option.map_some, List.cons.injEq, trimmed] at whole
    exact String.ofList_injective whole.1
  have sameCount : body.count '\x7d' = expression.toList.count '\x7d' := by
    have counts := congrArg (List.count '\x7d') sameText
    rwa [count_trimBlank rfl, count_trimBlank rfl, List.count_cons_of_ne (by decide)] at counts
  have noneBehind : rest.count '\x7d' = 0 := by
    have counts := congrArg (List.count '\x7d') split
    simp only [List.count_append, List.count_cons, sameCount] at counts
    simp at counts
    omega
  have nothingBehind : rest = [] := by
    rcases List.eq_nil_or_concat rest with empty | ⟨start, last, rfl⟩
    · exact empty
    · have lasts := congrArg (fun text => text.reverse.head?) split
      simp only [List.concat_eq_append, List.reverse_append, List.reverse_cons] at lasts
      obtain rfl := Option.some.inj lasts
      simp at noneBehind
  subst nothingBehind
  have same : expression.toList ++ [' '] = body := by
    rw [← List.append_cancel_right_eq _ ['\x7d', '\x7d']]
    simpa using split
  rw [← same] at noPair
  rw [containsText, Bool.eq_false_iff, ne_eq, occursIn_iff_consecutive, closingPair_toList]
  exact fun inside => noPair (inside.trans (List.prefix_append _ _).isInfix)

end Template

/-! ### Failures that mention different texts -/

/-- A failure without what it says about the text of an expression. -/
def Failure.untold : Failure → Failure
  | .reported report => .reported { report with detail := .none, template := .none }
  | failure => failure

namespace Action

variable {σ α β : Type}

theorem mapFailure_bind (change : Failure → Failure) (action : Action σ α) (next : α → Action σ β) :
    mapFailure change (action >>= next) =
      mapFailure change action >>= fun value => mapFailure change (next value) := by
  funext state
  rw [bind_eq, mapFailure, mapFailure, bind_eq]
  rcases action state with ⟨(failure | _ | _) | value, after⟩
  all_goals rfl

/-- Computations that differ at most in what their failures say about a text. -/
def Alike (first second : Action σ α) : Prop :=
  mapFailure Failure.untold first = mapFailure Failure.untold second

theorem Alike.refl (action : Action σ α) : Alike action action := rfl

theorem Alike.bind {first second : Action σ α} {next further : α → Action σ β}
    (alike : Alike first second) (continues : ∀ value, Alike (next value) (further value)) :
    Alike (first >>= next) (second >>= further) := by
  rw [Alike, mapFailure_bind, mapFailure_bind, alike]
  exact congrArg _ (funext continues)

theorem alike_fail {first second : Failure} (same : first.untold = second.untold) :
    Alike (fail first : Action σ α) (fail second) :=
  congrArg (fun failure => (fail failure : Action σ α)) same

theorem alike_nameExpression (expression : String) (action : Action σ α) :
    Alike (mapFailure (Evaluate.nameExpression expression) action) action := by
  funext state
  rw [mapFailure, mapFailure, mapFailure]
  rcases action state with ⟨(failure | _ | _) | value, after⟩
  · cases failure <;> rfl
  all_goals rfl

theorem Alike.mapFailure {first second : Action σ α} (alike : Alike first second)
    (expression other : String) :
    Alike (mapFailure (Evaluate.nameExpression expression) first)
      (Action.mapFailure (Evaluate.nameExpression other) second) := by
  rw [Alike, alike_nameExpression expression first, alike_nameExpression other second, alike]

end Action

namespace Evaluate

open DeferredText.Action

variable {σ : Type} {engine : Engine σ} {scope : Scope σ} {first second : String}

theorem alike_undefined (name : String) :
    Alike (ofOutcome (undefined engine first name) : Action σ Value)
      (ofOutcome (undefined engine second name)) := by
  rw [undefined, undefined]
  split
  · exact alike_fail rfl
  · exact .refl _

theorem alike_name (data : Value) (identifier : String) :
    Alike (ofOutcome (name engine data first identifier) : Action σ Value)
      (ofOutcome (name engine data second identifier)) := by
  rw [name, name]
  cases data.bindsName identifier with
  | error failure => exact .refl _
  | ok binds =>
      cases binds with
      | true => exact .refl _
      | false =>
          simp only [bind, Except.bind]
          cases aliases.find? fun pair => pair.1 == identifier with
          | some pair => exact .refl _
          | none => exact alike_undefined identifier

theorem alike_access (base key : Value) :
    Alike (ofOutcome (access engine first base key) : Action σ Value)
      (ofOutcome (access engine second base key)) := by
  rw [access, access]
  rcases base.access? key with failure | _ | found
  · exact .refl _
  · cases key.display with
    | error failure => exact .refl _
    | ok shown => exact alike_undefined shown
  · exact .refl _

theorem alike_helper (called : Option String) :
    Alike (helper scope first called) (helper scope second called) := by
  rw [helper, helper]
  split
  · exact .refl _
  · exact alike_fail rfl

theorem alike_applyFilter (called : Option String) (value : Value) (arguments : Arguments) :
    Alike (applyFilter engine scope first called value arguments)
      (applyFilter engine scope second called value arguments) := by
  rw [applyFilter, applyFilter]
  cases called.bind engine.filter? with
  | some operation =>
      refine (Alike.refl _).bind fun outcome => ?_
      cases outcome with
      | ok result => exact .refl _
      | error failure =>
          dsimp only
          split
          · exact (Alike.refl _).bind fun _ => alike_fail rfl
          · exact .refl _
  | none =>
      cases called.bind scope.helpers with
      | some operation => exact .refl _
      | none => exact alike_fail rfl

mutual

theorem alike_value : ∀ expression : Expr,
    Alike (value engine scope first expression) (value engine scope second expression)
  | .constant constant => by
      rw [value, value]
      exact .refl _
  | .name identifier _ => by
      rw [value, value]
      exact alike_name _ _
  | .member base field _ => by
      rw [value, value]
      exact (alike_value base).bind fun _ => alike_access _ _
  | .subscript base key _ => by
      rw [value, value]
      exact (alike_value base).bind fun _ => (alike_value key).bind fun _ => alike_access _ _
  | .call callee arguments keywords => by
      rw [value, value]
      exact (alike_helper _).bind fun _ => (alike_items arguments).bind fun _ =>
        (alike_namedItems [] keywords).bind fun _ => .refl _
  | .binary left .pipe right => by
      cases right with
      | call callee arguments keywords =>
          rw [value, value]
          exact (alike_value left).bind fun _ => (alike_items arguments).bind fun _ =>
            (alike_namedItems [] keywords).bind fun _ => alike_applyFilter _ _ _
      | _ =>
          rw [value, value]
          · exact (alike_value left).bind fun _ => alike_applyFilter _ _ _
          all_goals nofun
  | .unary operator operand => by
      rw [value, value]
      exact (alike_value operand).bind fun _ => .refl _
  | .list elements _ => by
      rw [value, value]
      exact (alike_items elements).bind fun _ => .refl _
  | .tuple elements _ => by
      rw [value, value]
      exact (alike_items elements).bind fun _ => .refl _
  | .dict pairs => by
      rw [value, value]
      exact (alike_entries [] pairs).bind fun _ => .refl _
  | .binary _ (.beyond _) _ => by
      rw [value, value]
      · exact alike_fail rfl
      all_goals nofun
  | .beyond _ _ => by
      rw [value, value]
      · exact alike_fail rfl
      all_goals nofun

theorem alike_items : ∀ expressions : List Expr,
    Alike (items engine scope first expressions) (items engine scope second expressions)
  | [] => by
      rw [items, items]
      exact .refl _
  | head :: rest => by
      rw [items, items]
      exact (alike_value head).bind fun _ => (alike_items rest).bind fun _ => .refl _

theorem alike_namedItems (collected : List (String × Value)) :
    ∀ keywords : List (Option String × Expr),
      Alike (namedItems engine scope first collected keywords)
        (namedItems engine scope second collected keywords)
  | [] => by
      rw [namedItems, namedItems]
      exact .refl _
  | (none, _) :: rest => by
      rw [namedItems, namedItems]
      exact alike_namedItems collected rest
  | (some keyword, expression) :: rest => by
      rw [namedItems, namedItems]
      exact (alike_value expression).bind fun _ => alike_namedItems _ rest

theorem alike_entries (collected : Entries) : ∀ pairs : List (Option Expr × Expr),
    Alike (entries engine scope first collected pairs)
      (entries engine scope second collected pairs)
  | [] => by
      rw [entries, entries]
      exact .refl _
  | (none, _) :: rest => by
      rw [entries, entries]
      exact alike_entries collected rest
  | (some key, expression) :: rest => by
      rw [entries, entries]
      exact (alike_value key).bind fun _ => (alike_value expression).bind fun _ =>
        (Alike.refl _).bind fun _ => alike_entries _ rest

end

end Evaluate

/-! ### Rendering an expression -/

namespace Engine

open DeferredText.Action Template

variable {σ : Type} {engine : Engine σ} {scope : Scope σ} {expression : String}

/-- The blanks around an expression are not read. -/
theorem alike_read (expression : String) :
    Alike (ofOutcome (readExpression (trimmed expression)) : Action σ Expr)
      (ofOutcome (readExpression expression)) := by
  rw [readExpression, readExpression, trimmed, String.toList_ofList, trimBlank_trimBlank]
  rcases syntaxOf (trimBlank expression.toList) with failure | _ | tree
  · exact .refl _
  · exact alike_fail rfl
  · dsimp only [bind, Except.bind]
    split
    · exact .refl _
    · exact alike_fail rfl

theorem alike_evaluate (expression : String) :
    Alike (engine.evaluate scope (trimmed expression)) (engine.evaluate scope expression) :=
  (alike_read expression).bind fun tree => (Evaluate.alike_value tree).mapFailure _ _

/-- The rendering of one expression. -/
def renderValue
    (engine : Engine σ)
    (scope : Scope σ)
    (expression : String) : Action σ Rendered := do
  let value ← engine.evaluate scope expression
  let inserted ← ofOutcome (insertedText value)
  return ⟨inserted, [trimmed expression]⟩

theorem alike_renderValue (expression : String) :
    Alike (engine.renderValue scope (trimmed expression)) (engine.renderValue scope expression) := by
  refine (alike_evaluate expression).bind fun value => (Alike.refl _).bind fun inserted => ?_
  rw [trimmed_trimmed]
  exact .refl _

/-- Mappings are what templates see, also if they are empty. -/
theorem render_mapping (entries : Entries) (helpers : String → Option (Operation σ))
    (content : String) :
    engine.render ⟨.dict entries, helpers⟩ (.text content) =
      engine.renderSegments ⟨.dict entries, helpers⟩ (Segment.cut content.toList) := by
  cases entries <;> rfl

/-- Without a closing pair, rendering the expression between braces renders its value. -/
theorem render_delimited (absent : containsText "\x7d\x7d" expression = false) (entries : Entries)
    (helpers : String → Option (Operation σ)) :
    engine.render ⟨.dict entries, helpers⟩ (.text (delimited expression)) =
      engine.renderValue ⟨.dict entries, helpers⟩ (trimmed expression) := by
  rw [render_mapping, cut_delimited absent, renderSegments, trimBlank_padded, renderValue,
    trimmed_trimmed]
  simp [renderSegments, trimmed]

end Engine

/-- Braces around an expression enclose exactly that expression if and only if it has no closing
pair inside; and then the template renders to the text of its value. -/
theorem delimited_expression (expression : String) :
    containsText "\x7d\x7d" expression = false ↔
      Template.hasExpressions (Template.delimited expression) = true ∧
      Template.expressions (Template.delimited expression) = [Template.trimmed expression] ∧
      ∀ (σ : Type) (engine : Engine σ) (entries : Entries)
        (helpers : String → Option (Operation σ)),
          Action.Alike
            (engine.render ⟨.dict entries, helpers⟩ (.text (Template.delimited expression)))
            (engine.renderValue ⟨.dict entries, helpers⟩ expression) := by
  constructor
  · intro absent
    have segments := Template.cut_delimited absent
    refine ⟨?_, ?_, fun σ engine entries helpers => ?_⟩
    · rw [Template.hasExpressions, segments]
      rfl
    · rw [Template.expressions, segments, Template.trimmed, ← trimBlank_padded]
      rfl
    · rw [Engine.render_delimited absent]
      exact Engine.alike_renderValue expression
  · rintro ⟨-, whole, -⟩
    exact Template.closingPair_absent whole

namespace Sample

/-- A display of a mapping inside another one. -/
def nestedDisplay : String :=
  "\x7b'a': \x7b'b': 1\x7d\x7d"

/-- Such a display is accepted and has a value, and cannot be written between braces: what is cut
out is the beginning of it, which is no expression. -/
theorem delimited_nested :
    (Template.readExpression nestedDisplay).toOption.isSome = true ∧
      ((⟨[], false⟩ : Engine Unit).renderValue ⟨.dict [], fun _ => none⟩ nestedDisplay ()).1.toOption =
        some ⟨nestedDisplay, [nestedDisplay]⟩ ∧
      Template.expressions (Template.delimited nestedDisplay) = ["\x7b'a': \x7b'b': 1"] ∧
      ((⟨[], false⟩ : Engine Unit).render ⟨.dict [], fun _ => none⟩
        (.text (Template.delimited nestedDisplay)) ()).1.toOption = none := by
  decide +kernel

end Sample

end DeferredText
