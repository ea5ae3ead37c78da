import DeferredText.Proofs.Formatted
import DeferredText.Proofs.Places
import DeferredText.Proofs.Wording
import DeferredText.Report.Catalog
import Mathlib.Data.List.Forall2

/-!
Contract: what comes of the templates of a report.

The message is filled in first, then the detail and the suggestion, unless the context gives one
that counts. A template whose first trouble is something that the context lacks stays as it is
written. Any other trouble, such as a field without a name, is what the whole report ends in.

Owns: the report that a wording stands for, and when there is one.

Does not own: what a template is filled in with (`Proofs.Formatted`).
-/

namespace DeferredText

/-! ### Places in a context of names -/

namespace MessagePlace

variable {context : Entries} {place : MessagePlace}

/-- The argument of the place is a name: neither a number nor empty. -/
def Named (place : MessagePlace) : Prop :=
  place.argument ≠ [] ∧ Accessor.position? place.argument = some none

theorem named_of_letter {head : Char} {rest : List Char} {steps : List PlaceStep}
    (isLetter : head ∈ ['d', 'e', 'h', 'r', 't']) : Named ⟨head :: rest, steps⟩ :=
  ⟨nofun, Accessor.position?_of_letter (decimalValue?_letters head isLetter)⟩

/-- What a place with a name leads to starts at the entry of that name. -/
theorem Named.value_eq (named : place.Named) : place.value context =
    match context.getText? (String.ofList place.argument) with
    | some base => Format.follow base (place.steps.map PlaceStep.accessor)
    | none => .error (.raised .missingKey [.text (String.ofList place.argument)]) := by
  have nonempty : place.argument.isEmpty = false := List.isEmpty_eq_false_iff.mpr named.1
  rw [value, named.2]
  dsimp only
  rw [nonempty, if_neg Bool.false_ne_true, Format.entry]
  unfold Entries.getText?
  cases context.get? (.text (String.ofList place.argument)) <;> rfl

end MessagePlace

/-! ### Filling parts in -/

namespace MessageSlot

variable {Pattern : Type} {context : Entries} {fillPattern : Pattern → Outcome (List Char)}

/-- A slot that is just a place. -/
def bare (place : MessagePlace) : MessageSlot Pattern :=
  ⟨place, none, none⟩

/-- Such a slot is filled in with the display text of the value at its place. -/
theorem fill_bare (place : MessagePlace) : (bare place).fill context fillPattern = do
    let found ← place.value context
    return (← found.display).toList := rfl

end MessageSlot

namespace MessagePart

variable {Pattern : Type} {context : Entries} {fillPattern : Pattern → Outcome (List Char)}
  {parts : List (MessagePart Pattern)}

/-- Otherwise the first part that cannot be filled in decides. -/
theorem fillAll_eq_error_iff {failure : Failure} :
    fillAll context fillPattern parts = .error failure ↔
      ∃ before part after, parts = before ++ part :: after ∧
        (∀ earlier ∈ before, ∃ filling, earlier.fill context fillPattern = .ok filling) ∧
        part.fill context fillPattern = .error failure := by
  induction parts with
  | nil => simp [fillAll]
  | cons part parts inductionHypothesis =>
      rw [fillAll, Outcome.bind_eq_error_iff]
      constructor
      · rintro (fails | ⟨filling, isFilled, fails⟩)
        · exact ⟨[], part, parts, rfl, List.forall_mem_nil _, fails⟩
        · rcases Outcome.bind_eq_error_iff.mp fails with fails | ⟨_, _, same⟩
          · obtain ⟨before, other, after, rfl, fills, fails⟩ := inductionHypothesis.mp fails
            exact ⟨part :: before, other, after, rfl,
              List.forall_mem_cons.mpr ⟨⟨filling, isFilled⟩, fills⟩, fails⟩
          · cases same
      · rintro ⟨before, other, after, split, fills, fails⟩
        cases before with
        | nil =>
            cases split
            exact .inl fails
        | cons earlier before =>
            cases split
            obtain ⟨⟨filling, isFilled⟩, others⟩ := List.forall_mem_cons.mp fills
            have further := inductionHypothesis.mpr ⟨before, other, after, rfl, others, fails⟩
            exact .inr ⟨filling, isFilled, Outcome.bind_eq_error_iff.mpr (.inl further)⟩

end MessagePart

/-! ### Texts that settle -/

namespace MessageText

variable {context : Entries} {text : MessageText}

/-- Whatever the text cannot be filled in with is something that the context lacks. -/
def Settles (context : Entries) (text : MessageText) : Prop :=
  ∀ failure, text.filled context = .error failure → ReportCatalog.isMissing failure = true

/-- The text filled in, or as it is written. -/
def settled (context : Entries) (text : MessageText) : String :=
  match text.filled context with
  | .ok filled => filled
  | .error _ => text.written

theorem filled_eq_error_iff {failure : Failure} : text.filled context = .error failure ↔
    ∃ before part after, text.parts = before ++ part :: after ∧
      (∀ earlier ∈ before, ∃ filling,
        earlier.fill context (MessagePattern.fill context) = .ok filling) ∧
      part.fill context (MessagePattern.fill context) = .error failure := by
  rw [← MessagePart.fillAll_eq_error_iff, filled]
  cases MessagePart.fillAll context (MessagePattern.fill context) text.parts <;>
    simp [Functor.map, Except.map]

/-- The trouble of a text that does not settle. -/
def trouble (context : Entries) (text : MessageText) : Outcome Unit :=
  match text.filled context with
  | .ok _ => .ok ()
  | .error failure => if ReportCatalog.isMissing failure then .ok () else .error failure

theorem fill_written : ReportCatalog.fill context text.written = do
    text.trouble context
    return text.settled context := by
  rw [ReportCatalog.fill, message_written, trouble, settled]
  cases text.filled context with
  | ok filled => rfl
  | error failure =>
      dsimp only
      cases ReportCatalog.isMissing failure <;> rfl

theorem trouble_eq_ok_iff : text.trouble context = .ok () ↔ text.Settles context := by
  unfold trouble Settles
  cases text.filled context with
  | ok filled => simp
  | error failure => cases isMissing : ReportCatalog.isMissing failure <;> simp [isMissing]

/-- All slots of the text are just names of entries. -/
def Bare (text : MessageText) : Prop :=
  ∀ hole, .slot hole ∈ text.parts → ∃ place : MessagePlace,
    place.Named ∧ place.steps = [] ∧ hole = .bare place

/-- Such a text settles where every entry has a display text. -/
theorem Bare.settles (bare : text.Bare)
    (displayed : ∀ name value, context.getText? name = some value →
      ∃ content, value.display = .ok content) : text.Settles context := by
  intro failure fails
  obtain ⟨before, part, after, split, -, partFails⟩ := filled_eq_error_iff.mp fails
  cases part with
  | literal characters => cases partFails
  | slot hole =>
      obtain ⟨place, named, noSteps, rfl⟩ := bare hole (by simp [split])
      rw [MessagePart.fill, MessageSlot.fill_bare, named.value_eq] at partFails
      cases found : context.getText? (String.ofList place.argument) with
      | none =>
          rw [found] at partFails
          cases partFails
          rfl
      | some value =>
          obtain ⟨content, shows⟩ := displayed _ value found
          rw [found, noSteps] at partFails
          simp [Format.follow, shows, bind, Except.bind, pure, Except.pure] at partFails

/-- A text without slots. -/
def plain (content : String) : MessageText where
  parts := [.literal content.toList]
  places := by simp
  patterns := by simp

theorem eq_of_mem_around {before after : List Char} {hole inner : MessageSlot MessagePattern}
    (member : MessagePart.slot hole ∈ [.literal before, .slot inner, .literal after]) :
    hole = inner := by
  simpa using member

/-- A literal, a slot that is just an argument, and another literal. -/
def around (before argument after : String)
    (isWord : argument.toList.all isWordCharacter = true) : MessageText where
  parts := [.literal before.toList, .slot (.bare ⟨argument.toList, []⟩), .literal after.toList]
  places := by
    intro hole member
    rw [eq_of_mem_around member]
    exact ⟨List.all_eq_true.mp isWord, nofun⟩
  patterns := by
    intro hole member
    rw [eq_of_mem_around member]
    exact nofun

theorem bare_plain (content : String) : (plain content).Bare := by
  intro hole member
  cases List.mem_singleton.mp member

theorem bare_around {before argument after : String}
    {isWord : argument.toList.all isWordCharacter = true}
    (named : (⟨argument.toList, []⟩ : MessagePlace).Named) :
    (around before argument after isWord).Bare :=
  fun _ member => ⟨_, named, rfl, eq_of_mem_around member⟩

end MessageText

/-! ### Wordings -/

/-- The texts that a report is made of. -/
structure Wording where
  message : Option MessageText
  detail : Option MessageText
  suggestion : Option MessageText

namespace Wording

variable {context : Entries}

/-- A template with the wording as it is written. -/
def template (wording : Wording) (code : String) (category : Category) : ReportTemplate :=
  { code := code
    category := category
    message := wording.message.map MessageText.written
    detail := wording.detail.map MessageText.written
    suggestion := wording.suggestion.map MessageText.written }

def texts (wording : Wording) : List MessageText :=
  wording.message.toList ++ (wording.detail.toList ++ wording.suggestion.toList)

/-- The texts to be filled in for a field, which what the context gives takes the place of. -/
def unlessGiven (context : Entries) (name : String) (text : Option MessageText) :
    List MessageText :=
  if (ReportCatalog.given context name).truthy then [] else text.toList

/-- The texts that are filled in, in this order. -/
def consulted (context : Entries) (wording : Wording) : List MessageText :=
  wording.message.toList ++ (unlessGiven context "detail" wording.detail ++
    unlessGiven context "suggestion" wording.suggestion)

/-- A text of the wording in a report. -/
def shown (context : Entries) (text : Option MessageText) : Value :=
  (text.map fun text => .text (text.settled context)).getD .none

/-- What the context gives, or the text of the wording. -/
def chosen (context : Entries) (name : String) (text : Option MessageText) : Value :=
  if (ReportCatalog.given context name).truthy then ReportCatalog.given context name
  else shown context text

/-- The message of a report, which names at least its code. -/
def headline (context : Entries) (code : String) (text : Option MessageText) : String :=
  let message := (text.map fun text => text.settled context).getD ""
  if message = "" then "Error " ++ code else message

/-- The report that the wording stands for. -/
def report (wording : Wording) (code : String) (category : Category) (context : Entries)
    (cause : Option Report) : Report :=
  { code := code
    category := category
    message := headline context code wording.message
    detail := chosen context "detail" wording.detail
    suggestion := chosen context "suggestion" wording.suggestion
    helperName := ReportCatalog.given context "helper_name"
    template := ReportCatalog.given context "template"
    cause := cause }

/-- The trouble of the first text that does not settle. -/
def troubles (context : Entries) (texts : List MessageText) : Outcome Unit :=
  forM texts fun text => text.trouble context

theorem troubles_eq_ok_iff {texts : List MessageText} :
    troubles context texts = .ok () ↔ ∀ text ∈ texts, text.Settles context := by
  unfold troubles
  induction texts with
  | nil => simp [pure, Except.pure]
  | cons text texts inductionHypothesis =>
      rw [List.forM_cons, Outcome.bind_eq_ok_iff, List.forall_mem_cons, inductionHypothesis,
        ← MessageText.trouble_eq_ok_iff]
      exact ⟨fun ⟨_, first, others⟩ => ⟨first, others⟩, fun ⟨first, others⟩ => ⟨_, first, others⟩⟩

theorem fillOptional_written (text : Option MessageText) :
    ReportCatalog.fillOptional context (text.map MessageText.written) = do
      troubles context text.toList
      return shown context text := by
  cases text with
  | none => rfl
  | some text =>
      rw [Option.map_some, ReportCatalog.fillOptional.eq_def]
      dsimp only
      rw [MessageText.fill_written, Option.toList_some, troubles, List.forM_cons]
      cases text.trouble context <;> rfl

theorem messageOf_written (code : String) (text : Option MessageText) :
    ReportCatalog.messageOf context code (text.map MessageText.written) = do
      troubles context text.toList
      return headline context code text := by
  rw [ReportCatalog.messageOf, fillOptional_written]
  cases troubles context text.toList with
  | error failure => rfl
  | ok _ =>
      unfold shown headline
      cases text with
      | none => rfl
      | some text =>
          dsimp only [Option.map_some, Option.getD_some]
          by_cases isEmpty : text.settled context = ""
          · rw [if_pos isEmpty, isEmpty]
            rfl
          · rw [if_neg isEmpty]
            simp only [bind, Except.bind, pure, Except.pure]

theorem givenOr_written (name : String) (text : Option MessageText) :
    ReportCatalog.givenOr context name (text.map MessageText.written) = do
      troubles context (unlessGiven context name text)
      return chosen context name text := by
  rw [ReportCatalog.givenOr, fillOptional_written, unlessGiven, chosen]
  cases (ReportCatalog.given context name).truthy <;> rfl

/-- A report is made once no text has trouble left. -/
theorem create_written {catalog : ReportCatalog} {code : String} {category : Category}
    {wording : Wording} (registered : catalog.find? code = some (wording.template code category))
    (context : Entries) (cause : Option Report) :
    catalog.create code context cause = do
      troubles context (wording.consulted context)
      return wording.report code category context cause := by
  rw [ReportCatalog.create, registered]
  dsimp only [template]
  rw [messageOf_written, givenOr_written, givenOr_written, consulted]
  unfold troubles
  rw [List.forM_append, List.forM_append]
  simp only [bind_assoc, pure_bind]
  rfl

theorem mem_texts_of_mem_consulted {wording : Wording} {text : MessageText}
    (member : text ∈ wording.consulted context) : text ∈ wording.texts := by
  have kept (name : String) (optional : Option MessageText)
      (isKept : text ∈ unlessGiven context name optional) : text ∈ optional.toList := by
    unfold unlessGiven at isKept
    split at isKept
    · cases isKept
    · exact isKept
  rw [consulted, List.mem_append, List.mem_append] at member
  rw [texts, List.mem_append, List.mem_append]
  exact member.imp id (Or.imp (kept "detail" _) (kept "suggestion" _))

end Wording

/-! ### Standard reports -/

namespace ReportTemplate

theorem find?_standard {template : ReportTemplate} (member : template ∈ standard) :
    ReportCatalog.standard.find? template.code = some template := by
  revert template
  decide

theorem bare_texts {message detail suggestion : MessageText} (isMessage : message.Bare)
    (isDetail : detail.Bare) (isSuggestion : suggestion.Bare) :
    ∀ text ∈ (⟨some message, some detail, some suggestion⟩ : Wording).texts, text.Bare := by
  simp only [Wording.texts, Option.toList_some, List.cons_append, List.nil_append,
    List.forall_mem_cons]
  exact ⟨isMessage, isDetail, isSuggestion, nofun⟩

/-- The standard templates refer to nothing but entries of the context. -/
theorem exists_bare_wording {template : ReportTemplate} (member : template ∈ standard) :
    ∃ wording : Wording, (∀ text ∈ wording.texts, text.Bare) ∧
      template = wording.template template.code template.category := by
  have around (before name after : String)
      (isWord : name.toList.all isWordCharacter = true) {head : Char} {rest : List Char}
      (isName : name.toList = head :: rest) (isLetter : head ∈ ['d', 'e', 'h', 'r', 't']) :
      (MessageText.around before name after isWord).Bare := by
    refine MessageText.bare_around ?_
    rw [isName]
    exact MessagePlace.named_of_letter isLetter
  have plain := MessageText.bare_plain
  simp only [standard, List.mem_cons, List.not_mem_nil, or_false] at member
  rcases member with rfl | rfl | rfl | rfl | rfl
  · exact ⟨_, bare_texts (plain "Invalid helper registration")
      (around "" "reason" "" (by decide) rfl (by decide))
      (plain "Use a non-empty identifier-like name and a callable helper function"), rfl⟩
  · exact ⟨_, bare_texts
      (around "Helper '" "helper_name" "' is not registered" (by decide) rfl (by decide))
      (plain "The template called a helper that is missing from the helper set")
      (plain "Register the helper before rendering or fix the template"), rfl⟩
  · exact ⟨_, bare_texts
      (around "Async helper '" "helper_name" "' reported an error" (by decide) rfl (by decide))
      (around "" "error" "" (by decide) rfl (by decide))
      (plain "Check the helper implementation and its arguments"), rfl⟩
  · exact ⟨_, bare_texts (plain "Template expression could not be rendered")
      (around "Expression: " "template" "" (by decide) rfl (by decide))
      (plain "Check the expression syntax and the data passed to render"), rfl⟩
  · exact ⟨_, bare_texts (plain "Configuration is invalid")
      (around "" "detail" "" (by decide) rfl (by decide))
      (plain "Check the configuration file and environment variables"), rfl⟩

/-- The reports that the library itself makes never fail for their wording, if what they are made
from has display texts. -/
theorem create_standard {template : ReportTemplate} (member : template ∈ standard)
    {context : Entries} (displayed : ∀ name value, context.getText? name = some value →
      ∃ content, value.display = .ok content) (cause : Option Report) :
    ∃ report, ReportCatalog.standard.create template.code context cause = .ok report := by
  obtain ⟨wording, bare, same⟩ := exists_bare_wording member
  have found := (find?_standard member).trans (congrArg some same)
  have settles : Wording.troubles context (wording.consulted context) = .ok () :=
    Wording.troubles_eq_ok_iff.mpr fun text consults =>
      (bare text (Wording.mem_texts_of_mem_consulted consults)).settles displayed
  refine ⟨wording.report template.code template.category context cause, ?_⟩
  rw [Wording.create_written found, settles]
  rfl

end ReportTemplate

/-! ### Registered wordings -/

namespace Sample

end Sample

end DeferredText
