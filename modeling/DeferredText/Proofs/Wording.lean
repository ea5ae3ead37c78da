import DeferredText.Report.Catalog
import DeferredText.Resolve.Schedule

/-!
Contract: how an error value of a helper becomes a failure.

An exception is kept. Any other value is reported: its text is filled in where the template
has its field, and what is filled in is not read as a template again, so braces in it and in
the name of the helper stay as they are.

Owns: the report about an error value, and that a completion stands for it.

Does not own: which completion reaches a promise first (`Proofs.Started`).
-/

namespace DeferredText

/-- A table read from the characters of its text. -/
theorem CodeTable.ofText_ofList (characters : List Char) :
    CodeTable.ofText (String.ofList characters) =
      ((CodeTable.splitAt ' ' (characters.map fun character =>
        if character = '\n' then ' ' else character)).filter fun word => !word.isEmpty).map
          CodeTable.readRun := by
  rw [CodeTable.ofText, CodeTable.words, String.toList_ofList]

set_option maxRecDepth 4000 in
theorem decimalValue?_letters : ∀ letter ∈ ['d', 'e', 'h', 'r', 't'],
    decimalValue? letter = none := by
  have letters : (['d', 'e', 'h', 'r', 't'].all fun letter => decimalValue? letter == none) =
      true := by
    unfold decimalValue?
    rw [show digitTable = _ from CodeTable.ofText_ofList _]
    decide +kernel
  exact fun letter member => beq_iff_eq.mp (List.all_eq_true.mp letters letter member)

theorem Accessor.position?_of_letter {head : Char} {rest : List Char}
    (isLetter : decimalValue? head = none) : Accessor.position? (head :: rest) = some none := by
  rw [Accessor.position?, List.takeWhile_cons_of_neg (by simp [isLetter])]
  simp [Accessor.positionLimit]

namespace ReportCatalog

/-- What the report about an error value is made from. -/
def blame (name shown : String) : Entries :=
  [(.text "helper_name", .text name), (.text "error", .text shown)]

variable {name shown key content : String}

theorem getText_blame_name : (blame name shown).getText? "helper_name" = some (.text name) := by
  simp [Entries.getText?, Entries.get?, blame, Value.same]

theorem getText_blame_error : (blame name shown).getText? "error" = some (.text shown) := by
  simp [Entries.getText?, Entries.get?, blame, Value.same]

theorem given_blame_other (isOther : key ≠ "helper_name" ∧ key ≠ "error") :
    given (blame name shown) key = .none := by
  simp [given, Entries.getText?, Entries.get?, blame, Value.same, isOther]

/-- A field that is just a name is filled in with the text of the entry of that name, whatever
that text is. -/
theorem fillPiece_named {context : Entries} {expand : List Char → Outcome (List Char)}
    (given : context.getText? key = some (.text content))
    (whole : (Field.simple key.toList none).path = (key.toList, []))
    (isName : Accessor.position? key.toList = some none) (nonempty : key.toList.isEmpty = false) :
    Format.fillPiece expand context (.field (Field.simple key.toList none)) =
      .ok content.toList := by
  have found : Format.lookUp context (Field.simple key.toList none) = .ok (.text content) := by
    have entry : Format.entry context (.text key) = .ok (.text content) := by
      rw [Format.entry, show context.get? (.text key) = _ from given]
    rw [Format.lookUp, whole]
    dsimp only
    rw [isName]
    dsimp only
    rw [nonempty, String.ofList_toList, entry]
    rfl
  rw [Format.fillPiece, found]
  rfl

/-- A template with one such field between literal text. -/
theorem fill_around {context : Entries} {template : String} {before after : List Char}
    (cuts : Piece.cut template.toList =
      [.literal before, .field (Field.simple key.toList none), .literal after])
    (given : context.getText? key = some (.text content))
    (whole : (Field.simple key.toList none).path = (key.toList, []))
    (isName : Accessor.position? key.toList = some none) (nonempty : key.toList.isEmpty = false) :
    fill context template = .ok (String.ofList (before ++ (content.toList ++ after))) := by
  have fills : Format.message context template =
      .ok (String.ofList (before ++ (content.toList ++ after))) := by
    rw [Format.message, Format.fillWithin, cuts]
    simp only [Format.fillPieces]
    rw [fillPiece_named given whole isName nonempty]
    simp [Format.fillPiece, bind, Except.bind, pure, Except.pure]
  rw [fill, fills]

theorem fill_literal {context : Entries} {template : String}
    (cuts : Piece.cut template.toList = [.literal template.toList]) :
    fill context template = .ok template := by
  have fills : Format.message context template = .ok template := by
    rw [Format.message, Format.fillWithin, cuts]
    simp [Format.fillPieces, Format.fillPiece, bind, Except.bind, pure, Except.pure]
  rw [fill, fills]

theorem path_name : (Field.simple "helper_name".toList none).path = ("helper_name".toList, []) := by
  rfl

theorem position_name : Accessor.position? "helper_name".toList = some none :=
  Accessor.position?_of_letter (decimalValue?_letters 'h' (by decide))

theorem path_error : (Field.simple "error".toList none).path = ("error".toList, []) := by
  rfl

theorem position_error : Accessor.position? "error".toList = some none :=
  Accessor.position?_of_letter (decimalValue?_letters 'e' (by decide))

theorem cut_message : Piece.cut "Async helper '\x7bhelper_name\x7d' reported an error".toList =
    [.literal "Async helper '".toList, .field (Field.simple "helper_name".toList none),
      .literal "' reported an error".toList] := by rfl

theorem cut_detail : Piece.cut "\x7berror\x7d".toList =
    [.literal [], .field (Field.simple "error".toList none), .literal []] := by rfl

theorem cut_suggestion : Piece.cut "Check the helper implementation and its arguments".toList =
    [.literal "Check the helper implementation and its arguments".toList] := by rfl

theorem fillOptional_some {context : Entries} {template filled : String}
    (fills : fill context template = .ok filled) :
    fillOptional context (some template) = .ok (.text filled) := by
  rw [fillOptional.eq_def]
  dsimp only
  rw [fills]
  rfl

theorem messageOf_some {context : Entries} {code template filled : String}
    (fills : fill context template = .ok filled) (nonempty : filled ≠ "") :
    messageOf context code (some template) = .ok filled := by
  rw [messageOf, fillOptional_some fills]
  simp only [bind, Except.bind]
  rfl

theorem create_blame : standard.create ReportTemplate.helperFailed.code (blame name shown) none =
    .ok (.helperFailed name shown) := by
  have found : standard.find? ReportTemplate.helperFailed.code = some .helperFailed := by
    rfl
  have message : messageOf (blame name shown) ReportTemplate.helperFailed.code
      ReportTemplate.helperFailed.message =
        .ok ("Async helper '" ++ name ++ "' reported an error") := by
    have fills := fill_around cut_message (@getText_blame_name name shown) path_name position_name
      rfl
    rw [String.ofList_append, String.ofList_append, String.ofList_toList, String.ofList_toList,
      String.ofList_toList, ← String.append_assoc] at fills
    refine messageOf_some fills fun isEmpty => ?_
    have lengths := congrArg String.length isEmpty
    simp at lengths
  have detail : givenOr (blame name shown) "detail" ReportTemplate.helperFailed.detail =
      .ok (.text shown) := by
    have fills := fill_around cut_detail (@getText_blame_error name shown) path_error
      position_error rfl
    rw [List.nil_append, List.append_nil, String.ofList_toList] at fills
    rw [givenOr, given_blame_other (by decide)]
    exact fillOptional_some fills
  have suggestion : givenOr (blame name shown) "suggestion"
      ReportTemplate.helperFailed.suggestion =
        .ok (.text "Check the helper implementation and its arguments") := by
    rw [givenOr, given_blame_other (by decide)]
    exact fillOptional_some (fill_literal cut_suggestion)
  have isName : given (blame name shown) "helper_name" = .text name := by
    rw [given, getText_blame_name]
    rfl
  have isTemplate : given (blame name shown) "template" = .none := given_blame_other (by decide)
  rw [create, found]
  dsimp only
  rw [message, detail, suggestion, isName, isTemplate]
  rfl

/-- A value that is no exception is reported by what the catalog makes of its text. -/
theorem ofErrorValue_reported {catalog : ReportCatalog} {value : Value} {report : Report}
    (isOther : Failure.ofValue? value = none) (shows : value.display = .ok shown)
    (creates : catalog.create ReportTemplate.helperFailed.code (blame name shown) none =
      .ok report) :
    catalog.ofErrorValue value (.text name) = .ok (.reported report) := by
  rw [blame] at creates
  simp only [ofErrorValue, isOther, shows, creates, bind, Except.bind, pure, Except.pure]

/-- The report about an error value that is no exception names the helper and shows the text of
the value as it is. -/
theorem ofErrorValue_other {value : Value} (isOther : Failure.ofValue? value = none)
    (shows : value.display = .ok shown) :
    standard.ofErrorValue value (.text name) = .ok (.reported (.helperFailed name shown)) :=
  ofErrorValue_reported isOther shows create_blame

theorem ofErrorValue_cases {value : Value} {failure : Failure}
    (isOther : Failure.ofValue? value = none)
    (makes : standard.ofErrorValue value (.text name) = .ok failure) :
    ∃ shown, value.display = .ok shown ∧ failure = .reported (.helperFailed name shown) := by
  cases shows : value.display with
  | error trouble =>
      rw [ofErrorValue, isOther] at makes
      dsimp only at makes
      rw [shows] at makes
      simp only [bind, Except.bind, reduceCtorEq] at makes
  | ok shown =>
      rw [ofErrorValue_other isOther shows] at makes
      exact ⟨shown, rfl, (Except.ok.inj makes).symm⟩

end ReportCatalog

/-- How a helper fails. -/
inductive Mishap where
  /-- It raises or reports an exception. -/
  | exception (failure : Failure)
  /-- It reports a value that is no exception. -/
  | complaint (helper : String) (value : Value)

/-- What comes of a mishap: an exception stays what it is, and a value becomes what the
standard catalog makes of it. -/
inductive Mishap.Becomes : Mishap → Failure → Prop where
  | kept (failure : Failure) : Becomes (.exception failure) failure
  | blamed {helper : String} {value : Value} {failure : Failure}
      (isOther : Failure.ofValue? value = none)
      (makes : ReportCatalog.standard.ofErrorValue value (.text helper) = .ok failure) :
      Becomes (.complaint helper value) failure

/-- The mishap that a completion tells of, if it is no result. -/
def Completion.mishap?
    (helper : String) : Completion → Option Mishap
  | .result _ => none
  | .failure cause => some (.exception cause)
  | .error value => some (((Failure.ofValue? value).map .exception).getD (.complaint helper value))

theorem Completion.outcome_mishap {helper : String} {completion : Completion} {mishap : Mishap}
    {failure : Failure} (tells : completion.mishap? helper = some mishap)
    (becomes : mishap.Becomes failure) :
    completion.outcome helper = .ok (.error failure) := by
  cases completion with
  | result value => cases tells
  | failure cause =>
      cases tells
      cases becomes
      rfl
  | error value =>
      rw [Completion.outcome]
      cases isException : Failure.ofValue? value with
      | some cause =>
          rw [Completion.mishap?, isException] at tells
          cases tells
          cases becomes
          rfl
      | none =>
          rw [Completion.mishap?, isException] at tells
          cases tells
          cases becomes with
          | blamed isOther makes =>
              obtain ⟨shown, shows, rfl⟩ := ReportCatalog.ofErrorValue_cases isOther makes
              dsimp only
              rw [shows]
              rfl

end DeferredText
