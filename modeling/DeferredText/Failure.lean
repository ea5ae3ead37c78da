import DeferredText.Value.Basic

/-!
Contract: what goes wrong, as data.

A failure is an exception of some kind, or a structured report with a code.

Owns: report fields, the failure type, and the failures that several parts raise.

Does not own: the templates reports are built from (`Report.Catalog`) and the text
of a failure (`Value.Text`).
-/

namespace DeferredText

/-- Which part of the system a report is about. -/
inductive Category where
  | registration
  | helper
  | template
  | system
deriving DecidableEq, Repr

namespace Category

def name : Category → String
  | .registration => "REGISTRATION"
  | .helper => "HELPER"
  | .template => "TEMPLATE"
  | .system => "SYSTEM"

def all : List Category :=
  [.registration, .helper, .template, .system]

def ofName? (name : String) : Option Category :=
  all.find? fun category => category.name == name

end Category

/-- A structured error. Fields that come from a context may hold any value. -/
structure Report where
  code : String
  category : Category
  message : String
  detail : Value
  suggestion : Value
  helperName : Value
  template : Value
  cause : Option Report
deriving Repr

/-- Names the offending expression, unless one is named already. -/
def Report.withTemplate
    (report : Report)
    (expression : String) : Report :=
  { report with
    template := if report.template.isNone then .text expression else report.template }

inductive Failure where
  | raised (kind : ErrorKind) (arguments : List Value)
  | reported (report : Report)
deriving Repr

abbrev Outcome := Except Failure

namespace Outcome

/-- A sequence of two steps gives a result exactly if both do. -/
theorem bind_eq_ok_iff {α β : Type} {outcome : Outcome α} {next : α → Outcome β} {result : β} :
    (outcome >>= next) = .ok result ↔ ∃ value, outcome = .ok value ∧ next value = .ok result := by
  cases outcome with
  | error failure =>
      constructor
      · intro same
        cases same
      · rintro ⟨value, same, -⟩
        cases same
  | ok value =>
      constructor
      · exact fun same => ⟨value, rfl, same⟩
      · rintro ⟨other, same, continues⟩
        cases same
        exact continues

/-- It fails as the first step does, or else as the second one. -/
theorem bind_eq_error_iff {α β : Type} {outcome : Outcome α} {next : α → Outcome β}
    {failure : Failure} : (outcome >>= next) = .error failure ↔
      outcome = .error failure ∨ ∃ value, outcome = .ok value ∧ next value = .error failure := by
  cases outcome with
  | error trouble => simp [bind, Except.bind]
  | ok value => simp [bind, Except.bind]

end Outcome

namespace Failure

def kindName : Failure → String
  | .raised kind _ => kind.name
  | .reported _ => "HelperCacheError"

def withMessage
    (kind : ErrorKind)
    (message : String) : Failure :=
  .raised kind [.text message]

def wrongType (message : String) : Failure :=
  withMessage .wrongType message

def badValue (message : String) : Failure :=
  withMessage .badValue message

/-- An integer with more digits than are ever written out. -/
def digitLimit : Failure :=
  badValue
    "Exceeds the limit (4300 digits) for integer string conversion; use sys.set_int_max_str_digits() to increase the limit"

def unhashable (typeName : String) : Failure :=
  wrongType s!"unhashable type: '{typeName}'"

/-- An exception value as a failure, if the value is one. -/
def ofValue? : Value → Option Failure
  | .exception kind arguments => some (.raised kind arguments)
  | _ => none

end Failure

end DeferredText
