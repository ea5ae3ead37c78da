import DeferredText.Failure

/-!
Contract: the reports that the library itself makes.

Owns: their codes, categories and wording, and a constructor for each.

Does not own: reports made from registered templates (`Report.Catalog`).
-/

namespace DeferredText

/-- How the text of a report is made: each field may hold replacement fields. -/
structure ReportTemplate where
  code : String
  category : Category
  message : Option String
  detail : Option String
  suggestion : Option String
deriving DecidableEq, Repr

namespace ReportTemplate

def invalidArgument : ReportTemplate :=
  { code := "INVALID_ARGUMENT"
    category := .registration
    message := some "Invalid helper registration"
    detail := some "\x7breason\x7d"
    suggestion :=
      some "Use a non-empty identifier-like name and a callable helper function" }

def helperNotFound : ReportTemplate :=
  { code := "HELPER_NOT_FOUND"
    category := .helper
    message := some "Helper '\x7bhelper_name\x7d' is not registered"
    detail := some "The template called a helper that is missing from the helper set"
    suggestion := some "Register the helper before rendering or fix the template" }

def helperFailed : ReportTemplate :=
  { code := "HELPER_FAILED"
    category := .helper
    message := some "Async helper '\x7bhelper_name\x7d' reported an error"
    detail := some "\x7berror\x7d"
    suggestion := some "Check the helper implementation and its arguments" }

def templateError : ReportTemplate :=
  { code := "TEMPLATE_ERROR"
    category := .template
    message := some "Template expression could not be rendered"
    detail := some "Expression: \x7btemplate\x7d"
    suggestion := some "Check the expression syntax and the data passed to render" }

def configInvalid : ReportTemplate :=
  { code := "CONFIG_INVALID"
    category := .system
    message := some "Configuration is invalid"
    detail := some "\x7bdetail\x7d"
    suggestion := some "Check the configuration file and environment variables" }

def standard : List ReportTemplate :=
  [invalidArgument, helperNotFound, helperFailed, templateError, configInvalid]

end ReportTemplate

namespace Report

/-- A report with the category and suggestion of its template. -/
private def ofStandard
    (template : ReportTemplate)
    (message detail : String)
    (helperName expression : Value) : Report :=
  { code := template.code
    category := template.category
    message := message
    detail := .text detail
    suggestion := .text (template.suggestion.getD "")
    helperName := helperName
    template := expression
    cause := none }

def invalidArgument
    (reason : String)
    (helperName : Value) : Report :=
  ofStandard .invalidArgument "Invalid helper registration" reason helperName .none

/-- A call of a helper that is not there; `helperName` is absent when the called
expression spells no name. -/
def helperNotFound
    (helperName : Option String)
    (expression : String) : Report :=
  ofStandard .helperNotFound ("Helper '" ++ helperName.getD "None" ++ "' is not registered")
    "The template called a helper that is missing from the helper set"
    ((helperName.map Value.text).getD .none) (.text expression)

def helperFailed (helperName error : String) : Report :=
  ofStandard .helperFailed ("Async helper '" ++ helperName ++ "' reported an error") error
    (.text helperName) .none

def templateError (detail expression : String) : Report :=
  ofStandard .templateError "Template expression could not be rendered" detail .none
    (.text expression)

def configInvalid (detail : String) : Report :=
  ofStandard .configInvalid "Configuration is invalid" detail .none .none

end Report

end DeferredText
