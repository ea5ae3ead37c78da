import DeferredText.Format.Message
import DeferredText.Report.Standard

/-!
Contract: reports made from registered templates.

A template whose fields name something the context lacks is left as it is written.
Every other trouble with a template is a failure of its own.

Owns: the catalog of templates by code, and making reports from it.

Does not own: the standard templates (`Report.Standard`).
-/

namespace DeferredText

/-- Templates by code, in the order of their first registration. -/
structure ReportCatalog where
  templates : List ReportTemplate
deriving DecidableEq, Repr

namespace ReportCatalog

def standard : ReportCatalog :=
  ⟨ReportTemplate.standard⟩

def find?
    (catalog : ReportCatalog)
    (code : String) : Option ReportTemplate :=
  catalog.templates.find? fun template => template.code == code

def codes (catalog : ReportCatalog) : List String :=
  catalog.templates.map ReportTemplate.code

/-- Replaces the template of the same code, which keeps its place, or adds it at the end. -/
def put (template : ReportTemplate) : List ReportTemplate → List ReportTemplate
  | [] => [template]
  | first :: rest =>
      if first.code == template.code then template :: rest else first :: put template rest

def register
    (catalog : ReportCatalog)
    (template : ReportTemplate) : ReportCatalog :=
  ⟨put template catalog.templates⟩

/-- Whether a failure says that something was not there. -/
def isMissing : Failure → Bool
  | .raised .missingKey _ => true
  | _ => false

/-- A template filled in, or as it is written if the context lacks something. -/
def fill
    (context : Entries)
    (template : String) : Outcome String :=
  match Format.message context template with
  | .ok message => .ok message
  | .error failure => if isMissing failure then .ok template else .error failure

def fillOptional
    (context : Entries)
    (template : Option String) : Outcome Value :=
  match template with
  | none => .ok .none
  | some content => do return .text (← fill context content)

/-- An entry of the context, absent if there is none. -/
def given
    (context : Entries)
    (name : String) : Value :=
  (context.getText? name).getD .none

/-- What the context gives for a field of the report, or else the template filled in. -/
def givenOr
    (context : Entries)
    (name : String)
    (template : Option String) : Outcome Value :=
  let value := given context name
  if value.truthy then .ok value else fillOptional context template

/-- The message of a report, which is never empty. -/
def messageOf
    (context : Entries)
    (code : String)
    (template : Option String) : Outcome String := do
  match ← fillOptional context template with
  | .text "" => return "Error " ++ code
  | .text message => return message
  | _ => return "Error " ++ code

/-- The report of a code. -/
def create
    (catalog : ReportCatalog)
    (code : String)
    (context : Entries)
    (cause : Option Report) : Outcome Report := do
  match catalog.find? code with
  | none => throw (.badValue ("Unknown error code: " ++ code))
  | some template =>
      let message ← messageOf context code template.message
      let detail ← givenOr context "detail" template.detail
      let suggestion ← givenOr context "suggestion" template.suggestion
      return {
        code := template.code
        category := template.category
        message := message
        detail := detail
        suggestion := suggestion
        helperName := given context "helper_name"
        template := given context "template"
        cause := cause }

/-- A context with further entries, which take precedence. -/
def merged
    (context extra : Entries) : Entries :=
  extra.foldl (fun entries pair => entries.insert pair.1 pair.2) context

/-- An error value as a failure: exceptions are kept, anything else is reported as the
failure of a helper. -/
def ofErrorValue
    (catalog : ReportCatalog)
    (error helperName : Value) : Outcome Failure := do
  match Failure.ofValue? error with
  | some failure => return failure
  | none =>
      let shown ← error.display
      let context : Entries :=
        [(.text "helper_name", helperName), (.text "error", .text shown)]
      return .reported (← catalog.create ReportTemplate.helperFailed.code context none)

end ReportCatalog

end DeferredText
