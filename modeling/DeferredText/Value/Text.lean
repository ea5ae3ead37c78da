import DeferredText.Failure
import DeferredText.Number.Layout
import DeferredText.Text.Quoted

/-!
Contract: the text of values, as inserted into rendered text and as quoted inside
other values.

Owns: `Value.display`, `Value.quoted`, and the messages of failures.

Does not own: record lines (`Value.Json`) and format specifications (`Format.Specification`).
-/

namespace DeferredText

/-- Longest integer that is written out, in digits. -/
def digitBound : Nat := 4300

/-- Decimal text of an integer within the digit bound. -/
def integerText (number : Int) : Outcome String :=
  let digits := Nat.toDigits 10 number.natAbs
  if digitBound < digits.length then .error .digitLimit
  else .ok (String.ofList (if number < 0 then '-' :: digits else digits))

/-- Class of a system error by its number, where there is a narrower one. -/
def systemVariant? (number : Int) : Option String :=
  match number with
  | 1 => some "PermissionError"
  | 2 => some "FileNotFoundError"
  | 3 => some "ProcessLookupError"
  | 4 => some "InterruptedError"
  | 10 => some "ChildProcessError"
  | 11 => some "BlockingIOError"
  | 13 => some "PermissionError"
  | 17 => some "FileExistsError"
  | 20 => some "NotADirectoryError"
  | 21 => some "IsADirectoryError"
  | 32 => some "BrokenPipeError"
  | 103 => some "ConnectionAbortedError"
  | 104 => some "ConnectionResetError"
  | 108 => some "BrokenPipeError"
  | 110 => some "TimeoutError"
  | 111 => some "ConnectionRefusedError"
  | 114 => some "BlockingIOError"
  | 115 => some "BlockingIOError"
  | _ => none

/-- The parts of a system error given two to five arguments. -/
structure SystemDetails where
  number : Value
  reason : Value
  file : Value
  secondFile : Value

def systemDetails? (arguments : List Value) : Option SystemDetails :=
  match arguments with
  | [number, reason] => some ⟨number, reason, .none, .none⟩
  | [number, reason, file] => some ⟨number, reason, file, .none⟩
  | [number, reason, file, _] => some ⟨number, reason, file, .none⟩
  | [number, reason, file, _, secondFile] => some ⟨number, reason, file, secondFile⟩
  | _ => none

/-- How many arguments an exception keeps: a system error with a file keeps two. -/
def keptCount
    (kind : ErrorKind)
    (arguments : List Value) : Nat :=
  match kind, systemDetails? arguments with
  | .system _, some details => if details.file.isNone then arguments.length else 2
  | _, _ => arguments.length

/-- The kind of a system error made with the given arguments. -/
def systemKind (arguments : List Value) : ErrorKind :=
  let narrower := (systemDetails? arguments).bind fun details =>
    details.number.int?.bind systemVariant?
  .system (narrower.getD "OSError")

namespace Value

def truthText (truth : Bool) : String :=
  if truth then "True" else "False"

/-- Items between brackets; a tuple of one item keeps a comma. -/
def bracketed
    (opening : String)
    (closing : String)
    (items : List String) : String :=
  opening ++ ", ".intercalate items ++ closing

def tupleText (items : List String) : String :=
  match items with
  | [item] => "(" ++ item ++ ",)"
  | _ => bracketed "(" ")" items

/-- An exception by its name and arguments. -/
def exceptionText
    (kind : ErrorKind)
    (arguments : List String) : String :=
  kind.name ++ bracketed "(" ")" arguments

mutual

/-- The value as written inside another value. -/
def quoted : Value → Outcome String
  | .none => .ok "None"
  | .bool truth => .ok (truthText truth)
  | .int number => integerText number
  | .float datum => .ok (NumberLayout.plain.text datum)
  | .complex realPart imaginaryPart => .ok (Binary64.complexText realPart imaginaryPart)
  | .text content => .ok (quotedText content)
  | .bytes content => .ok (quotedBytes content)
  | .ellipsis => .ok "Ellipsis"
  | .list items => do return bracketed "[" "]" (← quotedItems items)
  | .tuple items => do return tupleText (← quotedItems items)
  | .dict entries => do return bracketed "\x7b" "\x7d" (← quotedEntries entries)
  | .object _ _ => .ok "<obj>"
  | .exception kind arguments => do
      return exceptionText kind ((← quotedItems arguments).take (keptCount kind arguments))
  | .opaqueOf name => .ok ("<" ++ name ++ ">")

def quotedItems : List Value → Outcome (List String)
  | [] => .ok []
  | item :: rest => do
      let first ← quoted item
      return first :: (← quotedItems rest)

def quotedEntries : List (Value × Value) → Outcome (List String)
  | [] => .ok []
  | (key, value) :: rest => do
      let first ← quoted key
      let second ← quoted value
      return (first ++ ": " ++ second) :: (← quotedEntries rest)

end

end Value

mutual

/-- The value as inserted into text. -/
def Value.display (value : Value) : Outcome String :=
  match value with
  | .text content => .ok content
  | .exception kind arguments => exceptionMessage kind arguments
  | other => other.quoted

/-- The message of an exception: its only argument, or all of them as a tuple. -/
def exceptionMessage
    (kind : ErrorKind)
    (arguments : List Value) : Outcome String :=
  match kind, arguments with
  | .missingKey, [argument] => argument.quoted
  | _, [] => .ok ""
  | _, [argument] => argument.display
  | .system _, arguments =>
      match systemDetails? arguments with
      | some details => do
          let described :=
            "[Errno " ++ (← textOrQuoted details.number) ++ "] " ++ (← textOrQuoted details.reason)
          if details.file.isNone then return described
          else if details.secondFile.isNone then
            return described ++ ": " ++ (← details.file.quoted)
          else
            return described ++ ": " ++ (← details.file.quoted) ++ " -> " ++
              (← details.secondFile.quoted)
      | none => do return Value.tupleText (← Value.quotedItems arguments)
  | _, arguments => do return Value.tupleText (← Value.quotedItems arguments)
where
  textOrQuoted (value : Value) : Outcome String :=
    match value with
    | .text content => .ok content
    | other => other.quoted

end

namespace Report

/-- The message, followed by the detail unless that is empty. -/
def text (report : Report) : Outcome String :=
  if report.detail.truthy then do
    return report.message ++ ": " ++ (← report.detail.display)
  else .ok report.message

end Report

namespace Failure

/-- What the failure says, as inserted into text. -/
def message : Failure → Outcome String
  | .raised kind arguments => exceptionMessage kind arguments
  | .reported report => report.text

end Failure

end DeferredText
