import DeferredText.Text.Search
import DeferredText.Value.Text

/-!
Contract: reaching into values by key, position or attribute.

Owns: subscripts of sequences, public attributes of each type, membership and
lookup of a name in template data.

Does not own: what an undefined access means to a template (`Template.Evaluate`).
-/

namespace DeferredText

namespace Value

/-- The item at a position; a negative one counts from the end. -/
def itemAt?
    (items : List α)
    (position : Int) : Option α :=
  let index := if position < 0 then position + items.length else position
  if index < 0 then Option.none else items[index.toNat]?

def textMethods : List String :=
  ["capitalize", "casefold", "center", "count", "encode", "endswith", "expandtabs", "find",
    "format", "format_map", "index", "isalnum", "isalpha", "isascii", "isdecimal", "isdigit",
    "isidentifier", "islower", "isnumeric", "isprintable", "isspace", "istitle", "isupper",
    "join", "ljust", "lower", "lstrip", "maketrans", "partition", "removeprefix",
    "removesuffix", "replace", "rfind", "rindex", "rjust", "rpartition", "rsplit", "rstrip",
    "split", "splitlines", "startswith", "strip", "swapcase", "title", "translate", "upper",
    "zfill"]

def bytesMethods : List String :=
  ["capitalize", "center", "count", "decode", "endswith", "expandtabs", "find", "fromhex",
    "hex", "index", "isalnum", "isalpha", "isascii", "isdigit", "islower", "isspace",
    "istitle", "isupper", "join", "ljust", "lower", "lstrip", "maketrans", "partition",
    "removeprefix", "removesuffix", "replace", "rfind", "rindex", "rjust", "rpartition",
    "rsplit", "rstrip", "split", "splitlines", "startswith", "strip", "swapcase", "title",
    "translate", "upper", "zfill"]

def integerMethods : List String :=
  ["as_integer_ratio", "bit_count", "bit_length", "conjugate", "from_bytes", "to_bytes"]

def listMethods : List String :=
  ["append", "clear", "copy", "count", "extend", "index", "insert", "pop", "remove",
    "reverse", "sort"]

/-- Names of the methods of a value; a method can be reached but not called. -/
def methods : Value → List String
  | .bool _ => integerMethods
  | .int _ => integerMethods
  | .float _ => ["as_integer_ratio", "conjugate", "fromhex", "hex", "is_integer"]
  | .complex _ _ => ["conjugate"]
  | .text _ => textMethods
  | .bytes _ => bytesMethods
  | .list _ => listMethods
  | .tuple _ => ["count", "index"]
  | .exception _ _ => ["add_note", "with_traceback"]
  | _ => []

/-- Parts of an integer seen as a fraction and as a complex number. -/
def integerPart?
    (number : Int)
    (name : String) : Option Value :=
  if name == "real" || name == "numerator" then some (.int number)
  else if name == "imag" then some (.int 0)
  else if name == "denominator" then some (.int 1)
  else Option.none

def exceptionPart?
    (kind : ErrorKind)
    (arguments : List Value)
    (name : String) : Option Value :=
  if name == "args" then some (.tuple (arguments.take (keptCount kind arguments)))
  else
    match kind with
    | .system _ =>
        let details := (systemDetails? arguments).getD ⟨.none, .none, .none, .none⟩
        if name == "errno" then some details.number
        else if name == "strerror" then some details.reason
        else if name == "filename" then some details.file
        else if name == "filename2" then some details.secondFile
        else Option.none
    | .missingAttribute => if name == "name" || name == "obj" then some .none else Option.none
    | _ => Option.none

/-- Attributes that are data rather than methods. -/
def field?
    (value : Value)
    (name : String) : Option Value :=
  match value with
  | .bool truth => integerPart? (if truth then 1 else 0) name
  | .int number => integerPart? number name
  | .float datum =>
      if name == "real" then some (.float datum)
      else if name == "imag" then some (.float (.zero false))
      else Option.none
  | .complex realPart imaginaryPart =>
      if name == "real" then some (.float realPart)
      else if name == "imag" then some (.float imaginaryPart)
      else Option.none
  | .object _ attributes =>
      ((attributes.reverse.find? fun pair => pair.1 == name).map Prod.snd)
  | .exception kind arguments => exceptionPart? kind arguments name
  | _ => Option.none

/-- A public attribute; names that start with an underscore are private. -/
def attribute?
    (value : Value)
    (name : String) : Option Value :=
  if startsWithText "_" name then Option.none
  else
    match value.field? name with
    | some field => some field
    | Option.none =>
        if value.methods.contains name then some (.opaqueOf "builtin_function_or_method")
        else Option.none

/-- The items of a sequence, a text being a sequence of one-character texts. -/
def sequence? : Value → Option (List Value)
  | .list items => some items
  | .tuple items => some items
  | .text content =>
      some (content.toList.map fun character => .text (String.singleton character))
  | _ => Option.none

/-- What `base` holds at `key`: a mapping is asked for the key, a sequence for a
position, and anything else for a public attribute. -/
def access?
    (base key : Value) : Outcome (Option Value) :=
  match base with
  | .dict entries =>
      match key.unhashable? with
      | some name => .error (.unhashable name)
      | Option.none => .ok (Entries.get? entries key)
  | _ =>
      match base.sequence?, key.int? with
      | some items, some position => .ok (itemAt? items position)
      | _, _ =>
          match key.text? with
          | some name => .ok (base.attribute? name)
          | Option.none => .ok Option.none

/-- Whether template data binds a name. -/
def bindsName
    (data : Value)
    (name : String) : Outcome Bool :=
  match data with
  | .dict entries => .ok (Entries.getText? entries name).isSome
  | .list items => .ok (items.any fun item => same (.text name) item)
  | .tuple items => .ok (items.any fun item => same (.text name) item)
  | .text content => .ok (containsText name content)
  | .bytes _ => .error (.wrongType "a bytes-like object is required, not 'str'")
  | other =>
      let described := other.typeName
      .error (.wrongType s!"argument of type '{described}' is not iterable")

/-- The value template data binds to a name it is known to hold. -/
def boundTo
    (data : Value)
    (name : String) : Outcome Value :=
  match data with
  | .dict entries =>
      match Entries.getText? entries name with
      | some value => .ok value
      | Option.none => .error (.raised .missingKey [.text name])
  | .text _ => .error (.wrongType "string indices must be integers, not 'str'")
  | other =>
      let described := other.typeName
      .error (.wrongType s!"{described} indices must be integers or slices, not str")

end Value

end DeferredText
