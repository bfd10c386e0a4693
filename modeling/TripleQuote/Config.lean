import TripleQuote.Bindings
import TripleQuote.Expr.Method
import TripleQuote.Template.Segment
import TripleQuote.Text.Utf8

/-! # Configurations

A configuration fixes the quote of a template, the methods that its expressions may call, and
default bindings. It is read from a map; whatever does not fit is reported, all at once and in
the order of the fields (`Config.ofValue`). -/

namespace TripleQuote

structure Config where
  /-- The quote that a template must use. -/
  quote : Option Quote
  /-- The methods that expressions may call. -/
  methods : List Method
  vars : Bindings
deriving Repr

namespace Config

/-- Any quote, all methods, no bindings. -/
def default : Config := ⟨none, Method.all, .empty⟩

/-- A step on the way from a configuration to the part of it that an issue is about. -/
inductive Place where
  | field (name : Text)
  | index (n : Int)
deriving DecidableEq, Repr

inductive Issue where
  | notMap
  | quote
  | methodsNotList
  | methodNotText (index : Nat)
  /-- An item of the methods that is a byte string and no UTF-8. -/
  | methodNotUtf8 (index : Nat)
  | unknownMethods (names : List Text)
  | varsNotMap
  | varNotText (key : Value)
  /-- A key of the bindings that is a byte string and no UTF-8. -/
  | varNotUtf8 (key : Value)
  | unknownField (name : Text)
  | fieldNotText (key : Value)
deriving Repr

/-- How a key that is no text appears in the place of an issue: as a number only if it is one of
64 bits. -/
def keyPlace (key : Value) : Place :=
  match key.asInt?, key with
  | some n, _ =>
    if -0x8000000000000000 ≤ n && n < 0x8000000000000000 then .index n
    else .field (Text.ofInt n)
  | none, .text t => .field t
  | none, v => .field v.shown

namespace Issue

/-- The part that an issue is about. -/
def place : Issue → List Place
  | notMap => []
  | quote => [.field "quote"]
  | methodsNotList => [.field "methods"]
  | methodNotText i | methodNotUtf8 i => [.field "methods", .index i]
  | unknownMethods _ => [.field "methods"]
  | varsNotMap => [.field "vars"]
  | varNotText key | varNotUtf8 key => [.field "vars", keyPlace key, .field "[key]"]
  | unknownField name => [.field name]
  | fieldNotText key => [keyPlace key]

def kind : Issue → Text
  | notMap => "model_type"
  | quote => "literal_error"
  | methodsNotList => "list_type"
  | methodNotText _ => "string_type"
  | methodNotUtf8 _ => "string_unicode"
  | unknownMethods _ => "value_error"
  | varsNotMap => "dict_type"
  | varNotText _ => "string_type"
  | varNotUtf8 _ => "string_unicode"
  | unknownField _ => "extra_forbidden"
  | fieldNotText _ => "invalid_key"

def message : Issue → Text
  | notMap => "Input should be a valid dictionary or instance of TqsConfig"
  | quote => "Input should be \"'\" or '\"'"
  | methodsNotList => "Input should be a valid list"
  | methodNotText _ => "Input should be a valid string"
  | methodNotUtf8 _ =>
    "Input should be a valid string, unable to parse raw data as a unicode string"
  | unknownMethods names => "Value error, " ++ Method.unknownMessage names
  | varsNotMap => "Input should be a valid dictionary"
  | varNotText _ => "Input should be a valid string"
  | varNotUtf8 _ =>
    "Input should be a valid string, unable to parse raw data as a unicode string"
  | unknownField _ => "Extra inputs are not permitted"
  | fieldNotText _ => "Keys should be strings"

end Issue

/-- The quote of a field that may be missing or null. -/
def readQuote : Option Value → Except (List Issue) (Option Quote)
  | none | some .null => .ok none
  | some (.text t) => match Quote.ofText? t with
    | some q => .ok (some q)
    | none => .error [.quote]
  | some _ => .error [.quote]

/-- A value as a text. A byte string is as good as the text that it is in UTF-8. -/
def readText (notText notUtf8 : Issue) : Value → Except Issue Text
  | .text t => .ok t
  | .bytes b => (Utf8.decode b).mapError fun _ => notUtf8
  | _ => .error notText

/-- All results, or else all issues. -/
def collect {α : Type} : List (Except Issue α) → Except (List Issue) (List α)
  | [] => .ok []
  | result :: results =>
    match result, collect results with
    | .ok x, .ok xs => .ok (x :: xs)
    | .ok _, .error issues => .error issues
    | .error issue, .ok _ => .error [issue]
    | .error issue, .error issues => .error (issue :: issues)

/-- The methods of a field that may be missing. A tuple of names is as good as a list. -/
def readMethods : Option Value → Except (List Issue) (List Method)
  | none => .ok Method.all
  | some (.list items) | some (.tuple items) => do
    let names ← collect <| items.mapIdx fun i item =>
      readText (.methodNotText i) (.methodNotUtf8 i) item
    match Method.ofNames names with
    | .ok methods => .ok methods
    | .error unknown => .error [.unknownMethods unknown]
  | some _ => .error [.methodsNotList]

/-- The default bindings of a field that may be missing. -/
def readVars : Option Value → Except (List Issue) Bindings
  | none => .ok .empty
  | some (.map entries) => do
    let named ← collect <| entries.map fun (key, value) =>
      (readText (.varNotText key) (.varNotUtf8 key) key).map fun name => (name, value)
    return Bindings.ofList named
  | some _ => .error [.varsNotMap]

def fieldNames : List Text := ["quote", "methods", "vars"]

/-- An issue for each key that is no field. -/
def fieldIssues (entries : List (Value × Value)) : List Issue :=
  entries.filterMap fun entry =>
    match entry.1 with
    | .text name => if fieldNames.contains name then none else some (.unknownField name)
    | key => some (.fieldNotText key)

/-- The issues of a part that could not be read. -/
def issuesOf {α : Type} : Except (List Issue) α → List Issue
  | .ok _ => []
  | .error issues => issues

/-- The configuration that a map holds, or everything that is wrong with it. -/
def ofValue : Value → Except (List Issue) Config
  | .map entries =>
    let quote := readQuote (Value.entry? "quote" entries)
    let methods := readMethods (Value.entry? "methods" entries)
    let vars := readVars (Value.entry? "vars" entries)
    match quote, methods, vars, fieldIssues entries with
    | .ok q, .ok ms, .ok vs, [] => .ok ⟨q, ms, vs⟩
    | _, _, _, others => .error (issuesOf quote ++ issuesOf methods ++ issuesOf vars ++ others)
  | _ => .error [.notMap]

end Config

end TripleQuote
