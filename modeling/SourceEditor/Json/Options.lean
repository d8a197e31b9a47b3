/-
  SourceEditor/Json/Options.lean
  ==============================
  **Options as JSON.**  An object gives some of the options by name, an array gives the first of
  them in order, and the others keep their defaults.
-/
import SourceEditor.Json.Value
import SourceEditor.Options

namespace SourceEditor.Options

/-- The names of the options, in order. -/
def fieldNames : List String :=
  ["tab_stop", "shift_width", "expand_tab", "indent_case", "indent_access_specifier"]

/-- The options with the one of a name set; `none` if the value does not fit it.  A name that is
none of an option is passed over. -/
def setField? (o : Options) (name : String) (v : JsonValue) : Option Options :=
  match name, v with
  | "tab_stop", .number (some n) => some { o with tabStop := .ofNat n }
  | "shift_width", .number (some n) => some { o with shiftWidth := .ofNat n }
  | "expand_tab", .bool b => some { o with expandTab := b }
  | "indent_case", .bool b => some { o with indentCase := b }
  | "indent_access_specifier", .bool b => some { o with indentAccessSpecifier := b }
  | _, _ => if fieldNames.contains name then none else some o

/-- The options with those of some members set. -/
def setFields? (o : Options) : List (String × JsonValue) → Option Options
  | [] => some o
  | (name, v) :: rest => (o.setField? name v).bind fun o => o.setFields? rest

/-- The options of a JSON value: an object whose names are whole characters and in which no option
is named twice, or an array of at most as many values as there are options. -/
def ofJson? : JsonValue → Option Options
  | .object members => do
    let members ← members.mapM fun (name, v) => return (String.ofList (← name), v)
    let named := (members.map Prod.fst).filter fieldNames.contains
    if named.Nodup then setFields? {} members else none
  | .array elements =>
    if elements.length ≤ fieldNames.length then setFields? {} (fieldNames.zip elements) else none
  | _ => none

/-- Reads options from a JSON text. -/
def read (t : Text) : Option Options := (JsonValue.read t).bind ofJson?

/-- The JSON text of a truth value. -/
def jsonBool (b : Bool) : String := if b then "true" else "false"

/-- The options as an object in JSON, in order and without white space. -/
def toJson (o : Options) : String :=
  let fields := [toString o.tabStop, toString o.shiftWidth, jsonBool o.expandTab,
    jsonBool o.indentCase, jsonBool o.indentAccessSpecifier]
  let members := (fieldNames.zip fields).map fun (name, v) => "\"" ++ name ++ "\":" ++ v
  "\x7b" ++ ",".intercalate members ++ "\x7d"

end SourceEditor.Options
