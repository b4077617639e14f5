import ScopeHints.Data.JsonReader
import ScopeHints.Data.Table
import ScopeHints.Settings.Check
import ScopeHints.Settings.Layer
import ScopeHints.Text.LowerCase

/-! Settings in environment variables. `HINTSCOPE__HINTS` holds a section as JSON, and
`HINTSCOPE__HINTS__MAX_RESULTS` one of its values; the case of the names does not count. -/
namespace ScopeHints.Environment

abbrev Variables := List (String × String)

def cut : List Char → List (List Char)
  | '_' :: '_' :: cs => [] :: cut cs
  | [] => [[]]
  | c :: cs =>
    match cut cs with
    | [] => [[c]]
    | l :: ls => (c :: l) :: ls

/-- The variables by their names in lower case; of two with one name the later wins. -/
def byName (vars : Variables) : Table String String :=
  Table.ofList (vars.map fun (name, s) => (Text.toLower name, s))

def keysBelow (group name : String) : Option (List String) :=
  (Json.afterPrefix? ("hintscope__" ++ group ++ "__").toList name.toList).map fun rest =>
    (cut rest).map String.ofList

def listKeys (group : String) : List String :=
  if group = "logging" then ["outputs"] else if group = "parser" then ["extensions"] else []

def sectionKeys (group : String) : List String :=
  if group = "logging" then ["level", "outputs"]
  else if group = "parser" then ["max_retries", "extensions"]
  else if group = "hints" then ["max_results", "include_keywords"]
  else if group = "worker" then ["max_workers", "thread_name_prefix"]
  else []

/-- Writes a value below nested keys. What is no record on the way stays as it is. -/
def setBelow (v : Value) : List String → List (Scalar × Value) → List (Scalar × Value)
  | [], fs => fs
  | [k], fs => Value.setField (.text k) v fs
  | k :: ks, fs =>
    match Value.fieldIn (.text k) fs with
    | none => Value.setField (.text k) (.record (setBelow v ks [])) fs
    | some (.record inner) => Value.setField (.text k) (.record (setBelow v ks inner)) fs
    | some _ => fs

/-- The value of a variable: JSON for a list unless it is empty, else its text. -/
def valueOf? (group : String) (keys : List String) (s : String) : Option Value :=
  match keys with
  | [k] => if (listKeys group).contains k && s ≠ "" then Json.read? s else some (.text s)
  | _ => some (.text s)

def singleValues (group : String) (vars : Table String String) :
    Option (List (Scalar × Value)) :=
  vars.entries.foldlM (fun fs (name, s) =>
    match keysBelow group name with
    | none => some fs
    | some keys => (valueOf? group keys s).map fun v => setBelow v keys fs) []

def properKey (group : String) : Scalar → Scalar
  | .text key => .text (((sectionKeys group).find? fun k => k = Text.toLower key).getD key)
  | key => key

def sectionOf (group : String) (vars : Table String String) : Option (Option Value) :=
  let named (fs : List (Scalar × Value)) : Value :=
    Value.ofFields (fs.map fun (k, v) => (properKey group k, v))
  match vars.get? ("hintscope__" ++ group) with
  | none => (singleValues group vars).map fun fs =>
    if fs.isEmpty then none else some (named fs)
  | some s =>
    match Json.read? s with
    | none => none
    | some .null => some none
    | some (.record base) => (singleValues group vars).map fun fs =>
      some (named (Value.overlay base fs))
    | some v => some (some v)

/-- The layer of settings in the variables; none if some of them holds malformed JSON. -/
def layer? (vars : Variables) : Option (List (Scalar × Value)) :=
  let vars := byName vars
  Settings.sectionNames.foldlM (fun fs group =>
    (sectionOf group vars).map fun
      | none => fs
      | some v => fs ++ [(.text group, v)]) []

end ScopeHints.Environment
