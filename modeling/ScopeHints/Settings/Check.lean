import ScopeHints.Data.JsonReader
import ScopeHints.Settings.Basic
import ScopeHints.Source.Path
import ScopeHints.Text.Blank

/-! Settings read from plain data. A value is taken over if it says without doubt what is meant;
otherwise the first one that does not is reported with its place and a reason. -/
namespace ScopeHints

inductive SettingsError where
  | rejected (place : List String) (value : Value) (reason : String)
  | unknownHome
  deriving Inhabited

abbrev Checked (α : Type) := Except SettingsError α

namespace Check

/-! ### Single values -/

/-- White space around a number; separators of records are not part of it. -/
def isPadding (c : Char) : Bool := Text.isBlank c && !(0x1C ≤ c.toNat && c.toNat ≤ 0x1F)

def trimmed (cs : List Char) : List Char :=
  ((cs.dropWhile isPadding).reverse.dropWhile isPadding).reverse

/-- A number that starts with zeros, without them. Low lines may stand among the zeros, and a
sign after them; of zeros before a point or the end the last one stays. -/
def withoutLeadingZeros (last : Char) : List Char → Option (List Char)
  | [] => some [last]
  | c :: cs =>
    if c = '0' || c = '_' then withoutLeadingZeros c cs
    else if c.isDigit || c = '-' then some (c :: cs)
    else if c = '.' then some (last :: c :: cs)
    else none

def normalDigits : List Char → Option (List Char)
  | [] => none
  | c :: cs =>
    if c = '0' then withoutLeadingZeros c cs
    else if c.isDigit then some (c :: cs)
    else none

def normalStart : List Char → Option (List Char)
  | '-' :: cs => (normalDigits cs).map ('-' :: ·)
  | cs => normalDigits cs

/-- Without a final point and the zeros after it, of which there must be some. -/
def withoutZeroFraction (cs : List Char) : List Char :=
  match cs.dropWhile (· ≠ '.') with
  | '.' :: z :: zs => if (z :: zs).all (· = '0') then cs.takeWhile (· ≠ '.') else cs
  | _ => cs

def withoutLines (cs : List Char) : List Char :=
  let doubled := (cs.zip (cs.drop 1)).any fun (a, b) => a = '_' && b = '_'
  if cs.head? = some '_' || cs.getLast? = some '_' || doubled then cs
  else cs.filter (· ≠ '_')

/-- A number as text: blanks around it, a plus before it, leading zeros, a fraction of zeros and
low lines between digits do not count. -/
def cleaned (s : String) : Option (List Char) :=
  let unsigned := match trimmed s.toList with
    | '+' :: '-' :: _ => none
    | '+' :: cs => some cs
    | cs => some cs
  (unsigned.bind normalStart).map fun cs => withoutLines (withoutZeroFraction cs)

inductive NumberError where
  | unreadable
  | tooLong
  deriving DecidableEq, Repr

def wholeNumber (cs : List Char) : Except NumberError Int :=
  let (negative, digits) := match cs with
    | '-' :: rest => (true, rest)
    | rest => (false, rest)
  let run := digits.takeWhile Char.isDigit
  if digits.head? = some '0' then if digits = ['0'] then .ok 0 else .error .unreadable
  else if Scalar.digitLimit < run.length then .error .tooLong
  else if run.isEmpty || run ≠ digits then .error .unreadable
  else
    let n : Int := Json.ofDigits digits
    .ok (if negative then -n else n)

def fitsWord (n : Int) : Bool := -9223372036854775808 ≤ n && n ≤ 9223372036854775807

/-- The least number of a word does not count among those that a real number may stand for. -/
def fitsReal (n : Int) : Bool := fitsWord n && n ≠ -9223372036854775808

def tooLarge : String := "Unable to parse input string as an integer, exceeded maximum size"

def integer : Value → Except String Int
  | .int n => .ok n
  | .bool b => .ok (if b then 1 else 0)
  | .real x =>
    match x with
    | .finite .. =>
      match x.toInt? with
      | some n => if fitsReal n then .ok n else .error tooLarge
      | none => .error "Input should be a valid integer, got a number with a fractional part"
    | _ => .error "Input should be a finite number"
  | .text s =>
    match (cleaned s).map wholeNumber with
    | some (.ok n) => .ok n
    | some (.error .tooLong) => .error tooLarge
    | _ => .error "Input should be a valid integer, unable to parse string as an integer"
  | _ => .error "Input should be a valid integer"

def integerFrom (name : String) (least : Int) (v : Value) : Except String Int := do
  let n ← integer v
  if n < least then
    .error ("Value error, " ++ name ++ " must be >= " ++ toString least ++ ", got " ++ toString n)
  else return n

def switchOfInt (n : Int) : Except String Bool :=
  if n = 0 then .ok false
  else if n = 1 then .ok true
  else .error "Input should be a valid boolean, unable to interpret input"

def switch : Value → Except String Bool
  | .bool b => .ok b
  | .int n => if fitsWord n then switchOfInt n else .error "Input should be a valid boolean"
  | .real x =>
    match x.toInt? with
    | some n => if fitsWord n then switchOfInt n else .error "Input should be a valid boolean"
    | none => .error "Input should be a valid boolean"
  | .text s =>
    let word := s.toLower
    if ["1", "t", "true", "y", "yes", "on"].contains word then .ok true
    else if ["0", "f", "false", "n", "no", "off"].contains word then .ok false
    else .error "Input should be a valid boolean, unable to interpret input"
  | _ => .error "Input should be a valid boolean"

def text : Value → Except String String
  | .text s => .ok s
  | _ => .error "Input should be a valid string"

def list : Value → Except String (List Value)
  | .list items => .ok items
  | _ => .error "Input should be a valid list"

/-- A record; `name` is what the record is called in the reason. -/
def fields (name : String) : Value → Except String (List (Scalar × Value))
  | .record fs => .ok fs
  | _ => .error ("Input should be a valid dictionary or instance of " ++ name)

def level (v : Value) : Except String LogLevel :=
  let found := match v with
    | .text s => LogLevel.ofSetting? s
    | _ => none
  match found with
  | some l => .ok l
  | none => .error "Input should be 'DEBUG', 'INFO', 'WARNING', 'ERROR' or 'CRITICAL'"

def optionalLevel : Value → Except String (Option LogLevel)
  | .null => .ok none
  | v => (level v).map some

def format : Value → Except String LogFormat
  | .text "json" => .ok .json
  | .text "console" => .ok .console
  | _ => .error "Input should be 'json' or 'console'"

/-! ### Places -/

def located {α : Type} (place : List String) (v : Value) (r : Except String α) : Checked α :=
  r.mapError fun reason => .rejected place v reason

def field {α : Type} (place : List String) (fs : List (Scalar × Value)) (name : String)
    (default : α) (check : Value → Except String α) : Checked α :=
  match Value.fieldIn (.text name) fs with
  | none => .ok default
  | some v => located (place ++ [name]) v (check v)

def items {α : Type} (place : List String) (check : List String → Value → Checked α)
    (l : List Value) : Checked (List α) :=
  l.zipIdx.mapM fun (v, i) => check (place ++ [toString i]) v

def listField {α : Type} (place : List String) (fs : List (Scalar × Value)) (name : String)
    (default : List α) (check : List String → Value → Checked α) : Checked (List α) :=
  match Value.fieldIn (.text name) fs with
  | none => .ok default
  | some v => do items (place ++ [name]) check (← located (place ++ [name]) v (list v))

def group {α : Type} (fs : List (Scalar × Value)) (name called : String) (default : α)
    (check : List String → List (Scalar × Value) → Checked α) : Checked α :=
  match Value.fieldIn (.text name) fs with
  | none => .ok default
  | some v => do check [name] (← located [name] v (fields called v))

/-! ### Sections -/

/-- A destination as it is kept: a standard stream, or an absolute path with the home directory
put in for a tilde. -/
def destination (homes : Homes) (place : List String) (v : Value) : Checked String := do
  let s ← located place v (text v)
  if s = "stderr" || s = "stdout" then return s
  match homes.expand? (Path.ofString s) with
  | none => .error .unknownHome
  | some p =>
    if p.isAbsolute then return p.render
    else .error (.rejected place v ("Value error, File destination must be absolute path: " ++ s))

def output (homes : Homes) (place : List String) (v : Value) : Checked LogOutput := do
  let fs ← located place v (fields "LogOutputConfig" v)
  let format ← field place fs "format" .console format
  let destination ← match Value.fieldIn (.text "destination") fs with
    | none => pure "stderr"
    | some d => destination homes (place ++ ["destination"]) d
  let level ← field place fs "level" none optionalLevel
  return { format, destination, level }

def namesUnknownHome (homes : Homes) (logging : Value) : Bool :=
  match logging.get? "outputs" with
  | some (.list outputs) => outputs.any fun o =>
    match o.get? "destination" with
    | some (.text s) => (homes.expand? (Path.ofString s)).isNone
    | _ => false
  | _ => false

def logging (homes : Homes) (place : List String) (fs : List (Scalar × Value)) :
    Checked LoggingSettings := do
  if namesUnknownHome homes (.record fs) then .error .unknownHome
  let level ← field place fs "level" .info level
  let outputs ← listField place fs "outputs" [{}] (output homes)
  return { level, outputs }

def parser (place : List String) (fs : List (Scalar × Value)) : Checked ParserSettings := do
  let maxRetries ← field place fs "max_retries" 10 (integerFrom "max_retries" 0)
  let extensions ← listField place fs "extensions" ({} : ParserSettings).extensions
    fun place v => located place v (text v)
  return { maxRetries, extensions }

def hints (place : List String) (fs : List (Scalar × Value)) : Checked HintSettings := do
  let maxResults ← field place fs "max_results" 100 (integerFrom "max_results" 1)
  let includeKeywords ← field place fs "include_keywords" true switch
  return { maxResults, includeKeywords }

def worker (place : List String) (fs : List (Scalar × Value)) : Checked WorkerSettings := do
  let maxWorkers ← field place fs "max_workers" 1 integer
  let namePrefix ← field place fs "thread_name_prefix" ({} : WorkerSettings).namePrefix text
  return { maxWorkers, namePrefix }

end Check

namespace Settings

def sectionNames : List String := ["logging", "parser", "hints", "worker"]

/-- The settings that some fields spell; other fields are passed over. -/
def ofFields (homes : Homes) (fs : List (Scalar × Value)) : Checked Settings := do
  let logging ← Check.group fs "logging" "LoggingConfig" {} (Check.logging homes)
  let parser ← Check.group fs "parser" "ParserConfig" {} Check.parser
  let hints ← Check.group fs "hints" "HintsConfig" {} Check.hints
  let worker ← Check.group fs "worker" "WorkerConfig" {} Check.worker
  return { logging, parser, hints, worker }

/-- The settings that some fields spell; no other field is allowed. -/
def ofExactFields (homes : Homes) (fs : List (Scalar × Value)) : Checked Settings := do
  let settings ← ofFields homes fs
  match fs.find? fun (key, _) => !(sectionNames.map Scalar.text).contains key with
  | none => return settings
  | some (key, v) => .error (.rejected [key.display] v "Extra inputs are not permitted")

end Settings

end ScopeHints
