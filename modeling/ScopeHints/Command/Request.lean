import ScopeHints.Command.Arguments
import ScopeHints.Settings.Check
import ScopeHints.Source.Folder
import ScopeHints.Text.Digit

/-! What the command line asks for, and the help on it. -/
namespace ScopeHints.Command

inductive CommandName where
  | scopes | hints
  deriving DecidableEq, Repr

def CommandName.word : CommandName → String
  | scopes => "scopes"
  | hints => "hints"

def CommandName.all : List CommandName := [.scopes, .hints]

def commandOf? (word : String) : Option CommandName := CommandName.all.find? fun c => c.word = word

inductive Request where
  | scopes (file : Path) (asJson : Bool)
  | hints (file : Path) (offset : Int) (typed : String) (isProperty : Bool)
      (object : Option String) (limit : Option Int) (asJson : Bool)
  deriving Repr

/-! ### Help -/

def toolVersion : String := "hintscope, version 0.1.0\n"

def toolUsage : String := "Usage: hintscope [OPTIONS] COMMAND [ARGS]...\n"

def toolHelp : String := toolUsage ++ "
  hintscope - lexical scope index and completion ranking for JavaScript.

Options:
  --version      Show the version and exit.
  -v, --verbose  Enable debug logging
  --help         Show this message and exit.

Commands:
  hints   Rank completions for FILE at OFFSET.
  scopes  Parse FILE and show its scope tree.
"

def usageOf (called : String) : String := "Usage: " ++ called ++ " [OPTIONS] FILE\n"

def helpOf (called : String) : CommandName → String
  | .scopes => usageOf called ++ "
  Parse FILE and show its scope tree.

Options:
  --json  Output as JSON
  --help  Show this message and exit.
"
  | .hints => usageOf called ++ "
  Rank completions for FILE at OFFSET.

  Sibling JavaScript files in the same directory contribute properties.

Options:
  --offset INTEGER RANGE  Cursor offset  [x>=0; required]
  --prefix TEXT           Text typed so far
  --property              Complete a property
  --context TEXT          Object name before the dot
  --limit INTEGER RANGE   Maximum hints  [x>=1]
  --json                  Output as JSON
  --help                  Show this message and exit.
"

def toolOptions : List OptionSpec := [
  { spellings := ["--version"] }, { spellings := ["-v", "--verbose"] }, { spellings := ["--help"] }]

def optionsOf : CommandName → List OptionSpec
  | .scopes => [{ spellings := ["--json"] }, { spellings := ["--help"] }]
  | .hints => [
    { spellings := ["--offset"], takesValue := true },
    { spellings := ["--prefix"], takesValue := true },
    { spellings := ["--property"] },
    { spellings := ["--context"], takesValue := true },
    { spellings := ["--limit"], takesValue := true },
    { spellings := ["--json"] }, { spellings := ["--help"] }]

/-! ### Values -/

def groupedDigits : List Char → Option (List Nat)
  | [] => none
  | [c] => (Text.digitOf? c).map fun d => [d]
  | c :: '_' :: rest => do return (← Text.digitOf? c) :: (← groupedDigits rest)
  | c :: rest => do return (← Text.digitOf? c) :: (← groupedDigits rest)

/-- A whole number in digits of any script, with white space around it and low lines between
digits. -/
def wholeNumber? (s : String) : Option Int :=
  let (negative, digits) := match Check.trimmed s.toList with
    | '-' :: rest => (true, rest)
    | '+' :: rest => (false, rest)
    | rest => (false, rest)
  (groupedDigits digits).bind fun ds =>
    let n : Int := (ds.foldl (fun n d => 10 * n + d) 0 : Nat)
    if Scalar.digitLimit < ds.length then none else some (if negative then -n else n)

def numberFrom (name : String) (least : Int) (s : String) : Except UsageError Int :=
  match wholeNumber? s with
  | none => .error (.badValue name (Text.quoted s ++ " is not a valid integer range."))
  | some n =>
    if n < least then
      .error (.badValue name
        (toString n ++ " is not in the range x>=" ++ toString least ++ "."))
    else .ok n

def leastOf? : String → Option Int
  | "--offset" => some 0
  | "--limit" => some 1
  | _ => none

def checkValues (a : Arguments) : List String → Except UsageError Unit
  | [] => .ok ()
  | name :: rest => do
    if let some least := leastOf? name then
      let _ ← numberFrom name least ((a.value? name).getD "")
    checkValues a rest

def number? (a : Arguments) (name : String) : Option Int := (a.value? name).bind wholeNumber?

inductive RequestError where
  | usage (e : UsageError)
  | badFileName

def fileOf (folder : Folder) (a : Arguments) : Except RequestError Path :=
  match a.positional with
  | [] => .error (.usage (.missingArgument "FILE"))
  | file :: _ =>
    match folder.find file with
    | .error .badName => .error .badFileName
    | .error _ => reject ("File " ++ Text.quoted file ++ " does not exist.")
    | .ok .directory => reject ("File " ++ Text.quoted file ++ " is a directory.")
    | .ok (.file _) => .ok (Path.ofString file)
where
  reject (reason : String) : Except RequestError Path := .error (.usage (.badValue "FILE" reason))

def noMore (a : Arguments) : Except UsageError Unit :=
  match a.positional.tail with
  | [] => .ok ()
  | extra => .error (.extraArguments extra)

def requestOf (folder : Folder) (command : CommandName) (args : List String) :
    Except RequestError (Option Request) := do
  let a ← (readArguments (optionsOf command) true none args).mapError .usage
  if a.has "--help" then return none
  (checkValues a a.names).mapError .usage
  let file ← fileOf folder a
  match command with
  | .scopes =>
    (noMore a).mapError .usage
    return some (.scopes file (a.has "--json"))
  | .hints =>
    match number? a "--offset" with
    | none => .error (.usage (.missingOption "--offset"))
    | some offset =>
      (noMore a).mapError .usage
      return some (.hints file offset ((a.value? "--prefix").getD "") (a.has "--property")
        (a.value? "--context") (number? a "--limit") (a.has "--json"))

end ScopeHints.Command
