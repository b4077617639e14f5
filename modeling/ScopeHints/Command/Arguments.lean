import ScopeHints.Data.Display
import ScopeHints.Text.Similarity

/-! Command-line arguments: options, flags and positional arguments. -/
namespace ScopeHints.Command

/-- An option with its spellings; the last one names it. An option without a value is a flag. -/
structure OptionSpec where
  spellings : List String
  takesValue : Bool := false
  deriving Repr, Inhabited

def OptionSpec.name (o : OptionSpec) : String := o.spellings.getLast?.getD ""

inductive UsageError where
  | noSuchOption (name : String) (close : List String)
  | needsValue (name : String)
  | takesNoValue (name : String)
  | missingOption (name : String)
  | missingArgument (name : String)
  | badValue (name reason : String)
  | extraArguments (args : List String)
  | noSuchCommand (name : String) (close : List String)
  | missingCommand
  deriving DecidableEq, Repr

def suggestion : List String → String
  | [] => ""
  | [name] => " Did you mean " ++ Text.quoted name ++ "?"
  | names => " (Did you mean one of: " ++ ", ".intercalate (names.map Text.quoted) ++ "?)"

def UsageError.message : UsageError → String
  | noSuchOption name close => "No such option " ++ Text.quoted name ++ "." ++ suggestion close
  | needsValue name => "Option " ++ Text.quoted name ++ " requires an argument."
  | takesNoValue name => "Option " ++ Text.quoted name ++ " does not take a value."
  | missingOption name => "Missing option '" ++ name ++ "'."
  | missingArgument name => "Missing argument '" ++ name ++ "'."
  | badValue name reason => "Invalid value for '" ++ name ++ "': " ++ reason
  | extraArguments args =>
    (if args.length = 1 then "Got unexpected extra argument ("
      else "Got unexpected extra arguments (") ++ " ".intercalate args ++ ")"
  | noSuchCommand name close =>
    "No such command " ++ Text.quoted name ++ "." ++ suggestion close
  | missingCommand => "Missing command."

/-- An option whose value is missing or too much is reported without help on the usage. -/
def UsageError.isTerse : UsageError → Bool
  | needsValue _ | takesNoValue _ => true
  | _ => false

structure Arguments where
  given : List (String × String) := []
  positional : List String := []
  deriving Repr, Inhabited

namespace Arguments

def withOption (a : Arguments) (name value : String) : Arguments :=
  { a with given := (name, value) :: a.given }

def value? (a : Arguments) (name : String) : Option String := a.given.reverse.lookup name

def has (a : Arguments) (name : String) : Bool := (a.value? name).isSome

def names (a : Arguments) : List String := (a.given.map Prod.fst).eraseDups

end Arguments

def looksLikeOption (arg : String) : Bool :=
  match arg.toList with
  | '-' :: _ :: _ => true
  | _ => false

def isShort (spelling : String) : Bool :=
  match spelling.toList with
  | ['-', c] => c ≠ '-'
  | _ => false

def longSpellings (specs : List OptionSpec) : List String :=
  (specs.flatMap (·.spellings)).filter fun s => !isShort s

def findOption (specs : List OptionSpec) (short : Bool) (spelling : String) : Option OptionSpec :=
  if isShort spelling = short then specs.find? fun o => o.spellings.contains spelling else none

/-- What an argument that looks like an option stands for: complete options, and the spelling of
one that still needs its value. -/
structure Reading where
  options : List (String × String) := []
  waiting : Option (String × String) := none

def readLetters (specs : List OptionSpec) : List Char → Except UsageError Reading
  | [] => .ok {}
  | c :: cs =>
    let spelling := String.ofList ['-', c]
    match findOption specs true spelling with
    | none => .error (.noSuchOption spelling [])
    | some o =>
      if o.takesValue then
        if cs.isEmpty then .ok { waiting := some (o.name, spelling) }
        else .ok { options := [(o.name, String.ofList cs)] }
      else (readLetters specs cs).map fun r => { r with options := (o.name, "") :: r.options }

def readOption (specs : List OptionSpec) (arg : String) : Except UsageError Reading :=
  let chars := arg.toList
  let long := String.ofList (chars.takeWhile (· ≠ '='))
  let explicit := if chars.contains '=' then
    some (String.ofList ((chars.dropWhile (· ≠ '=')).drop 1)) else none
  match findOption specs false long with
  | some o =>
    match o.takesValue, explicit with
    | true, some v => .ok { options := [(o.name, v)] }
    | true, none => .ok { waiting := some (o.name, long) }
    | false, some _ => .error (.takesNoValue long)
    | false, none => .ok { options := [(o.name, "")] }
  | none =>
    match chars with
    | '-' :: '-' :: _ => .error (.noSuchOption long (Text.closeTo long (longSpellings specs)))
    | _ => readLetters specs (chars.drop 1)

/-- Reads arguments from left to right. After two dashes no more options are read; if options may
not follow other arguments, neither are they after the first of these. -/
def readArguments (specs : List OptionSpec) (mixed : Bool) :
    Option (String × String) → List String → Except UsageError Arguments
  | some (_, spelling), [] => .error (.needsValue spelling)
  | some (name, _), v :: rest => do
    return (← readArguments specs mixed none rest).withOption name v
  | none, [] => .ok {}
  | none, arg :: rest =>
    if arg = "--" then .ok { positional := rest }
    else if looksLikeOption arg then do
      let r ← readOption specs arg
      let later ← readArguments specs mixed r.waiting rest
      return { later with given := r.options ++ later.given }
    else if mixed then do
      let later ← readArguments specs mixed none rest
      return { later with positional := arg :: later.positional }
    else .ok { positional := arg :: rest }

end ScopeHints.Command
