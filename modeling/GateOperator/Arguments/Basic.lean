/-!
Options that set something, on a command line or in the environment, and what can be wrong with them.
-/

namespace GateOperator.Arguments

/-- The values of the variables that are set. -/
abbrev Environment := String → Option String

/-- How many values an option takes. -/
inductive Arity where
  /-- None; what counts is that it is given. -/
  | flag
  | one
  /-- At least one, and the option may be given again. -/
  | many
deriving DecidableEq

/-- What is wrong with a value. -/
inductive ValueFault where
  /-- It is empty and must not be. -/
  | empty
  | notAllowed
  | malformed (reason : String)
deriving DecidableEq

/-- An option that changes settings. -/
structure Parameter (σ : Type) where
  name : String
  about : String
  arity : Arity := .one
  /-- The variable that counts when the option is not given. -/
  fallback : Option String := none
  required : Bool := false
  /-- The settings with a value; for a flag the value is a truth value. -/
  take : String → σ → Except ValueFault σ

namespace Parameter

variable {σ : Type}

/-- The word that stands for a value. -/
def placeholder (p : Parameter σ) : String := p.name.map fun c => if c = '-' then '_' else c.toUpper

/-- The option with the word that stands for its value. -/
def shown (p : Parameter σ) : String :=
  match p.arity with
  | .flag => "--" ++ p.name
  | .one => "--" ++ p.name ++ " <" ++ p.placeholder ++ ">"
  | .many => "--" ++ p.name ++ " <" ++ p.placeholder ++ ">..."

end Parameter

/-- What the program can be asked to do. -/
inductive Mode where
  | operator
  | render
deriving DecidableEq

namespace Mode

def all : List Mode := [operator, render]

/-- The word that asks for a mode. -/
def name : Mode → String
  | operator => "operator"
  | render => "render"

/-- What the program does in a mode. -/
def about : Mode → String
  | operator => "Run the feature gate controllers (default mode)"
  | render => "Resolve rendered FeatureGate manifests in place for an installation payload"

/-- The mode that a word asks for. -/
def named? (word : String) : Option Mode := all.find? (·.name = word)

end Mode

/-- Why a command line starts nothing. Options are named as they are shown. -/
inductive ArgumentError where
  /-- Help is asked for, with a mode or with the program. -/
  | help (mode : Option Mode)
  /-- The version is asked for. -/
  | version
  | unknownArgument (argument : String)
  | unknownMode (word : String)
  /-- An option is given twice. -/
  | repeated (option : String)
  /-- A word stands where a mode could stand, had no options been given before it. -/
  | misplacedMode (word : String) (options : List String)
  | noValue (option : String)
  | valueNotAllowed (option value : String)
  | malformedValue (option value reason : String)
  /-- A value is given to a flag. -/
  | unneededValue (option value : String)
  | missing (options : List String)
deriving DecidableEq

namespace ArgumentError

def ofFault (option value : String) : ValueFault → ArgumentError
  | .empty => noValue option
  | .notAllowed => valueNotAllowed option value
  | .malformed reason => malformedValue option value reason

/-- The words for an error; none when there is nothing wrong. -/
def message? : ArgumentError → Option String
  | help _ | version => none
  | unknownArgument argument => "unexpected argument '" ++ argument ++ "' found"
  | unknownMode word => "unrecognized subcommand '" ++ word ++ "'"
  | repeated option => "the argument '" ++ option ++ "' cannot be used multiple times"
  | misplacedMode word options =>
    let start := "the subcommand '" ++ word ++ "' cannot be used with"
    match options with
    | [] => start ++ " one or more of the other specified arguments"
    | [option] => start ++ " '" ++ option ++ "'"
    | _ => "\n  ".intercalate ((start ++ ":") :: options)
  | noValue option => "a value is required for '" ++ option ++ "' but none was supplied"
  | valueNotAllowed option value => "invalid value '" ++ value ++ "' for '" ++ option ++ "'"
  | malformedValue option value reason =>
    "invalid value '" ++ value ++ "' for '" ++ option ++ "': " ++ reason
  | unneededValue option value =>
    "unexpected value '" ++ value ++ "' for '" ++ option ++ "' found; no more were expected"
  | missing options =>
    "\n  ".intercalate ("the following required arguments were not provided:" :: options)

end ArgumentError

end GateOperator.Arguments
